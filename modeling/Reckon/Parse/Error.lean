import Reckon.Token.Basic

set_option autoImplicit false

namespace Reckon

-- A place in a text: a column, counted from one, and the number of characters to mark.
structure Context where
  source : String
  column : Int
  length : Int := 1
deriving DecidableEq

def Context.display (context : Context) : String :=
  "column " ++ toString context.column ++ "\n  " ++ context.source ++ "\n  " ++
    String.ofList (List.replicate (context.column - 1).toNat ' ') ++
    String.ofList (List.replicate (max context.length 1).toNat '^')

namespace Parse

def maxDepth : Nat := 100

inductive Cause where
  | invalidToken
  | noExpression
  | emptyGroup (opened : Int)
  | unclosed (opened : Int)
  -- The expression ends before this token.
  | leftover
  | tooDeep
deriving DecidableEq

def Cause.message (token : Token) : Cause → String
  | .invalidToken => "Invalid token: " ++ Text.quoted token.text
  | .noExpression => "Expected an expression, got " ++ token.describe
  | .emptyGroup opened => "Expected an expression after '(' at position " ++ toString opened
  | .unclosed opened =>
      "Expected ')' to close '(' at position " ++ toString opened ++ ", got " ++ token.describe
  | .leftover => "Unexpected token after expression: " ++ token.describe
  | .tooDeep =>
      "Expression nested deeper than " ++ maxDepth.repr ++ " levels at " ++ token.describe

structure Error where
  cause : Cause
  index : Nat
  token : Token
  source : Option String
deriving DecidableEq

namespace Error

def short (error : Error) : String := error.cause.message error.token

def context? (error : Error) : Option Context :=
  error.source.map fun source => ⟨source, error.token.pos + 1, error.token.text.length⟩

def message (error : Error) : String :=
  match error.context? with
  | some context => error.short ++ "\n" ++ context.display
  | none => error.short

end Error

inductive Failure where
  | rejected (error : Error)
  | notANumber (text : String)
  | noEndMark
  -- No expression was found, and no reason was noted.
  | unexplained
deriving DecidableEq

def Failure.short : Failure → String
  | .rejected error => error.short
  | .notANumber text => "could not convert string to float: " ++ Text.quoted text
  | .noEndMark => "Token stream must end with an EOF token"
  | .unexplained => ""

def Failure.message : Failure → String
  | .rejected error => error.message
  | failure => failure.short

end Parse

end Reckon
