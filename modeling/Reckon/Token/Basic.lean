import Reckon.Text.Quoted

set_option autoImplicit false

namespace Reckon

inductive Token.Kind where
  | integer
  | float
  | operator
  | malformed
  | eof
deriving DecidableEq

structure Token where
  kind : Token.Kind
  text : String
  -- Where the text starts, counted in characters.
  pos : Int := 0
deriving DecidableEq

namespace Token

def Kind.name : Kind → String
  | .integer => "integer"
  | .float => "float"
  | .operator => "operator"
  | .malformed => "error"
  | .eof => "eof"

def Kind.all : List Kind := [.integer, .float, .operator, .malformed, .eof]

def Kind.ofName? (name : String) : Option Kind := Kind.all.find? (·.name == name)

def isLiteral (token : Token) : Bool := token.kind == .integer || token.kind == .float

def isOperator (token : Token) (spelling : String) : Bool :=
  token.kind == .operator && token.text == spelling

def describe (token : Token) : String :=
  if token.kind = .eof then "end of input" else Text.quoted token.text

def display (token : Token) : String := "<" ++ token.kind.name ++ "; " ++ token.text ++ ">"

end Token

end Reckon
