import Reckon.Parse.Match
import Reckon.Token.Scan

set_option autoImplicit false

namespace Reckon.Parse

def errorAt (body : List Token) (endMark : Token) (source : Option String) (rest : List Token)
    (cause : Cause) : Error :=
  ⟨cause, body.length - rest.length, rest.head?.getD endMark, source⟩

/-- Parses the tokens before the end mark. A mishap beyond the end of the expression explains the
tokens left over better than the first of them does. -/
def parseBody (body : List Token) (endMark : Token) (source : Option String) :
    Except Failure Expr :=
  let reject rest cause := .error (.rejected (errorAt body endMark source rest cause))
  match chain maxDepth .additive body ⟨0, none⟩ with
  | .matched tree [] _ _ => .ok tree
  | .matched _ rest _ state =>
      match state.furthest with
      | some mishap =>
          if mishap.rest.length < rest.length then reject mishap.rest mishap.cause
          else reject rest .leftover
      | none => reject rest .leftover
  | .unmatched state =>
      match state.furthest with
      | some mishap => reject mishap.rest mishap.cause
      | none => .error .unexplained
  | .aborted (.tooDeep rest) => reject rest .tooDeep
  | .aborted (.notANumber text) => .error (.notANumber text)

-- The source only serves the context of an error.
def parseTokens (tokens : List Token) (source : Option String) : Except Failure Expr :=
  match tokens.getLast? with
  | some last =>
      if last.kind = .eof then parseBody tokens.dropLast last source else .error .noEndMark
  | none => .error .noEndMark

def parse (source : String) : Except Failure Expr :=
  parseTokens (Token.scan source) (some source)

end Reckon.Parse
