import Mathlib.Logic.Relation
import Reckon.Proofs.SourceRoundTrip

set_option autoImplicit false

namespace Reckon

-- What a token says: the value of a literal, and the kind and text of any other token.
inductive Meaning where
  | number (value : Option Binary64)
  | symbol (kind : Token.Kind) (text : String)
deriving DecidableEq

namespace Expr

def wrapped (wrap : Bool) (meanings : List Meaning) : List Meaning :=
  if wrap then .symbol .operator "(" :: (meanings ++ [.symbol .operator ")"]) else meanings

-- What the tokens of the text of a tree say.
def meanings : Expr → List Meaning
  | .literal value => [.number (some value)]
  | .unary sign operand =>
      .symbol .operator sign.symbol :: wrapped (operand.looserThan .unary) operand.meanings
  | .binary op left right =>
      wrapped (left.looserThan op.precedence) left.meanings ++
        .symbol .operator op.symbol :: wrapped (right.notTighterThan op.precedence) right.meanings

end Expr

namespace Parse

open Reckon.Expr (wrapped)

end Parse

end Reckon
