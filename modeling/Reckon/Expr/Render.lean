import Reckon.Decimal.Layout
import Reckon.Expr.Walk

set_option autoImplicit false

namespace Reckon.Expr

def parenthesize (wrap : Bool) (text : String) : String :=
  if wrap then "(" ++ text ++ ")" else text

-- Whether `operand` needs parentheses in a place that takes `limit` and tighter.
def looserThan (operand : Expr) (limit : Precedence) : Bool :=
  limit.looseness < operand.precedence.looseness

-- Whether `operand` needs parentheses in a place that takes only what is tighter than `limit`.
def notTighterThan (operand : Expr) (limit : Precedence) : Bool :=
  limit.looseness ≤ operand.precedence.looseness

-- The texts of the operands lie on top, the right one first; `none` if there are too few.
def renderNode? : Expr → List String → Option (List String)
  | .literal value, parts => some (value.format :: parts)
  | .unary sign operand, text :: parts =>
      some ((sign.symbol ++ parenthesize (operand.looserThan .unary) text) :: parts)
  | .binary op left right, rightText :: leftText :: parts =>
      some ((parenthesize (left.looserThan op.precedence) leftText ++ " " ++ op.symbol ++ " " ++
        parenthesize (right.notTighterThan op.precedence) rightText) :: parts)
  | _, _ => none

def renderParts? (tree : Expr) : Option (List String) :=
  postorder (fun node parts => parts.bind (renderNode? node)) tree (some [])

def render (tree : Expr) : String :=
  match tree.renderParts? with
  | some (text :: _) => text
  | _ => ""

end Reckon.Expr
