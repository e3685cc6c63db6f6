import Reckon.Expr.Basic
import Reckon.Schema.Issue

set_option autoImplicit false

namespace Reckon.Schema

-- Of several kinds that fit, the one that uses most members is taken, those further down counted
-- too.
structure Built where
  tree : Expr
  members : Nat

-- The members of an object, each with what it gives as an operand.
abbrev Members := List (String × Json × Checked Built)

def asLiteral (members : Members) : Checked Built :=
  (field members "value" fun (json, _) => number json).map fun value => ⟨.literal value, 1⟩

def asUnary (members : Members) : Checked Built :=
  (both (field members "op" fun (json, _) => choice Sign.all Sign.symbol json)
    (field members "operand" fun (_, operand) => operand)).map
    fun (sign, operand) => ⟨.unary sign operand.tree, operand.members + 2⟩

def asBinary (members : Members) : Checked Built :=
  (both (field members "op" fun (json, _) => choice Operator.all Operator.symbol json)
    (both (field members "left" fun (_, left) => left)
      (field members "right" fun (_, right) => right))).map
    fun (op, left, right) => ⟨.binary op left.tree right.tree, left.members + right.members + 3⟩

-- The first of equals; the issues of both if neither is a tree.
def better : Checked Built → Checked Built → Checked Built
  | .ok a, .ok b => .ok (if a.members < b.members then b else a)
  | .ok a, .error _ => .ok a
  | .error _, .ok b => .ok b
  | .error first, .error second => .error (first ++ second)

/-- The tree of whichever kind the members fit best. -/
def ofMembers (members : Members) : Checked Built :=
  better (better (under "Literal" (asLiteral members)) (under "UnaryExpr" (asUnary members)))
    (under "BinaryExpr" (asBinary members))

mutual

def child : Json → Checked Built
  | .obj members => ofMembers (children members)
  | _ =>
      .error (["Literal", "UnaryExpr", "BinaryExpr"].map fun kind => ⟨.notObject kind, [kind]⟩)

def children : List (String × Json) → Members
  | [] => []
  | (name, json) :: members => (name, json, child json) :: children members

end

inductive Kind where
  | literal
  | unary
  | binary
deriving DecidableEq

def tree (kind : Kind) (members : List (String × Json)) : Checked Expr :=
  let members := children members
  (match kind with
    | .literal => asLiteral members
    | .unary => asUnary members
    | .binary => asBinary members).map Built.tree

end Reckon.Schema
