import Reckon.Expr.Compile
import Reckon.Expr.Render

set_option autoImplicit false

namespace Reckon.Expr

def foldNodes {σ : Type} (close : Expr → σ → σ) : Expr → σ → σ
  | .literal value, state => close (.literal value) state
  | .unary sign operand, state => close (.unary sign operand) (foldNodes close operand state)
  | .binary op left right, state =>
      close (.binary op left right) (foldNodes close right (foldNodes close left state))

-- The pending tasks are general: an operand is visited while its parent waits to be closed.
theorem walk_visit {σ : Type} (close : Expr → σ → σ) (node : Expr) (tasks : List Task) (state : σ) :
    walk close (.visit node :: tasks) state = walk close tasks (foldNodes close node state) := by
  induction node generalizing tasks state with
  | literal value => rw [walk, foldNodes]
  | unary sign operand ih => rw [walk, ih, walk, foldNodes]
  | binary op left right ihLeft ihRight => rw [walk, ihLeft, ihRight, walk, foldNodes]

theorem postorder_fold {σ : Type} (close : Expr → σ → σ) (root : Expr) (state : σ) :
    postorder close root state = foldNodes close root state := by
  rw [postorder, walk_visit, walk]

/-- The code of a tree by recursion. -/
def code : Expr → Program
  | .literal value => [.push value]
  | .unary .plus operand => operand.code
  | .unary .minus operand => operand.code ++ [.negate]
  | .binary op left right => left.code ++ right.code ++ [.operate op]

theorem fold_emit (tree : Expr) (before : Program) :
    foldNodes emitNode tree before = tree.code.reverse ++ before := by
  induction tree generalizing before with
  | literal value => rfl
  | unary sign operand ih =>
      cases sign with
      | plus => exact ih before
      | minus => simp [foldNodes, emitNode, code, ih]
  | binary op left right ihLeft ihRight => simp [foldNodes, emitNode, code, ihLeft, ihRight]

theorem compile_code (tree : Expr) : tree.compile = tree.code := by
  rw [compile, postorder_fold, fold_emit, List.append_nil, List.reverse_reverse]

def isBinary : Expr → Bool
  | .binary .. => true
  | _ => false

-- The class of the root, the tightest first: literals, signs, products, sums.
def coarseness : Expr → Nat
  | .literal _ => 0
  | .unary .. => 1
  | .binary .mul .. | .binary .div .. | .binary .mod .. => 2
  | .binary .add .. | .binary .sub .. => 3

/-- The text of a tree by recursion. -/
def text : Expr → String
  | .literal value => value.format
  | .unary sign operand =>
      sign.symbol ++ (if operand.isBinary then "(" ++ operand.text ++ ")" else operand.text)
  | .binary op left right =>
      (if coarseness (.binary op left right) < left.coarseness
        then "(" ++ left.text ++ ")" else left.text) ++
      " " ++ op.symbol ++ " " ++
      -- Operators of one class group to the left, so on the right an equal class needs them too.
      (if coarseness (.binary op left right) ≤ right.coarseness
        then "(" ++ right.text ++ ")" else right.text)

theorem coarseness_precedence (tree : Expr) : tree.coarseness = tree.precedence.looseness := by
  cases tree with
  | literal value => rfl
  | unary sign operand => rfl
  | binary op left right => cases op <;> rfl

theorem looser_than_sign (operand : Expr) : operand.looserThan .unary = operand.isBinary := by
  cases operand with
  | literal value => rfl
  | unary sign operand => rfl
  | binary op left right => cases op <;> rfl

theorem text_unary (sign : Sign) (operand : Expr) :
    (unary sign operand).text =
      sign.symbol ++ parenthesize (operand.looserThan .unary) operand.text := by
  rw [text, looser_than_sign, parenthesize]

theorem text_binary (op : Operator) (left right : Expr) :
    (binary op left right).text =
      parenthesize (left.looserThan op.precedence) left.text ++ " " ++ op.symbol ++ " " ++
        parenthesize (right.notTighterThan op.precedence) right.text := by
  have own : coarseness (binary op left right) = op.precedence.looseness :=
    coarseness_precedence (binary op left right)
  simp only [text, parenthesize, looserThan, notTighterThan, own, coarseness_precedence,
    decide_eq_true_eq]

-- Each node finds the texts of its own operands on top of the parts, so no step fails.
theorem fold_render (tree : Expr) (parts : List String) :
    foldNodes (fun node parts => parts.bind (renderNode? node)) tree (some parts) =
      some (tree.text :: parts) := by
  induction tree generalizing parts with
  | literal value => rfl
  | unary sign operand ih =>
      rw [foldNodes, ih, text_unary]
      rfl
  | binary op left right ihLeft ihRight =>
      rw [foldNodes, ihLeft, ihRight, text_binary]
      rfl

theorem render_parts (tree : Expr) : tree.renderParts? = some [tree.text] := by
  rw [renderParts?, postorder_fold, fold_render]

end Reckon.Expr
