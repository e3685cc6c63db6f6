import Reckon.Proofs.Walk
import Reckon.Program.Run

set_option autoImplicit false

namespace Reckon

/-- The value of a tree by recursion. -/
def Expr.value (ops : Arithmetic) : Expr → Binary64
  | .literal value => value
  | .unary .plus operand => operand.value ops
  | .unary .minus operand => ops.negate (operand.value ops)
  | .binary op left right => ops.apply op (left.value ops) (right.value ops)

namespace Program

-- Code runs in front of any other code and on any stack: it pushes one value and leaves the rest.
theorem run_code (ops : Arithmetic) (tree : Expr) (index : Nat) (after : Program)
    (stack : List Binary64) :
    runFrom ops index (tree.code ++ after) stack =
      runFrom ops (index + tree.code.length) after (tree.value ops :: stack) := by
  induction tree generalizing index after stack with
  | literal value => rfl
  | unary sign operand ih =>
      cases sign with
      | plus => exact ih index after stack
      | minus =>
          rw [Expr.code, List.append_assoc, ih, List.length_append, ← Nat.add_assoc]
          rfl
  | binary op left right ihLeft ihRight =>
      rw [Expr.code, List.append_assoc, List.append_assoc, ihLeft, ihRight]
      simp only [List.length_append, ← Nat.add_assoc]
      rfl

-- No instruction of a compiled tree finds too few values, whatever the stack below holds.
theorem run_compiled (ops : Arithmetic) (tree : Expr) (index : Nat) (stack : List Binary64) :
    runFrom ops index tree.compile stack = .ok (tree.value ops :: stack) := by
  have run := run_code ops tree index [] stack
  rw [List.append_nil] at run
  rw [tree.compile_code, run]
  rfl

theorem execute_compile (ops : Arithmetic) (tree : Expr) :
    execute ops tree.compile = .ok (tree.value ops) := by
  rw [execute, run_compiled]
  rfl

end Program

end Reckon
