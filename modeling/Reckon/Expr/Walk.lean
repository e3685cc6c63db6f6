import Reckon.Expr.Basic

set_option autoImplicit false

namespace Reckon.Expr

-- A node is visited first, which schedules its operands, and closed after them.
inductive Task where
  | visit (node : Expr)
  | close (node : Expr)

def Task.work : Task → Nat
  | .visit node => 2 * node.size
  | .close _ => 1

def pendingWork : List Task → Nat
  | [] => 0
  | task :: tasks => task.work + pendingWork tasks

def walk {σ : Type} (close : Expr → σ → σ) (tasks : List Task) (state : σ) : σ :=
  match tasks with
  | [] => state
  | .close node :: tasks => walk close tasks (close node state)
  | .visit (.literal value) :: tasks => walk close tasks (close (.literal value) state)
  | .visit (.unary sign operand) :: tasks =>
      walk close (.visit operand :: .close (.unary sign operand) :: tasks) state
  | .visit (.binary op left right) :: tasks =>
      walk close (.visit left :: .visit right :: .close (.binary op left right) :: tasks) state
termination_by pendingWork tasks
decreasing_by
  all_goals simp only [pendingWork, Task.work, size]
  all_goals omega

def postorder {σ : Type} (close : Expr → σ → σ) (root : Expr) (state : σ) : σ :=
  walk close [.visit root] state

end Reckon.Expr
