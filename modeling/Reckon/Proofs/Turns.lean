import Reckon.Proofs.Walk

set_option autoImplicit false

namespace Reckon.Expr

structure Walking (σ : Type) where
  pending : List Task
  state : σ

-- There is no turn without a pending task: the walk is over then.
inductive Turn {σ : Type} (close : Expr → σ → σ) : Walking σ → Walking σ → Prop where
  | close (node : Expr) (tasks : List Task) (state : σ) :
      Turn close ⟨.close node :: tasks, state⟩ ⟨tasks, close node state⟩
  | literal (value : Binary64) (tasks : List Task) (state : σ) :
      Turn close ⟨.visit (.literal value) :: tasks, state⟩ ⟨tasks, close (.literal value) state⟩
  | unary (sign : Sign) (operand : Expr) (tasks : List Task) (state : σ) :
      Turn close ⟨.visit (.unary sign operand) :: tasks, state⟩
        ⟨.visit operand :: .close (.unary sign operand) :: tasks, state⟩
  | binary (op : Operator) (left right : Expr) (tasks : List Task) (state : σ) :
      Turn close ⟨.visit (.binary op left right) :: tasks, state⟩
        ⟨.visit left :: .visit right :: .close (.binary op left right) :: tasks, state⟩

inductive Turns {σ : Type} (close : Expr → σ → σ) : Nat → Walking σ → Walking σ → Prop where
  | none (walking : Walking σ) : Turns close 0 walking walking
  | more {count : Nat} {walking next last : Walking σ} (turn : Turn close walking next)
      (others : Turns close count next last) : Turns close (count + 1) walking last

-- Operators are met twice, literals once.
def turns : Expr → Nat
  | .literal _ => 1
  | .unary _ operand => operand.turns + 2
  | .binary _ left right => left.turns + right.turns + 2

def turnsLeft : List Task → Nat
  | [] => 0
  | .visit node :: tasks => node.turns + turnsLeft tasks
  | .close _ :: tasks => turnsLeft tasks + 1

section

variable {σ : Type} (close : Expr → σ → σ)

-- A turn may put three tasks in the place of one, yet it leaves one turn less to come.
theorem turn_spends (walking next : Walking σ) (turn : Turn close walking next) :
    turnsLeft walking.pending = turnsLeft next.pending + 1 := by
  cases turn with
  | close node tasks state => rfl
  | literal value tasks state => simp only [turnsLeft, turns, Nat.add_comm]
  | unary sign operand tasks state =>
      simp only [turnsLeft, turns]
      omega
  | binary op left right tasks state =>
      simp only [turnsLeft, turns]
      omega

theorem turn_walk (walking next : Walking σ) (turn : Turn close walking next) :
    walk close next.pending next.state = walk close walking.pending walking.state := by
  cases turn <;> rw [walk]

-- What each turn keeps is kept by the whole run.
theorem turns_keep (Holds : Walking σ → Prop)
    (kept : ∀ walking next, Turn close walking next → Holds walking → Holds next)
    (count : Nat) (walking last : Walking σ) (run : Turns close count walking last)
    (holds : Holds walking) : Holds last := by
  induction run with
  | none walking => exact holds
  | more turn others ih => exact ih (kept _ _ turn holds)

theorem turns_spend (count : Nat) (walking last : Walking σ) (run : Turns close count walking last) :
    count + turnsLeft last.pending = turnsLeft walking.pending := by
  induction run with
  | none walking => exact Nat.zero_add _
  | more turn others ih =>
      rw [turn_spends close _ _ turn, ← ih]
      omega

theorem turns_first (walking next last : Walking σ) (turn : Turn close walking next)
    (others : Turns close (turnsLeft next.pending) next last) :
    Turns close (turnsLeft walking.pending) walking last := by
  rw [turn_spends close walking next turn]
  exact .more turn others

theorem walk_turns (tasks : List Task) (state : σ) :
    Turns close (turnsLeft tasks) ⟨tasks, state⟩ ⟨[], walk close tasks state⟩ := by
  fun_induction walk close tasks state with
  | case1 state => exact .none _
  | case2 state node tasks ih => exact turns_first close _ _ _ (.close node tasks state) ih
  | case3 state value tasks ih => exact turns_first close _ _ _ (.literal value tasks state) ih
  | case4 state sign operand tasks ih =>
      exact turns_first close _ _ _ (.unary sign operand tasks state) ih
  | case5 state op left right tasks ih =>
      exact turns_first close _ _ _ (.binary op left right tasks state) ih

-- Wherever a walk stands, it goes on to the same end, and the turns add up.
theorem turns_end (root : Expr) (state : σ) (count : Nat) (walking : Walking σ)
    (run : Turns close count ⟨[.visit root], state⟩ walking) :
    ∃ left, count + left = root.turns ∧
      Turns close left walking ⟨[], postorder close root state⟩ := by
  refine ⟨turnsLeft walking.pending, turns_spend close count _ walking run, ?_⟩
  have same : walk close walking.pending walking.state = postorder close root state :=
    turns_keep close
      (fun walking => walk close walking.pending walking.state = postorder close root state)
      (fun walking next turn kept => (turn_walk close walking next turn).trans kept)
      count _ walking run rfl
  rw [← same]
  exact walk_turns close walking.pending walking.state

end

def ownCode : Expr → Program
  | .literal value => [.push value]
  | .unary .plus _ => []
  | .unary .minus _ => [.negate]
  | .binary op .. => [.operate op]

def codeDue : List Task → Program
  | [] => []
  | .visit node :: tasks => node.code ++ codeDue tasks
  | .close node :: tasks => node.ownCode ++ codeDue tasks

theorem emit_own (node : Expr) (before : Program) :
    (emitNode node before).reverse = before.reverse ++ node.ownCode := by
  cases node with
  | literal value => exact List.reverse_cons
  | unary sign operand =>
      cases sign with
      | plus => exact (List.append_nil _).symm
      | minus => exact List.reverse_cons
  | binary op left right => exact List.reverse_cons

theorem unary_code (sign : Sign) (operand : Expr) :
    (unary sign operand).code = operand.code ++ (unary sign operand).ownCode := by
  cases sign with
  | plus => exact (List.append_nil _).symm
  | minus => rfl

-- The code so far is kept in reverse.
def CodeKept (root : Expr) (walking : Walking Program) : Prop :=
  walking.state.reverse ++ codeDue walking.pending = root.code

theorem turn_code (root : Expr) (walking next : Walking Program) (turn : Turn emitNode walking next)
    (kept : CodeKept root walking) : CodeKept root next := by
  refine Eq.trans ?_ kept
  cases turn with
  | close node tasks before => rw [emit_own, codeDue, List.append_assoc]
  | literal value tasks before => rw [emit_own, codeDue, ownCode, code, List.append_assoc]
  | unary sign operand tasks before => simp only [codeDue, unary_code, List.append_assoc]
  | binary op left right tasks before => simp only [codeDue, code, ownCode, List.append_assoc]

theorem compile_postorder (tree : Expr) :
    (∀ count walking, Turns emitNode count ⟨[.visit tree], []⟩ walking →
      CodeKept tree walking ∧ ∃ left, count + left = tree.turns ∧
        Turns emitNode left walking ⟨[], tree.code.reverse⟩) ∧
    tree.compile = tree.code := by
  refine ⟨fun count walking run => ⟨?_, ?_⟩, tree.compile_code⟩
  · exact turns_keep emitNode (CodeKept tree) (turn_code tree) count _ walking run
      (List.append_nil tree.code)
  · rw [← tree.compile_code, compile, List.reverse_reverse]
    exact turns_end emitNode tree [] count walking run

def renderClose (node : Expr) (parts : Option (List String)) : Option (List String) :=
  parts.bind (renderNode? node)

-- A node that waits to be closed finds the texts of its own operands on top, the right one first.
def Supplied (root : Expr) : List Task → List String → Prop
  | [], parts => parts = [root.text]
  | .visit node :: tasks, parts => Supplied root tasks (node.text :: parts)
  | .close (.literal value) :: tasks, parts => Supplied root tasks (value.format :: parts)
  | .close (.unary sign operand) :: tasks, parts =>
      ∃ below, parts = operand.text :: below ∧
        Supplied root tasks ((unary sign operand).text :: below)
  | .close (.binary op left right) :: tasks, parts =>
      ∃ below, parts = right.text :: left.text :: below ∧
        Supplied root tasks ((binary op left right).text :: below)

-- No stack of texts is left once a node has found too few of them.
def TextsKept (root : Expr) (walking : Walking (Option (List String))) : Prop :=
  ∃ parts, walking.state = some parts ∧ Supplied root walking.pending parts

theorem turn_texts (root : Expr) (walking next : Walking (Option (List String)))
    (turn : Turn renderClose walking next) (kept : TextsKept root walking) : TextsKept root next := by
  obtain ⟨parts, held, supplied⟩ := kept
  cases turn with
  | close node tasks state =>
      cases held
      cases node with
      | literal value => exact ⟨_, rfl, supplied⟩
      | unary sign operand =>
          obtain ⟨below, rfl, others⟩ := supplied
          rw [text_unary] at others
          exact ⟨_, rfl, others⟩
      | binary op left right =>
          obtain ⟨below, rfl, others⟩ := supplied
          rw [text_binary] at others
          exact ⟨_, rfl, others⟩
  | literal value tasks state =>
      cases held
      exact ⟨_, rfl, supplied⟩
  | unary sign operand tasks state => exact ⟨parts, held, parts, rfl, supplied⟩
  | binary op left right tasks state => exact ⟨parts, held, parts, rfl, supplied⟩

theorem render_structural (tree : Expr) :
    (∀ count walking, Turns renderClose count ⟨[.visit tree], some []⟩ walking →
      TextsKept tree walking ∧ ∃ left, count + left = tree.turns ∧
        Turns renderClose left walking ⟨[], some [tree.text]⟩) ∧
    tree.renderParts? = some [tree.text] ∧ tree.render = tree.text := by
  refine ⟨fun count walking run => ⟨?_, ?_⟩, tree.render_parts, ?_⟩
  · exact turns_keep renderClose (TextsKept tree) (turn_texts tree) count _ walking run ⟨[], rfl, rfl⟩
  · rw [← tree.render_parts]
    exact turns_end renderClose tree (some []) count walking run
  · rw [render, tree.render_parts]

end Reckon.Expr
