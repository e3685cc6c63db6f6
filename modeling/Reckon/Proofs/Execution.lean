import Reckon.Proofs.Compile

set_option autoImplicit false

namespace Reckon

def Instr.isPush : Instr → Bool
  | .push _ => true
  | _ => false

def Instr.isBinary : Instr → Bool
  | .operate _ => true
  | _ => false

namespace Program

-- The code that leaves the values of the trees on the stack, the first one on top.
def stackCode : List Expr → Program
  | [] => []
  | tree :: below => stackCode below ++ tree.code

theorem step_decompiles (ops : Arithmetic) (instr : Instr) (trees : List Expr) (stack : List Binary64)
    (stepped : step ops instr (trees.map (Expr.value ops)) = some stack) :
    ∃ after, stack = after.map (Expr.value ops) ∧ stackCode after = stackCode trees ++ [instr] := by
  cases instr with
  | push value =>
      cases stepped
      exact ⟨.literal value :: trees, rfl, rfl⟩
  | negate =>
      cases trees with
      | nil => cases stepped
      | cons tree below =>
          cases stepped
          exact ⟨.unary .minus tree :: below, rfl, (List.append_assoc _ _ _).symm⟩
  | operate op =>
      cases trees with
      | nil => cases stepped
      | cons right below =>
          cases below with
          | nil => cases stepped
          | cons left below =>
              cases stepped
              refine ⟨.binary op left right :: below, rfl, ?_⟩
              simp only [stackCode, Expr.code, List.append_assoc]

-- Every value on the stack is that of a tree whose code stands in one piece in what was run.
theorem run_decompiles (ops : Arithmetic) (index : Nat) (program : Program) (trees : List Expr)
    (stack : List Binary64) (ran : runFrom ops index program (trees.map (Expr.value ops)) = .ok stack) :
    ∃ after, stack = after.map (Expr.value ops) ∧ stackCode after = stackCode trees ++ program := by
  induction program generalizing index trees with
  | nil =>
      cases ran
      exact ⟨trees, rfl, (List.append_nil _).symm⟩
  | cons instr program ih =>
      rw [runFrom] at ran
      cases stepped : step ops instr (trees.map (Expr.value ops)) with
      | none =>
          rw [stepped] at ran
          cases ran
      | some next =>
          rw [stepped] at ran
          obtain ⟨reached, rfl, code⟩ := step_decompiles ops instr trees next stepped
          obtain ⟨after, result, whole⟩ := ih (index + 1) reached ran
          refine ⟨after, result, ?_⟩
          rw [whole, code, List.append_assoc, List.singleton_append]

theorem execute_ok (ops : Arithmetic) (program : Program) (value : Binary64) :
    execute ops program = .ok value ↔ runFrom ops 0 program [] = .ok [value] := by
  rw [execute]
  cases runFrom ops 0 program [] with
  | error fault => simp
  | ok stack =>
      rcases stack with _ | ⟨top, _ | ⟨next, below⟩⟩
      · simp [result]
      · simp [result]
      · simp [result]

theorem execute_iff_compiled (ops : Arithmetic) (program : Program) (value : Binary64) :
    execute ops program = .ok value ↔ ∃ tree : Expr, program = tree.compile ∧ value = tree.value ops := by
  rw [execute_ok]
  constructor
  · intro ran
    obtain ⟨trees, stack, code⟩ := run_decompiles ops 0 program [] [value] ran
    obtain ⟨tree, rfl, same⟩ := List.map_eq_singleton_iff.mp stack.symm
    exact ⟨tree, code.symm.trans tree.compile_code.symm, same.symm⟩
  · rintro ⟨tree, rfl, rfl⟩
    exact run_compiled ops tree 0 []

def depth (program : Program) : Int :=
  program.countP Instr.isPush - program.countP Instr.isBinary

-- The instruction takes more values than those before it leave.
def Starved (program : Program) (index : Nat) (instr : Instr) : Prop :=
  program[index]? = some instr ∧ depth (program.take index) < instr.arity

def FirstStarved (program : Program) (index : Nat) (instr : Instr) : Prop :=
  Starved program index instr ∧ ∀ earlier < index, ∀ other, ¬ Starved program earlier other

theorem depth_append (before after : Program) : depth (before ++ after) = depth before + depth after := by
  simp only [depth, List.countP_append]
  omega

theorem starved_here (before program : Program) (instr other : Instr) :
    Starved (before ++ instr :: program) before.length other ↔
      other = instr ∧ depth before < instr.arity := by
  rw [Starved, List.take_left, List.getElem?_append_right (Nat.le_refl _), Nat.sub_self,
    List.getElem?_cons_zero, Option.some.injEq]
  constructor
  · rintro ⟨rfl, short⟩
    exact ⟨rfl, short⟩
  · rintro ⟨rfl, short⟩
    exact ⟨rfl, short⟩

-- Each instruction puts one value in the place of those that it takes.
theorem depth_single (instr : Instr) : depth [instr] = 1 - instr.arity := by
  cases instr with
  | push value => rfl
  | negate => rfl
  | operate op => rfl

theorem step_depth (ops : Arithmetic) (instr : Instr) (stack : List Binary64) :
    match step ops instr stack with
    | some after => instr.arity ≤ stack.length ∧ (after.length : Int) = stack.length + depth [instr] ∧
        after ≠ []
    | none => stack.length < instr.arity := by
  rw [depth_single]
  cases instr with
  | push value => simp [step, Instr.arity]
  | negate =>
      cases stack with
      | nil => simp [step, Instr.arity]
      | cons top below => simp [step, Instr.arity]
  | operate op =>
      cases stack with
      | nil => simp [step, Instr.arity]
      | cons right below =>
          cases below with
          | nil => simp [step, Instr.arity]
          | cons left below =>
              simp only [step, Instr.arity, List.length_cons]
              exact ⟨by omega, by omega, List.cons_ne_nil _ _⟩

-- While nothing is starved the stack is as high as the depth of what was run.
theorem run_depth (ops : Arithmetic) (before program : Program) (stack : List Binary64)
    (level : (stack.length : Int) = depth before) (filled : before ≠ [] → stack ≠ [])
    (fed : ∀ index < before.length, ∀ instr, ¬ Starved (before ++ program) index instr) :
    match runFrom ops before.length program stack with
    | .ok after => (after.length : Int) = depth (before ++ program) ∧
        (before ++ program ≠ [] → after ≠ []) ∧ ∀ index instr, ¬ Starved (before ++ program) index instr
    | .error fault => ∃ index instr, fault = .underflow index instr ∧
        FirstStarved (before ++ program) index instr := by
  induction program generalizing before stack with
  | nil =>
      rw [List.append_nil] at fed ⊢
      refine ⟨level, filled, fun index instr starved => ?_⟩
      exact fed index (List.getElem?_eq_some_iff.mp starved.1).1 instr starved
  | cons instr program ih =>
      have outcome := step_depth ops instr stack
      rw [runFrom]
      cases stepped : step ops instr stack with
      | none =>
          rw [stepped] at outcome
          have short : depth before < instr.arity := by omega
          exact ⟨before.length, instr, rfl, (starved_here before program instr instr).mpr ⟨rfl, short⟩, fed⟩
      | some after =>
          rw [stepped] at outcome
          obtain ⟨enough, height, nonempty⟩ := outcome
          have next := ih (before ++ [instr]) after (by rw [depth_append, height, level]) (fun _ => nonempty)
          rw [List.length_append, List.length_singleton, List.append_assoc, List.singleton_append] at next
          refine next (fun index inside other starved => ?_)
          rcases Nat.lt_succ_iff_lt_or_eq.mp inside with earlier | rfl
          · exact fed index earlier other starved
          · have short := ((starved_here before program instr other).mp starved).2
            omega

theorem first_starved_unique (program : Program) (i j : Nat) (a b : Instr)
    (first : FirstStarved program i a) (again : FirstStarved program j b) : i = j ∧ a = b := by
  have same : i = j := by
    rcases Nat.lt_trichotomy i j with less | same | greater
    · exact absurd first.1 (again.2 i less a)
    · exact same
    · exact absurd again.1 (first.2 j greater b)
  subst same
  exact ⟨rfl, Option.some.inj (first.1.1.symm.trans again.1.1)⟩

theorem execute_depth (ops : Arithmetic) (program : Program) :
    (∃ index instr, execute ops program = .error (.underflow index instr) ∧
      FirstStarved program index instr) ∨
    (∀ index instr, ¬ Starved program index instr) ∧ ∃ stack, execute ops program = result stack ∧
      (stack.length : Int) = depth program ∧ (stack = [] ↔ program = []) := by
  have outcome := run_depth ops [] program [] rfl (absurd rfl) (fun _ inside => absurd inside (Nat.not_lt_zero _))
  rw [List.length_nil, List.nil_append] at outcome
  rw [execute]
  cases ran : runFrom ops 0 program [] with
  | error fault =>
      rw [ran] at outcome
      obtain ⟨index, instr, rfl, first⟩ := outcome
      exact .inl ⟨index, instr, rfl, first⟩
  | ok stack =>
      rw [ran] at outcome
      obtain ⟨height, filled, fed⟩ := outcome
      refine .inr ⟨fed, stack, rfl, height, fun empty => ?_, ?_⟩
      · exact Classical.byContradiction (fun nonempty => filled nonempty empty)
      · rintro rfl
        cases ran
        rfl

theorem result_faults (stack : List Binary64) :
    (∀ index instr, result stack ≠ .error (.underflow index instr)) ∧
    (result stack = .error .noResult ↔ stack = []) ∧
    (1 < stack.length → result stack = .error (.residue stack.length)) ∧
    (stack.length = 1 → ∃ value, result stack = .ok value) := by
  rcases stack with _ | ⟨top, _ | ⟨next, below⟩⟩
  · simp [result]
  · simp [result]
  · simp [result]

theorem faults_by_depth (ops : Arithmetic) (program : Program) :
    (∀ index instr, execute ops program = .error (.underflow index instr) ↔
      FirstStarved program index instr) ∧
    ((∀ index instr, ¬ Starved program index instr) →
      (execute ops program = .error .noResult ↔ program = []) ∧
      (program ≠ [] → 1 ≤ depth program ∧
        (1 < depth program → execute ops program = .error (.residue (depth program).toNat)) ∧
        (depth program = 1 → ∃ value, execute ops program = .ok value))) := by
  rcases execute_depth ops program with ⟨place, found, failed, first⟩ | ⟨fed, stack, ended, height, empty⟩
  · refine ⟨fun index instr => ?_, fun fed => absurd first.1 (fed place found)⟩
    rw [failed]
    constructor
    · rintro ⟨rfl, rfl⟩
      exact first
    · intro again
      obtain ⟨rfl, rfl⟩ := first_starved_unique program _ _ _ _ first again
      rfl
  · obtain ⟨notUnderflow, noResult, residue, value⟩ := result_faults stack
    rw [ended]
    refine ⟨fun index instr => ?_, fun _ => ⟨noResult.trans empty, fun nonempty => ⟨?_, ?_, ?_⟩⟩⟩
    · exact ⟨fun underflow => absurd underflow (notUnderflow index instr),
        fun first => absurd first.1 (fed index instr)⟩
    · have positive := List.length_pos_iff.mpr (fun none => nonempty (empty.mp none))
      omega
    · rw [← height, Int.toNat_natCast]
      intro more
      exact residue (by omega)
    · intro one
      exact value (by omega)

-- An operator that finds one value, and a sign that leaves the height as it is.
theorem faults_of_uneven_programs :
    execute .ieee [.push .zero, .operate .sub, .negate] = .error (.underflow 1 (.operate .sub)) ∧
    (∀ index instr, ¬ Starved [.push .zero, .negate, .push .zero] index instr) ∧
      execute .ieee [.push .zero, .negate, .push .zero] = .error (.residue 2) := by
  have first : FirstStarved [.push .zero, .operate .sub, .negate] 1 (.operate .sub) := by
    refine ⟨⟨rfl, by decide⟩, fun earlier less other starved => ?_⟩
    obtain ⟨found, short⟩ := starved
    cases Nat.lt_one_iff.mp less
    cases found
    exact absurd short (by decide)
  have fed : ∀ index instr, ¬ Starved [.push .zero, .negate, .push .zero] index instr := by
    rintro (_ | _ | _ | index) instr ⟨found, short⟩
    · cases found
      exact absurd short (by decide)
    · cases found
      exact absurd short (by decide)
    · cases found
      exact absurd short (by decide)
    · cases found
  exact ⟨((faults_by_depth _ _).1 _ _).mpr first, fed,
    (((faults_by_depth _ _).2 fed).2 (List.cons_ne_nil _ _)).2.1 (by decide)⟩

end Program

end Reckon
