import Reckon.Proofs.Embedding
import Reckon.Proofs.Evaluation
import Reckon.Proofs.Nesting

set_option autoImplicit false

namespace Reckon

open Parse

-- No point of the source stands inside more than `bound` parentheses and signs.
def NestsWithin (bound : Nat) (source : String) : Prop :=
  ∀ place, openLevels ((Token.scan source).dropLast.take place) ≤ bound

-- The levels that are open at most are those of the derivation.
theorem nests_within_iff (bound : Nat) (source : String) (tree : Expr) (nesting : Nat)
    (derived : Derives (.chain .additive) (Token.scan source).dropLast tree nesting) :
    NestsWithin bound source ↔ nesting ≤ bound := by
  have passed := derives_advance nesting _ _ tree nesting [] derived (by simp) rfl
  constructor
  · intro shallow
    refine Nat.not_lt.mp (fun deep => ?_)
    obtain ⟨after, stuck⟩ := derives_too_deep bound _ _ [] tree nesting [] derived (Nat.zero_le _)
      (by simpa using deep) rfl
    have narrowed := advance_narrow nesting bound _ _ passed (fun earlier begins => by
      rw [List.prefix_iff_eq_take.mp begins]
      exact shallow earlier.length)
    rw [← Progress.start, reading_advance bound .start _ _ [] narrowed] at stuck
    cases stuck
  · intro within place
    exact Nat.le_trans (open_levels_within nesting _ _ place passed) within

-- In parentheses a source stands for its tree wherever an operand may stand.
theorem evaluated_group (ops : Arithmetic) (source : String) (value : Binary64) (bound : Nat)
    (evaluated : evaluateWith ops source = .ok value) (nests : NestsWithin bound source) :
    ∃ tree, tree.value ops = value ∧
      ∃ nesting ≤ bound + 1, Renders .signed ("(" ++ source ++ ")").toList tree nesting := by
  obtain ⟨tree, parsed, same⟩ := evaluated_parsed ops source value evaluated
  obtain ⟨nesting, _, derived⟩ := (parse_iff_derives source tree).mp parsed
  have within := (nests_within_iff bound source tree nesting derived).mp nests
  have grouped := renders_group _ tree nesting ((renders_source source tree nesting).mpr derived)
  refine ⟨tree, same, nesting + 1, Nat.succ_le_succ within, ?_⟩
  simpa using grouped

theorem renders_evaluated (ops : Arithmetic) (source : String) (tree : Expr) (nesting : Nat)
    (renders : Renders .signed source.toList tree nesting) (within : nesting ≤ maxDepth) :
    evaluateWith ops source = .ok (tree.value ops) := by
  have sentence := renders_widen .unary .additive _ tree nesting (by decide) renders
  exact evaluate_with_parsed ops source tree (parse_renders source tree nesting sentence within)

theorem evaluate_sign (ops : Arithmetic) (sign : Sign) (source : String) (tree : Expr) (nesting : Nat)
    (renders : Renders .signed source.toList tree nesting) (within : nesting < maxDepth) :
    evaluateWith ops (sign.symbol ++ source) = .ok ((Expr.unary sign tree).value ops) := by
  have signed := renders_sign sign _ tree nesting renders
  rw [← String.toList_append] at signed
  exact renders_evaluated ops _ _ _ signed within

theorem evaluate_operator (ops : Arithmetic) (op : Operator) (leftSource rightSource : String)
    (left right : Expr) (m n : Nat) (leftRenders : Renders .signed leftSource.toList left m)
    (rightRenders : Renders .signed rightSource.toList right n) (within : max m n ≤ maxDepth) :
    evaluateWith ops (leftSource ++ op.symbol ++ rightSource) =
      .ok (ops.apply op (left.value ops) (right.value ops)) := by
  obtain ⟨member, category⟩ := operator_level op
  have leftOperand := renders_widen .unary op.precedence _ left m (by cases op <;> decide) leftRenders
  have rightOperand := renders_widen .unary (operatorLevel op).operandLimit _ right n
    (by cases op <;> decide) rightRenders
  rw [category] at leftOperand
  rw [operand_limit] at rightOperand
  have whole := renders_joined _ op _ _ _ _ _ _ member leftOperand rightOperand
  rw [← category, ← String.toList_append, ← String.toList_append, ← String.append_assoc] at whole
  have sentence := renders_widen op.precedence .additive _ _ _ (looseness_additive _) whole
  exact evaluate_with_parsed ops _ _ (parse_renders _ _ _ sentence within)

-- A text in parentheses keeps its value in every longer text, as long as there is room for the
-- levels around it.
theorem evaluate_compositional (ops : Arithmetic) (a : String) (x : Binary64)
    (evaluated : evaluateWith ops a = .ok x) (nests : NestsWithin 99 a) :
    (∀ (op : Operator) (b : String) (y : Binary64), evaluateWith ops b = .ok y → NestsWithin 99 b →
      evaluateWith ops ("(" ++ a ++ ")" ++ op.symbol ++ "(" ++ b ++ ")") = .ok (ops.apply op x y)) ∧
    evaluateWith ops ("(" ++ a ++ ")") = .ok x ∧
    (NestsWithin 98 a → evaluateWith ops ("-(" ++ a ++ ")") = .ok (ops.negate x) ∧
      evaluateWith ops ("+(" ++ a ++ ")") = .ok x) := by
  obtain ⟨left, rfl, m, room, group⟩ := evaluated_group ops a x 99 evaluated nests
  refine ⟨fun op b y evaluatedRight nestsRight => ?_, renders_evaluated ops _ left m group room, fun deeper => ?_⟩
  · obtain ⟨right, rfl, n, rightRoom, rightGroup⟩ := evaluated_group ops b y 99 evaluatedRight nestsRight
    have whole := evaluate_operator ops op _ _ left right m n group rightGroup (Nat.max_le.mpr ⟨room, rightRoom⟩)
    simpa only [String.append_assoc] using whole
  · obtain ⟨tree, same, n, within, renders⟩ := evaluated_group ops a _ 98 evaluated deeper
    have minusText : "-(" = Sign.minus.symbol ++ "(" := by decide
    have plusText : "+(" = Sign.plus.symbol ++ "(" := by decide
    have signed := fun sign => evaluate_sign ops sign _ tree n renders (Nat.lt_succ_of_le within)
    simp only [← String.append_assoc] at signed
    rw [minusText, plusText, ← same]
    exact ⟨signed .minus, signed .plus⟩

-- A sign goes with the text in parentheses, not with what stands before them.
theorem evaluate_composed_signs :
    evaluateWith .ieee "-1" = .ok (Binary64.ofBits 0x3FF0000000000000).neg ∧ NestsWithin 98 "-1" ∧
    evaluateWith .ieee ("(" ++ "-1" ++ ")" ++ Operator.sub.symbol ++ "(" ++ "-1" ++ ")") =
      .ok (Binary64.sub (Binary64.ofBits 0x3FF0000000000000).neg (Binary64.ofBits 0x3FF0000000000000).neg) ∧
    evaluateWith .ieee ("-(" ++ "-1" ++ ")") = .ok (Binary64.ofBits 0x3FF0000000000000).neg.neg := by
  have one := renders_number _ _ _ (repr_number 1)
  have oneValue : Decimal.toBinary64 false ⟨1, 0⟩ = .ofBits 0x3FF0000000000000 := by decide +kernel
  have text : Sign.minus.symbol ++ Nat.repr 1 = "-1" := by decide
  rw [oneValue] at one
  generalize Binary64.ofBits 0x3FF0000000000000 = value at one
  have renders := renders_sign .minus _ _ _ one
  rw [← String.toList_append, text] at renders
  have evaluated := renders_evaluated .ieee _ _ _ renders (by decide)
  have derived := (renders_source _ _ _).mp (renders_widen .unary .additive _ _ _ (by decide) renders)
  have nests := fun bound => (nests_within_iff bound _ _ _ derived).mpr
  have composed := evaluate_compositional .ieee _ _ evaluated (nests 99 (by decide))
  exact ⟨evaluated, nests 98 (by decide), composed.1 .sub _ _ evaluated (nests 99 (by decide)),
    (composed.2.2 (nests 98 (by decide))).1⟩

end Reckon
