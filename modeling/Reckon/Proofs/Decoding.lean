import Reckon.Proofs.SourceRoundTrip

set_option autoImplicit false

namespace Reckon

namespace Expr

-- Every plus sign gives way to its operand.
def withoutPlus : Expr → Expr
  | .literal value => .literal value
  | .unary .plus operand => operand.withoutPlus
  | .unary .minus operand => .unary .minus operand.withoutPlus
  | .binary op left right => .binary op left.withoutPlus right.withoutPlus

-- Equality of trees with literals compared as numbers.
def numericEq : Expr → Expr → Bool
  | .literal a, .literal b => a.numericEq b
  | .unary sign operand, .unary sign' operand' => sign == sign' && operand.numericEq operand'
  | .binary op left right, .binary op' left' right' =>
      op == op' && (left.numericEq left' && right.numericEq right')
  | _, _ => false

theorem without_plus_literals (tree : Expr) : tree.withoutPlus.literals = tree.literals := by
  induction tree with
  | literal value => rfl
  | unary sign operand ih => cases sign <;> exact ih
  | binary op left right ihLeft ihRight => rw [withoutPlus, literals, ihLeft, ihRight, literals]

theorem code_last (tree : Expr) :
    (∃ value, tree.withoutPlus = .literal value ∧ tree.code = [] ++ [.push value]) ∨
    (∃ operand : Expr, tree.withoutPlus = .unary .minus operand.withoutPlus ∧
      tree.code = operand.code ++ [.negate]) ∨
    ∃ (op : Operator) (left right : Expr),
      tree.withoutPlus = .binary op left.withoutPlus right.withoutPlus ∧
      tree.code = left.code ++ right.code ++ [.operate op] := by
  induction tree with
  | literal value => exact .inl ⟨value, rfl, rfl⟩
  | unary sign operand ih =>
      cases sign with
      | plus => exact ih
      | minus => exact .inr (.inl ⟨operand, rfl, rfl⟩)
  | binary op left right _ _ => exact .inr (.inr ⟨op, left, right, rfl, rfl⟩)

end Expr

namespace Program

theorem numeric_eq_concat (program other : Program) (last otherLast : Instr) :
    numericEq (program ++ [last]) (other ++ [otherLast]) =
      (numericEq program other && last.numericEq otherLast) := by
  induction program generalizing other with
  | nil =>
      rcases other with _ | ⟨first, _ | ⟨second, rest⟩⟩
      · simp [numericEq]
      · simp [numericEq]
      · simp [numericEq]
  | cons instr program ih =>
      cases other with
      | nil => cases program <;> simp [numericEq]
      | cons first rest => simp [numericEq, ih, Bool.and_assoc]

theorem numeric_eq_behind (before before' front front' : Program) (last last' : Instr) :
    numericEq (before ++ (front ++ [last])) (before' ++ (front' ++ [last'])) =
      (numericEq (before ++ front) (before' ++ front') && last.numericEq last') := by
  rw [← List.append_assoc, ← List.append_assoc]
  exact numeric_eq_concat _ _ last last'

-- The code may stand behind any other, as that of a right operand stands behind the left one's.
theorem numeric_eq_code (a b : Expr) (before before' : Program) :
    numericEq (before ++ a.code) (before' ++ b.code) =
      (numericEq before before' && a.withoutPlus.numericEq b.withoutPlus) := by
  induction a generalizing b before before' with
  | literal value =>
      have own : (Expr.literal value).code = [] ++ [.push value] := rfl
      rcases b.code_last with ⟨other, root, code⟩ | ⟨operand, root, code⟩ | ⟨op, left, right, root, code⟩
      · rw [own, code, numeric_eq_behind, List.append_nil, List.append_nil, root]
        rfl
      · rw [own, code, numeric_eq_behind, root]
        simp [Instr.numericEq, Expr.withoutPlus, Expr.numericEq]
      · rw [own, code, numeric_eq_behind, root]
        simp [Instr.numericEq, Expr.withoutPlus, Expr.numericEq]
  | unary sign operand ih =>
      cases sign with
      | plus => exact ih b before before'
      | minus =>
          rcases b.code_last with ⟨other, root, code⟩ | ⟨operand', root, code⟩ | ⟨op, left, right, root, code⟩
          · rw [Expr.code, code, numeric_eq_behind, root]
            simp [Instr.numericEq, Expr.withoutPlus, Expr.numericEq]
          · rw [Expr.code, code, numeric_eq_behind, ih, root]
            exact Bool.and_true _
          · rw [Expr.code, code, numeric_eq_behind, root]
            simp [Instr.numericEq, Expr.withoutPlus, Expr.numericEq]
  | binary op left right ihLeft ihRight =>
      rcases b.code_last with ⟨other, root, code⟩ | ⟨operand, root, code⟩ | ⟨op', left', right', root, code⟩
      · rw [Expr.code, code, numeric_eq_behind, root]
        simp [Instr.numericEq, Expr.withoutPlus, Expr.numericEq]
      · rw [Expr.code, code, numeric_eq_behind, root]
        simp [Instr.numericEq, Expr.withoutPlus, Expr.numericEq]
      · rw [Expr.code, code, numeric_eq_behind, ← List.append_assoc, ← List.append_assoc, ihRight, ihLeft, root]
        simp only [Instr.numericEq, Expr.withoutPlus, Expr.numericEq]
        rw [Bool.and_comm (op == op'), Bool.and_assoc, Bool.and_assoc, Bool.and_assoc]

end Program

-- Neither NaN nor negative: among such numbers those of one value are one number.
def Binary64.Unsigned (value : Binary64) : Prop := value ≠ .nan ∧ value.isNegative = false

theorem Binary64.numeric_eq_unsigned (a b : Binary64) (plain : a.Unsigned) (otherPlain : b.Unsigned) :
    a.numericEq b = true ↔ a = b := by
  cases a with
  | nan => exact absurd rfl plain.1
  | infinite negative => cases b <;> simp [numericEq]
  | finite negative rank =>
      cases b with
      | nan => simp [numericEq]
      | infinite other => simp [numericEq]
      | finite other otherRank =>
          have same : negative = other := plain.2.trans otherPlain.2.symm
          simp [numericEq, same]

theorem Expr.numeric_eq_unsigned (a b : Expr) (plain : ∀ value ∈ a.literals, value.Unsigned)
    (otherPlain : ∀ value ∈ b.literals, value.Unsigned) : a.numericEq b = true ↔ a = b := by
  induction a generalizing b with
  | literal value =>
      cases b with
      | literal other =>
          simp [Expr.numericEq, Binary64.numeric_eq_unsigned value other
            (plain value (by simp [literals])) (otherPlain other (by simp [literals]))]
      | unary sign operand => simp [Expr.numericEq]
      | binary op left right => simp [Expr.numericEq]
  | unary sign operand ih =>
      cases b with
      | literal other => simp [Expr.numericEq]
      | unary sign' operand' => simp [Expr.numericEq, ih operand' plain otherPlain]
      | binary op left right => simp [Expr.numericEq]
  | binary op left right ihLeft ihRight =>
      cases b with
      | literal other => simp [Expr.numericEq]
      | unary sign operand => simp [Expr.numericEq]
      | binary op' left' right' =>
          simp only [literals, List.mem_append, or_imp, forall_and] at plain otherPlain
          simp [Expr.numericEq, ihLeft left' plain.1 otherPlain.1, ihRight right' plain.2 otherPlain.2]

theorem Parse.parsed_unsigned (source : String) (tree : Expr) (parsed : parse source = .ok tree)
    (value : Binary64) (member : value ∈ tree.withoutPlus.literals) : value.Unsigned := by
  rw [Expr.without_plus_literals] at member
  obtain ⟨plain, finite | infinite⟩ := parsed_plain source tree parsed value member
  · refine ⟨?_, plain⟩
    rintro rfl
    cases finite
  · subst infinite
    exact ⟨by decide, plain⟩

open Parse (parse)

-- Plus signs have no instruction; they are all that equal programs leave open.
theorem code_determines_tree :
    (∀ a b : Expr, Program.numericEq a.compile b.compile = true ↔
      a.withoutPlus.numericEq b.withoutPlus = true) ∧
    ∀ (source other : String) (a b : Expr), parse source = .ok a → parse other = .ok b →
      ∃ program otherProgram, compile source = .ok program ∧ compile other = .ok otherProgram ∧
        (program.numericEq otherProgram = true ↔ a.withoutPlus = b.withoutPlus) := by
  have codes : ∀ a b : Expr, Program.numericEq a.compile b.compile = a.withoutPlus.numericEq b.withoutPlus := by
    intro a b
    rw [a.compile_code, b.compile_code]
    exact Program.numeric_eq_code a b [] []
  refine ⟨fun a b => by rw [codes], fun source other a b parsed otherParsed => ?_⟩
  refine ⟨a.compile, b.compile, by rw [compile, parsed]; rfl, by rw [compile, otherParsed]; rfl, ?_⟩
  rw [codes]
  exact Expr.numeric_eq_unsigned _ _ (Parse.parsed_unsigned source a parsed)
    (Parse.parsed_unsigned other b otherParsed)

-- Plus signs on both sides of a minus sign leave no trace; a second minus sign does.
theorem code_of_signed_numbers :
    (∃ program other, compile "+-+2" = .ok program ∧ compile "-2" = .ok other ∧
      program.numericEq other = true) ∧
    ∃ program other, compile "--2" = .ok program ∧ compile "-2" = .ok other ∧
      ¬ program.numericEq other = true := by
  have two := Parse.renders_number _ _ _ (repr_number 2)
  generalize Decimal.toBinary64 false ⟨2, 0⟩ = value at two
  have minus := Parse.renders_sign .minus _ _ _ two
  have minusMinus := Parse.renders_sign .minus _ _ _ minus
  have mixed := Parse.renders_sign .plus _ _ _ (Parse.renders_sign .minus _ _ _ (Parse.renders_sign .plus _ _ _ two))
  have sentence := fun source tree nesting (renders : Parse.Renders .signed source tree nesting) =>
    Parse.renders_widen .unary .additive source tree nesting (by decide) renders
  have minusParsed := Parse.parse_renders "-2" _ _ (sentence _ _ _ minus) (by decide)
  have doubleParsed := Parse.parse_renders "--2" _ _ (sentence _ _ _ minusMinus) (by decide)
  have mixedParsed := Parse.parse_renders "+-+2" _ _ (sentence _ _ _ mixed) (by decide)
  obtain ⟨program, other, compiled, otherCompiled, same⟩ :=
    code_determines_tree.2 _ _ _ _ mixedParsed minusParsed
  obtain ⟨double, minusCode, doubleCompiled, minusCompiled, different⟩ :=
    code_determines_tree.2 _ _ _ _ doubleParsed minusParsed
  refine ⟨⟨program, other, compiled, otherCompiled, same.mpr rfl⟩,
    double, minusCode, doubleCompiled, minusCompiled, fun equal => ?_⟩
  have trees := different.mp equal
  simp [Expr.withoutPlus] at trees

end Reckon
