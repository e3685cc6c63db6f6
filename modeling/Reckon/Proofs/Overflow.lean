import Reckon.Proofs.Reading
import Reckon.Proofs.Rendering

set_option autoImplicit false

namespace Reckon.Parse

open Token (Scanned)

-- The text of an infinite literal is scanned as a malformed token. Reading gets as far as the first
-- of them, and there an operand is due.
def Overflows (category : Category) (text : List Char) (nesting : Nat) : Prop :=
  ∃ before after, text = before ++ 'i' :: 'n' :: 'f' :: after ∧ 'i' ∉ before ∧
    ∀ pos, ∃ front back,
      Scanned pos text (front ++ ⟨.malformed, "inf", (pos + before.length : Nat)⟩ :: back) ∧
      ∀ limit levels, levels.length + nesting ≤ limit → Settled category levels →
        ∃ inner, ∀ rest,
          reading limit ⟨levels, true⟩ (front ++ rest) = reading limit ⟨inner, true⟩ rest

theorem overflows_literal : Overflows .signed (Binary64.infinite false).format.toList 0 := by
  refine ⟨[], [], rfl, by simp, fun pos => ⟨[], [], ?_, fun limit levels _ _ => ⟨levels, fun _ => rfl⟩⟩⟩
  exact Token.scanned_malformed pos 'i' ['n', 'f'] (by decide) (by decide +kernel)

theorem settled_tighter (tight loose : Precedence) (levels : List Enclosure)
    (order : tight.looseness ≤ loose.looseness) (settled : Settled (rendering loose) levels) :
    Settled (rendering tight) levels := by
  cases tight with
  | primary => trivial
  | unary => trivial
  | multiplicative =>
      cases loose with
      | primary => exact absurd order (by decide)
      | unary => exact absurd order (by decide)
      | multiplicative => exact settled
      | additive => exact settled
  | additive =>
      cases loose with
      | primary => exact absurd order (by decide)
      | unary => exact absurd order (by decide)
      | multiplicative => exact settled
      | additive => exact settled

theorem overflows_widen (tight loose : Precedence) (text : List Char) (nesting : Nat)
    (order : tight.looseness ≤ loose.looseness) (overflows : Overflows (rendering tight) text nesting) :
    Overflows (rendering loose) text nesting := by
  obtain ⟨before, after, split, plain, places⟩ := overflows
  refine ⟨before, after, split, plain, fun pos => ?_⟩
  obtain ⟨front, back, scanned, reads⟩ := places pos
  exact ⟨front, back, scanned, fun limit levels room settled =>
    reads limit levels room (settled_tighter tight loose levels order settled)⟩

-- What follows an overflow need only be scanned: it may be finite or overflow again.
theorem overflows_followed (category : Category) (text more : List Char) (c : Char) (nesting : Nat)
    (separator : Token.isSeparator c) (overflows : Overflows category text nesting) :
    Overflows category (text ++ c :: more) nesting := by
  obtain ⟨before, after, split, plain, places⟩ := overflows
  refine ⟨before, after ++ c :: more, by simp [split], plain, fun pos => ?_⟩
  obtain ⟨front, back, scanned, reads⟩ := places pos
  have joint := Token.scanned_append pos c text more _ _ separator scanned
    (Token.scanned_self (pos + text.length) (c :: more))
  rw [List.append_assoc, List.cons_append] at joint
  exact ⟨front, _, joint, reads⟩

theorem operator_not_letter (c : Char) (operator : Token.isOperatorChar c) : 'i' ≠ c := by
  rintro rfl
  exact absurd operator (by decide)

theorem overflows_opened (category : Category) (text : List Char) (c : Char) (nesting : Nat)
    (operator : Token.isOperatorChar c)
    (opened : ∀ pos, ∃ enclosure, opened? ⟨.operator, String.ofList [c], pos⟩ = some enclosure ∧
      ∀ levels, Settled category (enclosure :: levels))
    (overflows : Overflows category text nesting) : Overflows .signed (c :: text) (nesting + 1) := by
  obtain ⟨before, after, split, plain, places⟩ := overflows
  refine ⟨c :: before, after, by simp [split], by simp [plain, operator_not_letter c operator],
    fun pos => ?_⟩
  obtain ⟨front, back, scanned, reads⟩ := places (pos + 1)
  obtain ⟨enclosure, opening, settled⟩ := opened pos
  refine ⟨⟨.operator, String.ofList [c], pos⟩ :: front, back, ?_, ?_⟩
  · rw [List.length_cons, ← Nat.add_assoc, Nat.add_right_comm]
    exact Token.scanned_operator pos c _ _ operator scanned
  · intro limit levels room _
    obtain ⟨inner, reads⟩ := reads limit (enclosure :: levels) (by rw [List.length_cons]; omega)
      (settled levels)
    refine ⟨inner, fun rest => ?_⟩
    rw [List.cons_append, reading_step limit _ _ _ _ (step_opened limit levels _ _ opening (by omega))]
    exact reads rest

theorem overflows_group (text : List Char) (nesting : Nat)
    (overflows : Overflows (.chain .additive) text nesting) :
    Overflows .signed ('(' :: (text ++ [')'])) (nesting + 1) := by
  have closed := overflows_followed _ text [] ')' nesting (by decide) overflows
  exact overflows_opened (.chain .additive) _ '(' nesting (by decide)
    (fun pos => ⟨.group pos, opened_group _ rfl, fun _ => rfl⟩) closed

theorem overflows_sign (sign : Sign) (text : List Char) (nesting : Nat)
    (overflows : Overflows .signed text nesting) :
    Overflows .signed (sign.symbol.toList ++ text) (nesting + 1) := by
  obtain ⟨c, spelled, operator⟩ := sign_spelling sign
  have opened : ∀ pos, opened? ⟨.operator, String.ofList [c], pos⟩ = some .sign := fun pos =>
    opened_sign _ sign (by simp [Token.isOperator, spelled])
  rw [spelled, String.toList_ofList]
  exact overflows_opened .signed text c nesting operator
    (fun pos => ⟨.sign, opened pos, fun _ => trivial⟩) overflows

theorem overflows_parenthesized (limit : Precedence) (operand : Expr) (text : String) (nesting : Nat)
    (inner : Overflows (rendering operand.precedence) text.toList nesting) :
    Overflows (rendering limit) (Expr.parenthesize (operand.looserThan limit) text).toList
      (nesting + (operand.looserThan limit).toNat) :=
  parenthesized Overflows overflows_widen overflows_group limit operand text nesting inner

theorem overflows_right (level : Level) (op : Operator) (leftText rightText : List Char) (left : Expr)
    (m n : Nat) (member : op ∈ level.operators) (plain : 'i' ∉ leftText)
    (renders : Renders (.chain level) leftText left m) (overflows : Overflows level.operands rightText n) :
    Overflows (.chain level) (leftText ++ ' ' :: (op.symbol.toList ++ ' ' :: rightText)) (max m n) := by
  obtain ⟨before, after, split, rightPlain, places⟩ := overflows
  obtain ⟨c, spelled, operator⟩ := operator_spelling op
  have letter := operator_not_letter c operator
  refine ⟨leftText ++ ' ' :: c :: ' ' :: before, after, ?_, ?_, fun pos => ?_⟩
  · simp [split, spelled]
  · simp [plain, rightPlain, letter]
  · obtain ⟨leftTokens, leftScanned, derived⟩ := renders pos
    obtain ⟨front, back, scanned, reads⟩ := places (pos + leftText.length + 3)
    have place : pos + leftText.length + 3 + before.length =
        pos + (leftText ++ ' ' :: c :: ' ' :: before).length := by
      simp only [List.length_append, List.length_cons]
      omega
    rw [place] at scanned
    have joint := Token.scanned_append pos ' ' _ _ _ _ (by decide) leftScanned
      (scanned_symbol op _ _ _ scanned)
    refine ⟨leftTokens ++ ⟨.operator, op.symbol, (pos + leftText.length + 1 : Nat)⟩ :: front, back, ?_, ?_⟩
    · rw [List.append_assoc, List.cons_append]
      exact joint
    · intro limit levels room settled
      have closed : closeSigns levels = levels := settled
      have found := (operator_found level ⟨.operator, op.symbol, (pos + leftText.length + 1 : Nat)⟩ op).mpr
        ⟨member, by simp [Token.isOperator]⟩
      obtain ⟨inner, reads⟩ := reads limit levels (by omega) (settled_operand level levels settled)
      refine ⟨inner, fun rest => ?_⟩
      rw [List.append_assoc, List.cons_append,
        derives_reading limit _ leftTokens _ left m levels derived (by omega) settled, closed,
        reading_step limit _ _ _ _ (step_operator limit levels level op _ found)]
      exact reads rest

theorem parenthesized_letter (wrap : Bool) (text : String) (plain : 'i' ∉ text.toList) :
    'i' ∉ (Expr.parenthesize wrap text).toList := by
  cases wrap with
  | false => exact plain
  | true => simp [Expr.parenthesize, plain]

theorem finite_text_letter (tree : Expr) (finite : ∀ value ∈ tree.literals, value.isFinite) :
    'i' ∉ tree.text.toList := by
  induction tree with
  | literal value =>
      have bounded := finite value (by simp [Expr.literals])
      cases value with
      | nan => cases bounded
      | infinite negative => cases bounded
      | finite negative rank =>
          obtain ⟨kind, d, number, _⟩ := format_text rank
          have magnitude : 'i' ∉ (Binary64.finite false rank).format.toList := fun member =>
            absurd (number_text_chars kind _ d number 'i' member) (by decide)
          rw [Expr.text]
          cases negative with
          | false => exact magnitude
          | true =>
              rw [format_negative]
              simp [magnitude]
  | unary sign operand ih =>
      obtain ⟨c, spelled, operator⟩ := sign_spelling sign
      rw [Expr.text_unary, String.toList_append, spelled, String.toList_ofList]
      simp [operator_not_letter c operator, parenthesized_letter _ _ (ih finite)]
  | binary op left right ihLeft ihRight =>
      obtain ⟨c, spelled, operator⟩ := operator_spelling op
      have leftPlain := ihLeft (fun value inLeft => finite value (List.mem_append_left _ inLeft))
      have rightPlain := ihRight (fun value inRight => finite value (List.mem_append_right _ inRight))
      rw [binary_text, spelled, String.toList_ofList]
      simp [operator_not_letter c operator, parenthesized_letter _ _ leftPlain,
        parenthesized_letter _ _ rightPlain]

theorem overflows_deeper (category : Category) (text : List Char) (nesting deeper : Nat)
    (order : nesting ≤ deeper) (overflows : Overflows category text nesting) :
    Overflows category text deeper := by
  obtain ⟨before, after, split, plain, places⟩ := overflows
  refine ⟨before, after, split, plain, fun pos => ?_⟩
  obtain ⟨front, back, scanned, reads⟩ := places pos
  exact ⟨front, back, scanned, fun limit levels room => reads limit levels (by omega)⟩

theorem overflow_literal (tree : Expr)
    (range : ∀ value ∈ tree.literals, value.isFinite ∨ value = .infinite false)
    (beyond : ¬ ∀ value ∈ tree.literals, value.isFinite) : .infinite false ∈ tree.literals := by
  simp only [Classical.not_forall] at beyond
  obtain ⟨value, member, notFinite⟩ := beyond
  rcases range value member with finite | infinite
  · exact absurd finite notFinite
  · rw [← infinite]
    exact member

theorem overflows_tree (tree : Expr)
    (range : ∀ value ∈ tree.literals, value.isFinite ∨ value = .infinite false)
    (present : .infinite false ∈ tree.literals) :
    Overflows (rendering tree.precedence) tree.text.toList tree.textNesting := by
  induction tree with
  | literal value =>
      have infinite : value = .infinite false := by simpa [Expr.literals, eq_comm] using present
      subst infinite
      exact overflows_literal
  | unary sign operand ih =>
      have inner := overflows_parenthesized .unary operand _ _ (ih range present)
      rw [Expr.text_unary, String.toList_append]
      exact overflows_sign sign _ _ inner
  | binary op left right ihLeft ihRight =>
      obtain ⟨member, category⟩ := operator_level op
      have leftRange : ∀ value ∈ left.literals, value.isFinite ∨ value = .infinite false :=
        fun value inLeft => range value (List.mem_append_left _ inLeft)
      have rightRange : ∀ value ∈ right.literals, value.isFinite ∨ value = .infinite false :=
        fun value inRight => range value (List.mem_append_right _ inRight)
      rw [binary_text, Expr.textNesting, right_limit]
      -- The first overflow stands on the left if there is one at all.
      by_cases leftFinite : ∀ value ∈ left.literals, value.isFinite
      · have notLeft : .infinite false ∉ left.literals := fun inLeft => by cases leftFinite _ inLeft
        have rightOver := (List.mem_append.mp present).resolve_left notLeft
        have leftRenders := renders_parenthesized op.precedence left _ _ _ (renders_tree left leftFinite)
        have rightOverflows := overflows_parenthesized (operatorLevel op).operandLimit right _ _
          (ihRight rightRange rightOver)
        rw [category] at leftRenders
        rw [operand_limit] at rightOverflows
        have whole := overflows_right _ op _ _ _ _ _ member
          (parenthesized_letter _ _ (finite_text_letter left leftFinite)) leftRenders rightOverflows
        rw [← category] at whole
        exact whole
      · have leftOver := overflow_literal left leftRange leftFinite
        have inner := overflows_parenthesized op.precedence left _ _ (ihLeft leftRange leftOver)
        exact overflows_deeper _ _ _ _ (Nat.le_max_left _ _)
          (overflows_followed _ _ _ ' ' _ (by decide) inner)

end Reckon.Parse
