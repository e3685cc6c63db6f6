import Reckon.Evaluate
import Reckon.Proofs.Overflow
import Reckon.Proofs.RoundTrip

set_option autoImplicit false

namespace Reckon

theorem Decimal.unsigned_value (d : Decimal) :
    (d.toBinary64 false).isNegative = false ∧
      ((d.toBinary64 false).isFinite ∨ d.toBinary64 false = .infinite false) := by
  rw [Decimal.toBinary64, Binary64.ofRank]
  split
  · exact ⟨rfl, .inl rfl⟩
  · exact ⟨rfl, .inr rfl⟩

theorem Expr.split_signs_plain (tree : Expr)
    (plain : ∀ value ∈ tree.literals, value.isNegative = false) : tree.splitSigns = tree := by
  induction tree with
  | literal value => simp [Expr.splitSigns, plain value (by simp [Expr.literals])]
  | unary sign operand ih => rw [Expr.splitSigns, ih plain]
  | binary op left right ihLeft ihRight =>
      rw [Expr.splitSigns, ihLeft (fun value inLeft => plain value (List.mem_append_left _ inLeft)),
        ihRight (fun value inRight => plain value (List.mem_append_right _ inRight))]

namespace Parse

-- The literals of a tree are the values of the literal tokens that it was derived from.
theorem derives_literals (category : Category) (tokens : List Token) (tree : Expr) (nesting : Nat)
    (derived : Derives category tokens tree nesting) (value : Binary64) :
    value ∈ tree.literals ↔
      ∃ token ∈ tokens, token.isLiteral ∧ Numeral.read? token.text = some value := by
  induction derived with
  | @literal token found isLiteral reads =>
      rw [Expr.literals, List.mem_singleton]
      constructor
      · rintro rfl
        exact ⟨token, List.mem_singleton_self token, isLiteral, reads⟩
      · rintro ⟨other, member, _, otherReads⟩
        rw [List.mem_singleton.mp member, reads] at otherReads
        exact (Option.some.inj otherReads).symm
  | @group opening closing tokens tree nesting opens closes _ ih =>
      have notOpening := operator_not_literal opening _ opens
      have notClosing := operator_not_literal closing _ closes
      simp [ih, notOpening, notClosing, or_and_right, exists_or]
  | unsigned _ ih => exact ih
  | @signed token sign tokens tree nesting spelled _ ih =>
      have notSign := operator_not_literal token _ spelled
      simp [Expr.literals, ih, notSign]
  | first _ ih => exact ih
  | @more level op token before after left right m n member spelled _ _ ihChained ihLast =>
      have notOperator := operator_not_literal token _ spelled
      simp [Expr.literals, ihChained, ihLast, notOperator, or_and_right, exists_or]

def Category.precedence : Category → Precedence
  | .primary => .primary
  | .signed => .unary
  | .chain .multiplicative => .multiplicative
  | .chain .additive => .additive

theorem operand_precedence (level : Level) : level.operands.precedence = level.operandLimit := by
  cases level <;> rfl

theorem member_precedence (level : Level) (op : Operator) (member : op ∈ level.operators) :
    op.precedence = (Category.chain level).precedence ∧ operatorLevel op = level := by
  cases level with
  | additive =>
      have listed : op = .add ∨ op = .sub := by simpa [Level.operators] using member
      rcases listed with rfl | rfl
      · exact ⟨rfl, rfl⟩
      · exact ⟨rfl, rfl⟩
  | multiplicative =>
      have listed : op = .mul ∨ op = .div ∨ op = .mod := by simpa [Level.operators] using member
      rcases listed with rfl | rfl | rfl
      · exact ⟨rfl, rfl⟩
      · exact ⟨rfl, rfl⟩
      · exact ⟨rfl, rfl⟩

theorem looser_less (tight loose : Precedence) (tree : Expr)
    (order : tight.looseness ≤ loose.looseness) :
    (tree.looserThan loose).toNat ≤ (tree.looserThan tight).toNat := by
  simp only [Expr.looserThan]
  by_cases looser : loose.looseness < tree.precedence.looseness
  · simp [looser, Nat.lt_of_le_of_lt order looser]
  · simp [looser]

-- Where the text has parentheses, the place takes no tree as loose: the source had some there too.
theorem derives_text_nesting (category : Category) (tokens : List Token) (tree : Expr) (nesting : Nat)
    (derived : Derives category tokens tree nesting)
    (plain : ∀ value ∈ tree.literals, value.isNegative = false) :
    tree.textNesting + (tree.looserThan category.precedence).toNat ≤ nesting := by
  induction derived with
  | @literal token value isLiteral reads =>
      simp [Expr.textNesting, plain value (by simp [Expr.literals]), Expr.looserThan, Expr.precedence,
        Category.precedence, Precedence.looseness]
  | @group opening closing tokens tree nesting opens closes _ ih =>
      have inner := ih plain
      have atMost := Bool.toNat_le (tree.looserThan Category.primary.precedence)
      omega
  | @unsigned tokens tree nesting _ ih =>
      have inner := ih plain
      have less := looser_less .primary .unary tree (by decide)
      exact Nat.le_trans (Nat.add_le_add_left less _) inner
  | @signed token sign tokens tree nesting spelled _ ih =>
      have inner := ih plain
      exact Nat.succ_le_succ inner
  | @first level tokens tree nesting _ ih =>
      have inner := ih plain
      have less := looser_less level.operands.precedence (Category.chain level).precedence tree
        (by cases level <;> decide)
      omega
  | @more level op token before after left right m n member spelled _ _ ihChained ihLast =>
      obtain ⟨same, sameLevel⟩ := member_precedence level op member
      have leftBound := ihChained (fun value inLeft => plain value (List.mem_append_left _ inLeft))
      have rightBound := ihLast (fun value inRight => plain value (List.mem_append_right _ inRight))
      rw [operand_precedence, ← sameLevel, ← right_limit] at rightBound
      rw [← same] at leftBound
      have unwrapped : (Expr.binary op left right).looserThan (Category.chain level).precedence = false := by
        simp [Expr.looserThan, Expr.precedence, same]
      rw [unwrapped, Expr.textNesting]
      exact Nat.max_le.mpr ⟨Nat.le_trans leftBound (Nat.le_max_left m n),
        Nat.le_trans rightBound (Nat.le_max_right m n)⟩

-- A literal of the source is too large for a finite number.
def Overflowed (source : String) : Prop :=
  ∃ token ∈ Token.scan source, token.isLiteral ∧ Numeral.read? token.text = some (.infinite false)

def FirstAt (part text : List Char) (place : Nat) : Prop :=
  part <+: text.drop place ∧ ∀ earlier < place, ¬ part <+: text.drop earlier

theorem first_at_letter (c : Char) (part before after : List Char) (plain : c ∉ before) :
    FirstAt (c :: part) (before ++ (c :: part ++ after)) before.length := by
  constructor
  · rw [List.drop_left]
    exact List.prefix_append _ _
  · intro earlier inside found
    have first : before[earlier] = c := by
      rw [List.drop_append_of_le_length (Nat.le_of_lt inside), List.drop_eq_getElem_cons inside,
        List.cons_append, List.cons_prefix_cons] at found
      exact found.1.symm
    exact plain (first ▸ List.getElem_mem inside)

theorem scan_literal_body (source : String) (token : Token) (literal : token.isLiteral)
    (member : token ∈ Token.scan source) : token ∈ (Token.scan source).dropLast := by
  obtain ⟨body, endMark, split, ends⟩ := scan_ends 0 source.toList
  rw [Token.scan, split] at member ⊢
  rw [List.dropLast_concat]
  rcases List.mem_append.mp member with inBody | last
  · exact inBody
  · rw [List.mem_singleton] at last
    simp [Token.isLiteral, last, ends] at literal

theorem parsed_literals (source : String) (tree : Expr) (parsed : parse source = .ok tree)
    (value : Binary64) :
    value ∈ tree.literals ↔
      ∃ token ∈ Token.scan source, token.isLiteral ∧ Numeral.read? token.text = some value := by
  obtain ⟨nesting, _, derived⟩ := (parse_iff_derives source tree).mp parsed
  rw [derives_literals _ _ tree nesting derived]
  constructor
  · rintro ⟨token, among, literal, reads⟩
    exact ⟨token, List.dropLast_subset _ among, literal, reads⟩
  · rintro ⟨token, member, literal, reads⟩
    exact ⟨token, scan_literal_body source token literal member, literal, reads⟩

theorem parsed_literal (source : String) (tree : Expr) (parsed : parse source = .ok tree)
    (value : Binary64) (member : value ∈ tree.literals) : ∃ d : Decimal, d.toBinary64 false = value := by
  obtain ⟨token, among, literal, reads⟩ := (parsed_literals source tree parsed value).mp member
  obtain ⟨d, _, text⟩ := Token.scan_number source token among literal
  exact ⟨d, Option.some.inj (text.symm.trans reads)⟩

theorem parsed_plain (source : String) (tree : Expr) (parsed : parse source = .ok tree)
    (value : Binary64) (member : value ∈ tree.literals) :
    value.isNegative = false ∧ (value.isFinite ∨ value = .infinite false) := by
  obtain ⟨d, rfl⟩ := parsed_literal source tree parsed value member
  exact d.unsigned_value

theorem overflowed_literal (source : String) (tree : Expr) (parsed : parse source = .ok tree) :
    Overflowed source ↔ .infinite false ∈ tree.literals :=
  (parsed_literals source tree parsed _).symm

theorem parse_overflow (tree : Expr) (within : tree.textNesting ≤ maxDepth)
    (range : ∀ value ∈ tree.literals, value.isFinite ∨ value = .infinite false)
    (present : .infinite false ∈ tree.literals) :
    ∃ error, ∃ place : Nat, parse tree.text = .error (.rejected error) ∧ error.cause = .invalidToken ∧
      error.token = ⟨.malformed, "inf", place⟩ ∧ FirstAt "inf".toList tree.text.toList place := by
  obtain ⟨before, after, split, plain, places⟩ := overflows_widen tree.precedence .additive _ _
    (looseness_additive _) (overflows_tree tree range present)
  obtain ⟨front, back, scanned, reads⟩ := places 0
  obtain ⟨inner, reads⟩ := reads maxDepth [] (by simpa using within) rfl
  have rejected := reading_rejected maxDepth ⟨inner, true⟩ ⟨.malformed, "inf", (0 + before.length : Nat)⟩
    back .invalidToken (step_malformed maxDepth inner _ rfl)
  rw [← reads] at rejected
  refine ⟨_, before.length, parse_rejected _ tree.text _ _ scanned rejected, rfl, ?_, ?_⟩
  · rw [Nat.zero_add]
    rfl
  · rw [split]
    exact first_at_letter 'i' ['n', 'f'] before after plain

theorem parsed_text_nesting (source : String) (tree : Expr) (parsed : parse source = .ok tree)
    (nesting : Nat) (derived : Derives (.chain .additive) (Token.scan source).dropLast tree nesting) :
    tree.textNesting ≤ nesting := by
  have plain := fun value member => (parsed_plain source tree parsed value member).1
  exact Nat.le_trans (Nat.le_add_right _ _) (derives_text_nesting _ _ tree nesting derived plain)

theorem parsed_text_within (source : String) (tree : Expr) (parsed : parse source = .ok tree) :
    tree.textNesting ≤ maxDepth := by
  obtain ⟨nesting, bound, derived⟩ := (parse_iff_derives source tree).mp parsed
  exact Nat.le_trans (parsed_text_nesting source tree parsed nesting derived) bound

theorem parsed_renders (source : String) (tree : Expr) (parsed : parse source = .ok tree)
    (finite : ∀ value ∈ tree.literals, value.isFinite) :
    Renders (.chain .additive) tree.text.toList tree tree.textNesting := by
  have plain := fun value member => (parsed_plain source tree parsed value member).1
  have renders := renders_sentence tree finite
  rw [Expr.split_signs_plain tree plain] at renders
  exact renders

theorem parse_parsed_text (source : String) (tree : Expr) (parsed : parse source = .ok tree)
    (finite : ∀ value ∈ tree.literals, value.isFinite) : parse tree.text = .ok tree :=
  parse_renders tree.text tree _ (parsed_renders source tree parsed finite)
    (parsed_text_within source tree parsed)

theorem parse_render_source (source : String) (tree : Expr) (parsed : parse source = .ok tree) :
    ((∀ value ∈ tree.literals, value.isFinite) →
      parse tree.render = .ok tree ∧ (parse tree.render).map Expr.render = .ok tree.render ∧
      compile tree.render = compile source ∧
      ∀ nesting, Derives (.chain .additive) (Token.scan source).dropLast tree nesting →
        ∃ rendered ≤ nesting,
          Derives (.chain .additive) (Token.scan tree.render).dropLast tree rendered) ∧
    (Overflowed source → ∃ error, ∃ place : Nat, parse tree.render = .error (.rejected error) ∧
      error.cause = .invalidToken ∧ error.token = ⟨.malformed, "inf", place⟩ ∧
      FirstAt "inf".toList tree.render.toList place) := by
  rw [render_text]
  constructor
  · intro finite
    have again := parse_parsed_text source tree parsed finite
    refine ⟨again, ?_, ?_, fun nesting derived =>
      ⟨_, parsed_text_nesting source tree parsed nesting derived, ?_⟩⟩
    · rw [again, ← render_text]
      rfl
    · rw [compile, compile, again, parsed]
    · obtain ⟨tokens, scanned, textDerived⟩ := parsed_renders source tree parsed finite 0
      rw [scan_scanned tree.text tokens scanned, List.dropLast_concat]
      exact textDerived
  · intro overflowed
    have range := fun value member => (parsed_plain source tree parsed value member).2
    exact parse_overflow tree (parsed_text_within source tree parsed) range
      ((overflowed_literal source tree parsed).mp overflowed)

-- Parentheses that the text leaves out, and an overflow behind a sign.
theorem parse_render_source_signed :
    (parse "((2)) - (3)" = .ok (.binary .sub (.literal (.ofBits 0x4000000000000000))
        (.literal (.ofBits 0x4008000000000000))) ∧
      parse (Expr.binary .sub (.literal (.ofBits 0x4000000000000000))
        (.literal (.ofBits 0x4008000000000000))).render =
        .ok (.binary .sub (.literal (.ofBits 0x4000000000000000)) (.literal (.ofBits 0x4008000000000000)))) ∧
    parse ("-" ++ (10 ^ 309).repr) = .ok (.unary .minus (.literal (.infinite false))) ∧
      Overflowed ("-" ++ (10 ^ 309).repr) ∧
      ∃ error, parse (Expr.unary .minus (.literal (.infinite false))).render = .error (.rejected error) ∧
        error.cause = .invalidToken := by
  have two := renders_number _ _ _ (repr_number 2)
  have three := renders_number _ _ _ (repr_number 3)
  have huge := renders_number _ _ _ (repr_number (10 ^ 309))
  have twoValue : Decimal.toBinary64 false ⟨2, 0⟩ = .ofBits 0x4000000000000000 := by decide +kernel
  have threeValue : Decimal.toBinary64 false ⟨3, 0⟩ = .ofBits 0x4008000000000000 := by decide +kernel
  have hugeValue : Decimal.toBinary64 false ⟨10 ^ 309, 0⟩ = .infinite false := by decide +kernel
  rw [twoValue] at two
  rw [threeValue] at three
  rw [hugeValue] at huge
  have left := renders_group _ _ _ (renders_widen .unary .additive _ _ _ (by decide)
    (renders_group _ _ _ (renders_widen .unary .additive _ _ _ (by decide) two)))
  have right := renders_group _ _ _ (renders_widen .unary .additive _ _ _ (by decide) three)
  have difference := parse_renders "((2)) - (3)" _ _
    (renders_binary .additive .sub _ _ _ _ _ _ (by decide)
      (renders_widen .unary .additive _ _ _ (by decide) left)
      (renders_widen .unary .multiplicative _ _ _ (by decide) right)) (by decide)
  have negated := renders_widen .unary .additive _ _ _ (by decide) (renders_sign .minus _ _ _ huge)
  rw [← String.toList_append] at negated
  have overflow := parse_renders _ _ _ negated (by decide)
  have overflowed := (overflowed_literal _ _ overflow).mpr (by decide)
  obtain ⟨error, _, rejected, cause, _⟩ := (parse_render_source _ _ overflow).2 overflowed
  exact ⟨⟨difference, ((parse_render_source _ _ difference).1 (by decide +kernel)).1⟩,
    overflow, overflowed, error, rejected, cause⟩

end Parse

end Reckon
