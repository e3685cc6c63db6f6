import Reckon.Proofs.Numerals

set_option autoImplicit false

namespace Reckon.Token

-- What may follow a piece: the end, a blank or an operator.
def Bounded (rest : List Char) : Prop := ∀ c ∈ rest.head?, isSeparator c

-- What the text of a token of each kind may be. A malformed text may begin with digits and points,
-- as long as the whole run of them is no number.
inductive Shaped : Kind → List Char → Prop where
  | number {kind : Kind} {text : List Char} {d : Decimal} (number : NumberText kind text d) :
      Shaped kind text
  | operator {c : Char} (operator : c ∈ operatorChars) : Shaped .operator [c]
  | malformed {text : List Char} (inside : ∀ c ∈ text, isSeparator c = false)
      (unlike : ∀ kind d, ¬ NumberText kind (text.takeWhile isNumberChar) d) : Shaped .malformed text

-- What may follow a token of each kind; `none` is the end of the source.
def Ended (kind : Kind) (next : Option Char) : Prop :=
  match kind with
  | .integer | .float => ∀ c ∈ next, isNumberChar c = false
  | .malformed => ∀ c ∈ next, isSeparator c
  | .operator | .eof => True

theorem operator_char_plain (c : Char) (operator : isOperatorChar c) :
    Text.isBlank c = false ∧ c.isDigit = false := by
  have plain : operatorChars.all fun c => !Text.isBlank c && !c.isDigit := by decide +kernel
  simpa using List.all_eq_true.mp plain c (List.contains_iff_mem.mp operator)

theorem number_char_stays (c : Char) (number : isNumberChar c) :
    Text.isBlank c = false ∧ isSeparator c = false := by
  have stays : numberChars.all fun c => !Text.isBlank c && !isSeparator c := by decide +kernel
  simpa using List.all_eq_true.mp stays c (number_char_listed c number)

theorem digit_number_char (c : Char) (digit : c.isDigit) : isNumberChar c := by
  simp [isNumberChar, digit]

theorem separator_not_number (c : Char) (separator : isSeparator c) : isNumberChar c = false := by
  cases number : isNumberChar c with
  | false => rfl
  | true =>
      rw [(number_char_stays c number).2] at separator
      cases separator

theorem not_separator (c : Char) : isSeparator c = false ↔ Text.isBlank c = false ∧ isOperatorChar c = false := by
  rw [isSeparator, Bool.or_eq_false_iff]

theorem shaped_first (kind : Kind) (c : Char) (tail : List Char) (shaped : Shaped kind (c :: tail)) :
    Text.isBlank c = false := by
  cases shaped with
  | number number =>
      exact (number_char_stays c (number_text_chars kind _ _ number c List.mem_cons_self)).1
  | operator member => exact (operator_char_plain c (List.contains_iff_mem.mpr member)).1
  | malformed inside => exact ((not_separator c).mp (inside c List.mem_cons_self)).1

theorem shaped_literal (kind : Kind) (text : List Char) (spelling : String) (pos : Int)
    (shaped : Shaped kind text) (literal : (⟨kind, spelling, pos⟩ : Token).isLiteral) :
    ∃ d, NumberText kind text d := by
  cases shaped with
  | number number => exact ⟨_, number⟩
  | operator => cases literal
  | malformed => cases literal

theorem number_ended (kind : Kind) (text : List Char) (d : Decimal) (next : Option Char)
    (number : NumberText kind text d) : Ended kind next ↔ ∀ c ∈ next, isNumberChar c = false := by
  cases number with
  | integer => rfl
  | float => rfl

-- No token runs into what may follow a piece.
theorem bounded_ended (kind : Kind) (after : List Char) (bounded : Bounded after) :
    Ended kind after.head? := by
  cases kind with
  | integer => exact fun c first => separator_not_number c (bounded c first)
  | float => exact fun c first => separator_not_number c (bounded c first)
  | malformed => exact bounded
  | operator => trivial
  | eof => trivial

theorem dropped_head {α : Type} (keep : α → Bool) (items : List α) :
    ∀ item ∈ (items.dropWhile keep).head?, keep item = false := by
  intro item first
  have head := List.head?_dropWhile_not keep items
  rw [Option.mem_def.mp first] at head
  exact head

theorem dropped_bounded (rest : List Char) : Bounded (rest.dropWhile (!isSeparator ·)) := by
  intro c first
  simpa using dropped_head (!isSeparator ·) rest c first

-- Digits and points do not go on across a separator.
theorem number_run_bounded (text after : List Char) (bounded : Bounded after) :
    (text ++ after).takeWhile isNumberChar = text.takeWhile isNumberChar := by
  induction text with
  | nil =>
      cases after with
      | nil => rfl
      | cons c after => simp [separator_not_number c (bounded c rfl)]
  | cons c text ih => simp only [List.cons_append, List.takeWhile_cons, ih]

-- A number that is the first run of digits and points begins where that run does.
theorem number_run (kind : Kind) (c : Char) (tail : List Char) (d : Decimal)
    (number : NumberText kind ((c :: tail).takeWhile isNumberChar) d) :
    c.isDigit ∧ NumberText kind (c :: tail.takeWhile isNumberChar) d := by
  obtain ⟨first, others, split, digit⟩ := number_text_head kind _ d number
  by_cases starts : isNumberChar c
  · rw [List.takeWhile_cons, if_pos starts] at number split
    cases split
    exact ⟨digit, number⟩
  · rw [List.takeWhile_cons, if_neg starts] at split
    cases split

theorem lexeme_split (c : Char) (rest : List Char) :
    (lexeme c rest).text ++ (lexeme c rest).rest = c :: rest := by
  unfold lexeme malformedLexeme
  split
  · split <;> simp [List.takeWhile_append_dropWhile]
  · split <;> simp [List.takeWhile_append_dropWhile]

theorem lexeme_nonempty (c : Char) (rest : List Char) : (lexeme c rest).text ≠ [] := by
  unfold lexeme malformedLexeme
  split
  · split <;> simp
  · split <;> simp

theorem lexeme_length (pos : Nat) (c : Char) (rest : List Char) :
    pos + (lexeme c rest).text.length + (lexeme c rest).rest.length = pos + (c :: rest).length := by
  rw [← lexeme_split c rest, List.length_append, Nat.add_assoc]

theorem lexeme_malformed (c : Char) (rest : List Char) (operator : isOperatorChar c = false)
    (unlike : c.isDigit → numberKind? (c :: rest.takeWhile isNumberChar) = none) :
    lexeme c rest = malformedLexeme c rest := by
  by_cases digit : c.isDigit
  · rw [lexeme, if_pos digit, unlike digit]
  · rw [lexeme, if_neg digit, operator, if_neg Bool.false_ne_true]

theorem malformed_lawful (c : Char) (rest : List Char) (plain : isSeparator c = false)
    (unlike : c.isDigit → numberKind? (c :: rest.takeWhile isNumberChar) = none) :
    Shaped (lexeme c rest).kind (lexeme c rest).text ∧
      Ended (lexeme c rest).kind (lexeme c rest).rest.head? := by
  have run := number_run_bounded (rest.takeWhile (!isSeparator ·)) _ (dropped_bounded rest)
  rw [List.takeWhile_append_dropWhile] at run
  rw [lexeme_malformed c rest ((not_separator c).mp plain).2 unlike]
  refine ⟨.malformed (fun next member => ?_) (fun kind d number => ?_), dropped_bounded rest⟩
  · rcases List.mem_cons.mp member with rfl | inside
    · exact plain
    · simpa using List.all_eq_true.mp List.all_takeWhile next inside
  · obtain ⟨digit, whole⟩ := number_run kind c _ d number
    rw [← run] at whole
    have found := number_kind kind _ d whole
    rw [unlike digit] at found
    cases found

theorem lexeme_lawful (c : Char) (rest : List Char) (plain : Text.isBlank c = false) :
    Shaped (lexeme c rest).kind (lexeme c rest).text ∧
      Ended (lexeme c rest).kind (lexeme c rest).rest.head? := by
  by_cases operator : isOperatorChar c
  · rw [lexeme, (operator_char_plain c operator).2, if_neg Bool.false_ne_true, if_pos operator]
    exact ⟨.operator (List.contains_iff_mem.mp operator), trivial⟩
  · have inside := (not_separator c).mpr ⟨plain, Bool.eq_false_iff.mpr operator⟩
    by_cases digit : c.isDigit
    · cases found : numberKind? (c :: rest.takeWhile isNumberChar) with
      | none => exact malformed_lawful c rest inside (fun _ => found)
      | some kind =>
          obtain ⟨d, number⟩ := number_of_kind kind c _ digit (List.all_eq_true.mp List.all_takeWhile) found
          rw [lexeme, if_pos digit, found]
          exact ⟨.number number, (number_ended kind _ d _ number).mpr (dropped_head isNumberChar rest)⟩
    · exact malformed_lawful c rest inside (fun isDigit => absurd isDigit digit)

-- The rules leave one choice for the token at a given place.
theorem lexeme_unique (kind : Kind) (c : Char) (tail after : List Char) (shaped : Shaped kind (c :: tail))
    (ended : Ended kind after.head?) : lexeme c (tail ++ after) = ⟨kind, c :: tail, after⟩ := by
  cases shaped with
  | @number _ _ d number =>
      exact lexeme_number kind c tail after d number ((number_ended kind _ d _ number).mp ended)
  | operator member =>
      have operator : isOperatorChar c := List.contains_iff_mem.mpr member
      rw [lexeme, (operator_char_plain c operator).2, if_neg Bool.false_ne_true, if_pos operator]
      rfl
  | malformed inside unlike =>
      have bounded : Bounded after := ended
      have first := (not_separator c).mp (inside c List.mem_cons_self)
      have noNumber : c.isDigit → numberKind? (c :: (tail ++ after).takeWhile isNumberChar) = none := by
        intro digit
        cases found : numberKind? (c :: (tail ++ after).takeWhile isNumberChar) with
        | none => rfl
        | some kind =>
            obtain ⟨d, number⟩ := number_of_kind kind c _ digit (List.all_eq_true.mp List.all_takeWhile) found
            have excluded := unlike kind d
            rw [List.takeWhile_cons, if_pos (digit_number_char c digit)] at excluded
            rw [number_run_bounded tail after bounded] at number
            exact absurd number excluded
      obtain ⟨taken, dropped⟩ := take_run (!isSeparator ·) tail after
        (fun next member => by simp [inside next (List.mem_cons_of_mem c member)])
        (fun next member => by simp [bounded next member])
      rw [lexeme_malformed c _ first.2 noNumber, malformedLexeme, taken, dropped]

theorem lexeme_bounded (c : Char) (rest after : List Char) (plain : Text.isBlank c = false)
    (bounded : Bounded after) :
    lexeme c (rest ++ after) =
      ⟨(lexeme c rest).kind, (lexeme c rest).text, (lexeme c rest).rest ++ after⟩ := by
  obtain ⟨shaped, ended⟩ := lexeme_lawful c rest plain
  have split := lexeme_split c rest
  obtain ⟨first, tail, text⟩ := List.exists_cons_of_ne_nil (lexeme_nonempty c rest)
  rw [text, List.cons_append, List.cons.injEq] at split
  obtain ⟨rfl, split⟩ := split
  rw [text] at shaped ⊢
  have ended : Ended (lexeme first rest).kind ((lexeme first rest).rest ++ after).head? := by
    cases remaining : (lexeme first rest).rest with
    | nil => exact bounded_ended _ after bounded
    | cons next others =>
        rw [remaining] at ended
        exact ended
  rw [← lexeme_unique _ first tail _ shaped ended, ← List.append_assoc, split]

end Reckon.Token
