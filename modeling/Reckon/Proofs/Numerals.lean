import Reckon.Proofs.Rounding
import Reckon.Decimal.Numeral
import Reckon.Token.Scan

set_option autoImplicit false

namespace Reckon

inductive NumberText : Token.Kind → List Char → Decimal → Prop where
  | integer {whole : List Char} (nonempty : whole ≠ []) (digits : ∀ c ∈ whole, c.isDigit) :
      NumberText .integer whole ⟨digitsValue whole, 0⟩
  | float {whole part : List Char} (wholeNonempty : whole ≠ []) (partNonempty : part ≠ [])
      (wholeDigits : ∀ c ∈ whole, c.isDigit) (partDigits : ∀ c ∈ part, c.isDigit) :
      NumberText .float (whole ++ '.' :: part) ⟨digitsValue (whole ++ part), -(part.length : Int)⟩

-- The characters of number texts are few, so that what holds of each can be checked one by one.
def numberChars : List Char := ['.', '0', '1', '2', '3', '4', '5', '6', '7', '8', '9']

theorem digit_listed (c : Char) (digit : c.isDigit) : c ∈ numberChars.tail := by
  simp only [Char.isDigit, Bool.and_eq_true, decide_eq_true_eq] at digit
  have low : 48 ≤ c.toNat := digit.1
  have high : c.toNat ≤ 57 := digit.2
  have listed : ∀ n, n < 10 → Char.ofNat (48 + n) ∈ numberChars.tail := by decide
  have member := listed (c.toNat - 48) (by omega)
  rw [Nat.add_sub_cancel' low, Char.ofNat_toNat] at member
  exact member

theorem number_char_listed (c : Char) (number : Token.isNumberChar c) : c ∈ numberChars := by
  rw [Token.isNumberChar, Bool.or_eq_true, beq_iff_eq] at number
  rcases number with digit | point
  · exact List.mem_of_mem_tail (digit_listed c digit)
  · simp [numberChars, point]

theorem take_run {α : Type} (keep : α → Bool) (run rest : List α) (kept : ∀ item ∈ run, keep item)
    (stop : ∀ item ∈ rest.head?, keep item = false) :
    (run ++ rest).takeWhile keep = run ∧ (run ++ rest).dropWhile keep = rest := by
  rw [List.takeWhile_append_of_pos kept, List.dropWhile_append_of_pos kept]
  cases rest with
  | nil => simp
  | cons item rest => simp [stop item rfl]

namespace Decimal

theorem of_chars_integer (whole : List Char) (nonempty : whole ≠ []) (digits : ∀ c ∈ whole, c.isDigit) :
    ofChars? whole = some ⟨digitsValue whole, 0⟩ := by
  obtain ⟨taken, dropped⟩ := take_run Char.isDigit whole [] digits (by simp)
  rw [List.append_nil] at taken dropped
  unfold ofChars?
  simp [taken, dropped, nonempty, exponentOfChars?]

theorem of_chars_float (whole part : List Char) (nonempty : whole ≠ [])
    (wholeDigits : ∀ c ∈ whole, c.isDigit) (partDigits : ∀ c ∈ part, c.isDigit) :
    ofChars? (whole ++ '.' :: part) = some ⟨digitsValue (whole ++ part), -(part.length : Int)⟩ := by
  obtain ⟨taken, dropped⟩ := take_run Char.isDigit whole ('.' :: part) wholeDigits
    (by simp)
  obtain ⟨partTaken, partDropped⟩ := take_run Char.isDigit part [] partDigits (by simp)
  rw [List.append_nil] at partTaken partDropped
  unfold ofChars?
  simp [taken, dropped, partTaken, partDropped, nonempty, exponentOfChars?]

end Decimal

theorem number_text_chars (kind : Token.Kind) (chars : List Char) (d : Decimal)
    (number : NumberText kind chars d) : ∀ c ∈ chars, Token.isNumberChar c := by
  intro c member
  cases number with
  | integer nonempty digits => simp [Token.isNumberChar, digits c member]
  | @float whole part wholeNonempty partNonempty wholeDigits partDigits =>
      rw [List.mem_append, List.mem_cons] at member
      rcases member with inWhole | point | inPart
      · simp [Token.isNumberChar, wholeDigits c inWhole]
      · simp [Token.isNumberChar, point]
      · simp [Token.isNumberChar, partDigits c inPart]

theorem number_text_kind (kind : Token.Kind) (chars : List Char) (d : Decimal)
    (number : NumberText kind chars d) : kind = .integer ∨ kind = .float := by
  cases number with
  | integer => exact .inl rfl
  | float => exact .inr rfl

theorem number_text_literal (kind : Token.Kind) (chars : List Char) (d : Decimal)
    (number : NumberText kind chars d) (text : String) (pos : Int) :
    (⟨kind, text, pos⟩ : Token).isLiteral = true := by
  cases number <;> rfl

theorem number_text_head (kind : Token.Kind) (chars : List Char) (d : Decimal)
    (number : NumberText kind chars d) : ∃ c rest, chars = c :: rest ∧ c.isDigit := by
  cases number with
  | integer nonempty digits =>
      obtain ⟨c, rest, split⟩ := List.exists_cons_of_ne_nil nonempty
      exact ⟨c, rest, split, digits c (by simp [split])⟩
  | @float whole part wholeNonempty partNonempty wholeDigits partDigits =>
      obtain ⟨c, rest, split⟩ := List.exists_cons_of_ne_nil wholeNonempty
      exact ⟨c, rest ++ '.' :: part, by rw [split, List.cons_append], wholeDigits c (by simp [split])⟩

theorem number_char_plain (c : Char) (number : Token.isNumberChar c) :
    Text.isSpace c = false ∧ Numeral.asciiDigit c = c ∧ c ≠ '_' := by
  have plain : numberChars.all fun c => !Text.isSpace c && Numeral.asciiDigit c == c && c != '_' := by
    decide +kernel
  simpa [and_assoc] using List.all_eq_true.mp plain c (number_char_listed c number)

theorem drop_while_kept (drop : Char → Bool) (text : List Char) (first : ∀ c ∈ text.head?, drop c = false) :
    text.dropWhile drop = text := by
  cases text with
  | nil => rfl
  | cons c rest => rw [List.dropWhile_cons, first c rfl, if_neg Bool.false_ne_true]

theorem trim_kept (drop : Char → Bool) (text : List Char) (first : ∀ c ∈ text.head?, drop c = false)
    (last : ∀ c ∈ text.getLast?, drop c = false) : Text.trimBy drop text = text := by
  rw [Text.trimBy, drop_while_kept drop text first, drop_while_kept drop text.reverse (by rwa [List.head?_reverse]),
    List.reverse_reverse]

theorem trim_plain (drop : Char → Bool) (text : List Char) (kept : ∀ c ∈ text, drop c = false) :
    Text.trimBy drop text = text :=
  trim_kept drop text (fun c found => kept c (List.mem_of_mem_head? found))
    (fun c found => kept c (List.mem_of_mem_getLast? found))

theorem join_plain (text : List Char) (plain : ∀ c ∈ text, c ≠ '_') :
    Numeral.joinDigits? text = some text := by
  fun_induction Numeral.joinDigits? text with
  | case1 => rfl
  | case2 => exact absurd rfl (plain '_' (by simp))
  | case3 => exact absurd rfl (plain '_' (by simp))
  | case4 => exact absurd rfl (plain '_' (by simp))
  | case5 c rest _ _ ih => rw [ih (fun d member => plain d (by simp [member])), Option.map_some]

theorem digit_first (c : Char) (rest : List Char) (digit : c.isDigit) :
    Numeral.ofChars? (c :: rest) = Numeral.unsigned? false (c :: rest) ∧
      ∀ negative, Numeral.unsigned? negative (c :: rest) =
        (Decimal.ofChars? (c :: rest)).map (Decimal.toBinary64 negative) := by
  have digits : numberChars.tail.all fun c =>
      c != '-' && c != '+' && c.toLower != 'i' && c.toLower != 'n' := by
    decide +kernel
  have first := List.all_eq_true.mp digits c (digit_listed c digit)
  simp only [Bool.and_eq_true, bne_iff_ne] at first
  obtain ⟨⟨⟨notMinus, notPlus⟩, notI⟩, notN⟩ := first
  refine ⟨?_, fun negative => by simp [Numeral.unsigned?, notI, notN]⟩
  unfold Numeral.ofChars?
  split
  · rename_i same
    exact absurd (List.cons.inj same).1 notMinus
  · rename_i same
    exact absurd (List.cons.inj same).1 notPlus
  · rfl

-- Blanks, digits of other scripts and underscores are all that reading takes out or replaces.
theorem read_plain (chars : List Char)
    (plain : ∀ c ∈ chars, Text.isSpace c = false ∧ Numeral.asciiDigit c = c ∧ c ≠ '_') :
    Numeral.read? (String.ofList chars) = Numeral.ofChars? chars := by
  have ascii : chars.map Numeral.asciiDigit = chars := by
    calc chars.map Numeral.asciiDigit
        = chars.map id := List.map_congr_left (fun c member => (plain c member).2.1)
      _ = chars := List.map_id chars
  rw [Numeral.read?, String.toList_ofList, trim_plain _ chars (fun c member => (plain c member).1),
    ascii, join_plain chars (fun c member => (plain c member).2.2), Option.bind_some]

theorem number_text_plain (kind : Token.Kind) (chars : List Char) (d : Decimal)
    (number : NumberText kind chars d) :
    ∀ c ∈ chars, Text.isSpace c = false ∧ Numeral.asciiDigit c = c ∧ c ≠ '_' :=
  fun c member => number_char_plain c (number_text_chars kind chars d number c member)

theorem unsigned_number_text (negative : Bool) (kind : Token.Kind) (chars : List Char) (d : Decimal)
    (number : NumberText kind chars d) :
    Numeral.unsigned? negative chars = some (d.toBinary64 negative) := by
  obtain ⟨c, rest, split, digit⟩ := number_text_head kind chars d number
  have decimal : Decimal.ofChars? chars = some d := by
    cases number with
    | integer nonempty digits => exact Decimal.of_chars_integer _ nonempty digits
    | float wholeNonempty _ wholeDigits partDigits =>
        exact Decimal.of_chars_float _ _ wholeNonempty wholeDigits partDigits
  rw [split, (digit_first c rest digit).2, ← split, decimal, Option.map_some]

theorem read_number_text (kind : Token.Kind) (chars : List Char) (d : Decimal)
    (number : NumberText kind chars d) :
    Numeral.read? (String.ofList chars) = some (d.toBinary64 false) := by
  obtain ⟨c, rest, split, digit⟩ := number_text_head kind chars d number
  have first := (digit_first c rest digit).1
  rw [← split] at first
  rw [read_plain chars (number_text_plain kind chars d number), first,
    unsigned_number_text false kind chars d number]

theorem read_negative_text (kind : Token.Kind) (chars : List Char) (d : Decimal)
    (number : NumberText kind chars d) :
    Numeral.read? (String.ofList ('-' :: chars)) = some (d.toBinary64 true) := by
  have minus : Text.isSpace '-' = false ∧ Numeral.asciiDigit '-' = '-' ∧ '-' ≠ '_' := by decide +kernel
  rw [read_plain _ (List.forall_mem_cons.mpr ⟨minus, number_text_plain kind chars d number⟩)]
  exact unsigned_number_text true kind chars d number

namespace Token

theorem number_kind (kind : Kind) (chars : List Char) (d : Decimal)
    (number : NumberText kind chars d) : numberKind? chars = some kind := by
  cases number with
  | integer nonempty digits =>
      obtain ⟨_, dropped⟩ := take_run Char.isDigit chars [] digits (by simp)
      rw [List.append_nil] at dropped
      rw [numberKind?, dropped]
  | @float whole part wholeNonempty partNonempty wholeDigits partDigits =>
      obtain ⟨_, dropped⟩ := take_run Char.isDigit whole ('.' :: part) wholeDigits (by simp)
      rw [numberKind?, dropped]
      simp only
      rw [if_pos ⟨partNonempty, List.all_eq_true.mpr partDigits⟩]

theorem lexeme_number (kind : Kind) (c : Char) (tail rest : List Char) (d : Decimal)
    (number : NumberText kind (c :: tail) d) (stop : ∀ next ∈ rest.head?, isNumberChar next = false) :
    lexeme c (tail ++ rest) = ⟨kind, c :: tail, rest⟩ := by
  obtain ⟨first, others, split, digit⟩ := number_text_head kind _ d number
  cases split
  have chars := number_text_chars kind _ d number
  obtain ⟨taken, dropped⟩ := take_run isNumberChar tail rest
    (fun next member => chars next (List.mem_cons_of_mem c member)) stop
  rw [lexeme, if_pos digit, taken, dropped, number_kind kind _ d number]

theorem number_of_kind (kind : Kind) (c : Char) (tail : List Char) (digit : c.isDigit)
    (chars : ∀ next ∈ tail, isNumberChar next) (found : numberKind? (c :: tail) = some kind) :
    ∃ d, NumberText kind (c :: tail) d := by
  have runs := List.takeWhile_append_dropWhile (p := Char.isDigit) (l := c :: tail)
  have whole : ∀ next ∈ (c :: tail).takeWhile Char.isDigit, next.isDigit := fun next member =>
    List.all_eq_true.mp (List.all_takeWhile) next member
  have wholeNonempty : (c :: tail).takeWhile Char.isDigit ≠ [] := by simp [digit]
  rw [numberKind?] at found
  cases dropped : (c :: tail).dropWhile Char.isDigit with
  | nil =>
      rw [dropped] at found runs
      cases found
      rw [List.append_nil] at runs
      rw [runs] at whole wholeNonempty
      exact ⟨_, .integer wholeNonempty whole⟩
  | cons point part =>
      rw [dropped] at found runs
      simp only at found
      split at found
      · rename_i fraction
        cases found
        have notDigit : point.isDigit = false := by
          have head := List.head?_dropWhile_not Char.isDigit (c :: tail)
          rw [dropped] at head
          simpa using head
        have member : point ∈ c :: tail := by
          rw [← runs]
          simp
        have isPoint : point = '.' := by
          rcases List.mem_cons.mp member with same | inTail
          · rw [same, digit] at notDigit
            cases notDigit
          · simpa [isNumberChar, notDigit] using chars point inTail
        rw [isPoint] at runs
        rw [← runs]
        exact ⟨_, .float wholeNonempty fraction.1 whole (List.all_eq_true.mp fraction.2)⟩
      · cases found

end Token

end Reckon
