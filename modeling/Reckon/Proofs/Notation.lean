import Reckon.Json.Printer
import Reckon.Json.Reader
import Reckon.Proofs.Canonical

set_option autoImplicit false

namespace Reckon

namespace Decimal

theorem of_chars_exponent (whole part tail : List Char) (exponent : Int) (nonempty : whole ≠ [])
    (wholeDigits : ∀ c ∈ whole, c.isDigit) (partDigits : ∀ c ∈ part, c.isDigit)
    (read : exponentOfChars? ('e' :: tail) = some exponent) :
    ofChars? (whole ++ ((if part = [] then [] else '.' :: part) ++ 'e' :: tail)) =
      some ⟨digitsValue (whole ++ part), exponent - part.length⟩ := by
  by_cases empty : part = []
  · obtain ⟨taken, dropped⟩ := take_run Char.isDigit whole ('e' :: tail) wholeDigits (by simp)
    rw [if_pos empty, List.nil_append, empty]
    unfold ofChars?
    simp [taken, dropped, nonempty, read]
  · obtain ⟨taken, dropped⟩ := take_run Char.isDigit whole ('.' :: (part ++ 'e' :: tail)) wholeDigits (by simp)
    obtain ⟨partTaken, partDropped⟩ := take_run Char.isDigit part ('e' :: tail) partDigits (by simp)
    rw [if_neg empty, List.cons_append]
    unfold ofChars?
    simp [taken, dropped, partTaken, partDropped, nonempty, read]

theorem exponent_of_digits (negative : Bool) (digits : List Char) (nonempty : digits ≠ [])
    (all : ∀ c ∈ digits, c.isDigit) :
    exponentOfChars? ('e' :: (if negative then '-' else '+') :: digits) =
      some (if negative then -(digitsValue digits : Int) else digitsValue digits) := by
  have allDigits : digits.all Char.isDigit := List.all_eq_true.mpr all
  cases negative <;> simp [exponentOfChars?, allDigits, nonempty]

theorem places_nonempty (places part : Nat) : placesText places part ≠ [] := by
  simp [placesText]

theorem scientific_chars (width : Nat) (d : Decimal) (first : Char) (more : List Char)
    (digits : Nat.toDigits 10 d.digits = first :: more) :
    (d.scientific width).toList = [first] ++ ((if more = [] then [] else '.' :: more) ++
      'e' :: (if decide (d.firstPower < 0) then '-' else '+') :: placesText width d.firstPower.natAbs) := by
  have sign : (if d.firstPower < 0 then "e-" else "e+").toList =
      ['e', if decide (d.firstPower < 0) then '-' else '+'] := by
    by_cases negative : d.firstPower < 0 <;> simp [negative]
  simp only [scientific, Nat.toList_repr, digits, String.toList_append, sign, String.toList_ofList,
    ← String.length_toList, placesText]
  cases more with
  | nil => simp
  | cons second more => simp

-- The digits behind the point are counted in the power of the first digit and taken off again.
theorem of_chars_scientific (width : Nat) (d : Decimal) : ofChars? (d.scientific width).toList = some d := by
  obtain ⟨first, more, digits⟩ := List.exists_cons_of_ne_nil (Nat.toDigits_ne_nil (n := d.digits) (b := 10))
  have all := repr_digits d.digits
  have value := digits_value_repr d.digits
  have power : d.firstPower = d.exponent + more.length := by
    rw [firstPower, ← String.length_toList, Nat.toList_repr, digits, List.length_cons]
    omega
  rw [digits] at all value
  have read := exponent_of_digits (decide (d.firstPower < 0)) _ (places_nonempty width d.firstPower.natAbs)
    (places_digits width _)
  rw [places_value] at read
  rw [scientific_chars width d first more digits, of_chars_exponent [first] more _ _ (by simp)
    (fun c member => all c (by simp_all)) (fun c member => all c (by simp_all)) read, List.singleton_append, value]
  have exponent : (if decide (d.firstPower < 0) then -(d.firstPower.natAbs : Int) else d.firstPower.natAbs) -
      more.length = d.exponent := by
    by_cases negative : d.firstPower < 0
    · rw [if_pos (by simpa using negative)]
      omega
    · rw [if_neg (by simpa using negative)]
      omega
  rw [exponent]

end Decimal

namespace Json

theorem digit_number_char (c : Char) (digit : c.isDigit) : isNumberChar c := by
  simp [isNumberChar, digit]

-- What follows the digits in front if the number is not an integer.
inductive Fractional : List Char → Prop where
  | point {digit : Char} {rest : List Char} (isDigit : digit.isDigit) : Fractional ('.' :: digit :: rest)
  | exponent {rest : List Char} : Fractional ('e' :: rest)

-- A text without a sign that is read as a decimal and not as an integer.
structure FloatText (text : List Char) (d : Decimal) : Prop where
  chars : ∀ c ∈ text, isNumberChar c
  splits : ∃ whole tail, text = whole ++ tail ∧ WholeText whole ∧ Fractional tail
  value : Decimal.ofChars? text = some d

theorem whole_text_digits (text : List Char) (whole : WholeText text) :
    text ≠ [] ∧ (∀ c ∈ text, c.isDigit) ∧ hasSpareZero text = false := by
  cases whole with
  | zero => exact ⟨by simp, List.forall_mem_singleton.mpr rfl, rfl⟩
  | @leading first rest digit nonzero digits =>
      refine ⟨by simp, List.forall_mem_cons.mpr ⟨digit, digits⟩, ?_⟩
      unfold hasSpareZero
      split
      · rename_i same
        exact absurd (List.cons.inj same).1 nonzero
      · rfl

theorem unsigned_whole (negative : Bool) (text : List Char) (whole : WholeText text) :
    unsigned? negative text =
      some (.int (if negative then -(digitsValue text : Int) else digitsValue text)) := by
  obtain ⟨nonempty, digits, spare⟩ := whole_text_digits text whole
  obtain ⟨taken, dropped⟩ := take_run Char.isDigit text [] digits (by simp)
  rw [List.append_nil] at taken dropped
  unfold unsigned?
  simp [taken, dropped, nonempty, spare]

theorem unsigned_float (negative : Bool) (text : List Char) (d : Decimal) (number : FloatText text d) :
    unsigned? negative text = some (.float (d.toBinary64 negative)) := by
  obtain ⟨whole, tail, rfl, isWhole, fractional⟩ := number.splits
  obtain ⟨nonempty, digits, spare⟩ := whole_text_digits whole isWhole
  have stop : ∀ c ∈ tail.head?, c.isDigit = false := by
    cases fractional <;> simp
  obtain ⟨taken, dropped⟩ := take_run Char.isDigit whole tail digits stop
  unfold unsigned?
  cases fractional with
  | point isDigit => simp [taken, dropped, nonempty, spare, number.value, isDigit]
  | exponent => simp [taken, dropped, nonempty, spare, number.value]

theorem fraction_float_text (whole part : List Char) (isWhole : WholeText whole) (nonempty : part ≠ [])
    (digits : ∀ c ∈ part, c.isDigit) :
    FloatText (whole ++ '.' :: part) ⟨digitsValue (whole ++ part), -(part.length : Int)⟩ := by
  obtain ⟨wholeNonempty, wholeDigits, _⟩ := whole_text_digits whole isWhole
  refine ⟨fun c member => ?_, ?_, Decimal.of_chars_float whole part wholeNonempty wholeDigits digits⟩
  · rw [List.mem_append, List.mem_cons] at member
    rcases member with inWhole | point | inPart
    · exact digit_number_char c (wholeDigits c inWhole)
    · simp [isNumberChar, point]
    · exact digit_number_char c (digits c inPart)
  · obtain ⟨first, rest, rfl⟩ := List.exists_cons_of_ne_nil nonempty
    exact ⟨whole, _, rfl, isWhole, .point (digits first (by simp))⟩

theorem scientific_float_text (width : Nat) (d : Decimal) : FloatText (d.scientific width).toList d := by
  obtain ⟨first, more, digits⟩ := List.exists_cons_of_ne_nil (Nat.toDigits_ne_nil (n := d.digits) (b := 10))
  have all := repr_digits d.digits
  rw [digits] at all
  obtain ⟨firstDigit, moreDigits⟩ := List.forall_mem_cons.mp all
  have whole : WholeText [first] := by
    by_cases zero : first = '0'
    · rw [zero]
      exact .zero
    · exact .leading firstDigit zero (by simp)
  refine ⟨fun c member => ?_, ?_, Decimal.of_chars_scientific width d⟩
  · rw [Decimal.scientific_chars width d first more digits] at member
    simp only [List.mem_append, List.mem_cons, List.not_mem_nil, or_false] at member
    rcases member with rfl | inMore | rfl | sign | inPower
    · exact digit_number_char c firstDigit
    · by_cases empty : more = []
      · simp [empty] at inMore
      · rw [if_neg empty, List.mem_cons] at inMore
        rcases inMore with rfl | later
        · rfl
        · exact digit_number_char c (moreDigits c later)
    · rfl
    · rw [sign]
      split <;> rfl
    · exact digit_number_char c (Decimal.places_digits _ _ c inPower)
  · refine ⟨[first], _, Decimal.scientific_chars width d first more digits, whole, ?_⟩
    cases more with
    | nil => exact .exponent
    | cons second more =>
        rw [if_neg (by simp)]
        exact .point (moreDigits second (by simp))

-- A whole number is written with a zero behind the point.
theorem whole_float_text (n : Nat) : FloatText ((n.repr ++ ".0").toList) ⟨10 * n, -1⟩ := by
  have number := fraction_float_text _ ['0'] (to_digits_whole n) (by simp) (by simp)
  have value : digitsValue (Nat.toDigits 10 n ++ ['0']) = 10 * n := by
    rw [digits_value, Nat.ofDigitChars_append, Nat.ofDigitChars_ten_toDigits]
    rfl
  rw [value] at number
  rw [String.toList_append, Nat.toList_repr]
  exact number

theorem positional_float_text (digits less : Nat) :
    FloatText (Decimal.positional ⟨digits, .negSucc less⟩).toList ⟨digits, .negSucc less⟩ := by
  have number := fraction_float_text _ _ (to_digits_whole (digits / 10 ^ (less + 1)))
    (Decimal.places_nonempty (less + 1) (digits % 10 ^ (less + 1))) (Decimal.places_digits _ _)
  rw [Decimal.joined_digits_value (less + 1) digits (Nat.succ_pos less),
    Decimal.places_length (less + 1) _ (Nat.succ_pos less) (Nat.mod_lt _ (Nat.pow_pos (by decide)))] at number
  rw [Decimal.positional_fraction]
  exact number

theorem magnitude_float_text (d : Decimal) : ∃ read, FloatText (Layout.json.magnitude d).toList read ∧
    ∀ negative, read.toBinary64 negative = d.toBinary64 negative := by
  rw [Layout.magnitude]
  by_cases plain : Layout.json.plain d.firstPower
  · rw [if_pos plain]
    obtain ⟨digits, exponent⟩ := d
    cases exponent with
    | negSucc less =>
        rw [if_pos (Int.negSucc_lt_zero less)]
        exact ⟨_, positional_float_text digits less, fun _ => rfl⟩
    | ofNat power =>
        rw [if_neg (by simp)]
        refine ⟨_, whole_float_text (digits * 10 ^ power), fun negative => ?_⟩
        rw [Decimal.shifted_fraction]
        exact Decimal.whole_value negative digits power
  · rw [if_neg plain]
    exact ⟨d, scientific_float_text _ d, fun _ => rfl⟩

-- A text that is read as a number by itself.
structure NumeralText (text : List Char) (value : Json) : Prop where
  first : ∃ c more, text = c :: more ∧ (c.isDigit ∨ c = '-')
  chars : ∀ c ∈ text, isNumberChar c
  reads : number? text = some value

theorem signed_numeral (negative : Bool) (text : List Char) (value : Json)
    (first : ∃ c more, text = c :: more ∧ c.isDigit) (chars : ∀ c ∈ text, isNumberChar c)
    (reads : unsigned? negative text = some value) :
    NumeralText (if negative then '-' :: text else text) value := by
  cases negative with
  | true => exact ⟨⟨_, _, rfl, .inr rfl⟩, List.forall_mem_cons.mpr ⟨rfl, chars⟩, reads⟩
  | false =>
      obtain ⟨c, more, rfl, digit⟩ := first
      refine ⟨⟨_, _, rfl, .inl digit⟩, chars, ?_⟩
      rw [if_neg Bool.false_ne_true]
      unfold number?
      split
      · rename_i same
        rw [(List.cons.inj same).1] at digit
        cases digit
      · exact reads

theorem whole_text_first (text : List Char) (whole : WholeText text) : ∃ c more, text = c :: more ∧ c.isDigit := by
  cases whole with
  | zero => exact ⟨_, _, rfl, rfl⟩
  | leading digit => exact ⟨_, _, rfl, digit⟩

theorem int_numeral (value : Int) : NumeralText (toString value).toList (.int value) := by
  have digits (negative : Bool) (n : Nat) : NumeralText (if negative then '-' :: Nat.toDigits 10 n else Nat.toDigits 10 n)
      (.int (if negative then -(n : Int) else n)) := by
    have reads := unsigned_whole negative _ (to_digits_whole n)
    rw [digits_value_repr] at reads
    exact signed_numeral negative _ _ (whole_text_first _ (to_digits_whole n))
      (fun c member => digit_number_char c (repr_digits n c member)) reads
  cases value with
  | ofNat n =>
      have text : (toString (Int.ofNat n)).toList = Nat.toDigits 10 n := Nat.toList_repr
      rw [text]
      exact digits false n
  | negSucc n =>
      have text : (toString (Int.negSucc n)).toList = '-' :: Nat.toDigits 10 (n + 1) := by
        change ("-" ++ (n + 1).repr).toList = _
        rw [String.toList_append, Nat.toList_repr]
        rfl
      rw [text]
      exact digits true (n + 1)

theorem float_numeral (negative : Bool) (rank : Fin (2047 * 2 ^ 52)) :
    NumeralText (printFloat (.finite negative rank)).toList (.float (.finite negative rank)) := by
  obtain ⟨read, number, same⟩ := magnitude_float_text (Decimal.shortest rank)
  have value : read.toBinary64 negative = .finite negative rank := by
    rw [same, Decimal.shortest_value, Binary64.ofRank, dif_pos rank.isLt]
  have first : ∃ c more, (Layout.json.magnitude (Decimal.shortest rank)).toList = c :: more ∧ c.isDigit := by
    obtain ⟨whole, tail, split, isWhole, _⟩ := number.splits
    obtain ⟨c, more, rfl, digit⟩ := whole_text_first whole isWhole
    exact ⟨c, more ++ tail, split, digit⟩
  have reads := unsigned_float negative _ read number
  rw [value] at reads
  have text : (printFloat (.finite negative rank)).toList =
      if negative then '-' :: (Layout.json.magnitude (Decimal.shortest rank)).toList
      else (Layout.json.magnitude (Decimal.shortest rank)).toList := by
    change (if negative then "-" ++ Layout.json.magnitude (Decimal.shortest rank)
      else Layout.json.magnitude (Decimal.shortest rank)).toList = _
    cases negative with
    | false => rfl
    | true => rw [if_pos rfl, if_pos rfl, String.toList_append]; rfl
  rw [text]
  exact signed_numeral negative _ _ first number.chars reads

end Json

end Reckon
