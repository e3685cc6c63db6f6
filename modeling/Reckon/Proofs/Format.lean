import Reckon.Decimal.Layout
import Reckon.Proofs.Numerals

set_option autoImplicit false

namespace Reckon

theorem digits_value (digits : List Char) : digitsValue digits = Nat.ofDigitChars 10 digits 0 := by
  rw [digitsValue, Nat.ofDigitChars_eq_foldl]

theorem digits_value_repr (n : Nat) : digitsValue (Nat.toDigits 10 n) = n := by
  rw [digits_value, Nat.ofDigitChars_ten_toDigits]

theorem repr_digits (n : Nat) : ∀ c ∈ Nat.toDigits 10 n, c.isDigit :=
  fun _ member => Nat.isDigit_of_mem_toDigits (by decide) (by decide) member

theorem repr_number (n : Nat) : NumberText .integer n.repr.toList ⟨n, 0⟩ := by
  have number := NumberText.integer Nat.toDigits_ne_nil (repr_digits n)
  rw [digits_value_repr] at number
  rw [Nat.toList_repr]
  exact number

namespace Decimal

-- The digits after the point, with the zeros before them.
def placesText (places part : Nat) : List Char :=
  List.replicate (places - (Nat.toDigits 10 part).length) '0' ++ Nat.toDigits 10 part

theorem places_digits (places part : Nat) : ∀ c ∈ placesText places part, c.isDigit := by
  intro c member
  rw [placesText, List.mem_append, List.mem_replicate] at member
  rcases member with ⟨_, zero⟩ | digit
  · rw [zero]
    rfl
  · exact repr_digits part c digit

theorem places_length (places part : Nat) (positive : 0 < places) (bounded : part < 10 ^ places) :
    (placesText places part).length = places := by
  have short := (Nat.length_toDigits_le_iff (by decide) positive).mpr bounded
  rw [placesText, List.length_append, List.length_replicate]
  omega

theorem places_value (places part : Nat) : digitsValue (placesText places part) = part := by
  rw [digits_value, placesText, Nat.ofDigitChars_append, Nat.ofDigitChars_replicate_zero, Nat.mul_zero,
    Nat.ofDigitChars_ten_toDigits]

theorem joined_digits_value (places digits : Nat) (positive : 0 < places) :
    digitsValue (Nat.toDigits 10 (digits / 10 ^ places) ++ placesText places (digits % 10 ^ places)) =
      digits := by
  have bounded : digits % 10 ^ places < 10 ^ places := Nat.mod_lt _ (Nat.pow_pos (by decide))
  have size := places_length places _ positive bounded
  rw [digits_value, Nat.ofDigitChars_append, Nat.ofDigitChars_ten_toDigits,
    Nat.ofDigitChars_eq_ofDigitChars_zero, size, ← digits_value, places_value, Nat.div_add_mod]

theorem positional_fraction (digits less : Nat) :
    (positional ⟨digits, .negSucc less⟩).toList =
      Nat.toDigits 10 (digits / 10 ^ (less + 1)) ++
        '.' :: placesText (less + 1) (digits % 10 ^ (less + 1)) := by
  simp only [positional, String.toList_append, Nat.toList_repr, ← String.length_toList,
    String.toList_ofList, List.append_assoc]
  rfl

theorem whole_value (negative : Bool) (digits power : Nat) :
    toBinary64 negative ⟨digits * 10 ^ power, 0⟩ = toBinary64 negative ⟨digits, power⟩ := by
  apply same_fraction
  change digits * 10 ^ power * 10 ^ 0 * Binary64.unitsPerOne * 1 =
    digits * 10 ^ power * Binary64.unitsPerOne * 1
  rw [Nat.pow_zero, Nat.mul_one (digits * 10 ^ power)]

theorem positional_text (d : Decimal) : ∃ kind read, NumberText kind d.positional.toList read ∧
    ∀ negative, read.toBinary64 negative = d.toBinary64 negative := by
  obtain ⟨digits, exponent⟩ := d
  cases exponent with
  | ofNat power =>
      exact ⟨.integer, ⟨digits * 10 ^ power, 0⟩, repr_number _, fun negative => whole_value negative digits power⟩
  | negSucc less =>
      have bounded : digits % 10 ^ (less + 1) < 10 ^ (less + 1) := Nat.mod_lt _ (Nat.pow_pos (by decide))
      have size := places_length (less + 1) _ (Nat.succ_pos less) bounded
      have partNonempty : placesText (less + 1) (digits % 10 ^ (less + 1)) ≠ [] :=
        List.ne_nil_of_length_pos (by omega)
      refine ⟨.float, ⟨digits, .negSucc less⟩, ?_, fun _ => rfl⟩
      have number := NumberText.float Nat.toDigits_ne_nil partNonempty
        (repr_digits (digits / 10 ^ (less + 1))) (places_digits _ _)
      rw [joined_digits_value (less + 1) digits (Nat.succ_pos less), size] at number
      rw [positional_fraction]
      exact number

end Decimal

theorem format_magnitude (negative : Bool) (rank : Fin (2047 * 2 ^ 52)) :
    (Binary64.finite negative rank).format =
      if negative then "-" ++ (Decimal.shortest rank).positional else (Decimal.shortest rank).positional := by
  have magnitude : Layout.result.magnitude (Decimal.shortest rank) = (Decimal.shortest rank).positional := by
    simp [Layout.magnitude, Layout.result]
  rw [Binary64.format, Layout.write, magnitude]
  rfl

theorem format_negative (rank : Fin (2047 * 2 ^ 52)) :
    (Binary64.finite true rank).format.toList = '-' :: (Binary64.finite false rank).format.toList := by
  simp [format_magnitude]

theorem format_text (rank : Fin (2047 * 2 ^ 52)) :
    ∃ kind d, NumberText kind (Binary64.finite false rank).format.toList d ∧
      d.toBinary64 false = .finite false rank := by
  obtain ⟨kind, d, number, value⟩ := Decimal.positional_text (Decimal.shortest rank)
  refine ⟨kind, d, ?_, ?_⟩
  · rw [format_magnitude, if_neg Bool.false_ne_true]
    exact number
  · rw [value, Decimal.shortest_value, Binary64.ofRank, dif_pos rank.isLt]

end Reckon
