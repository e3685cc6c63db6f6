import Reckon.Proofs.RoundTrip

set_option autoImplicit false

namespace Reckon

-- `0|[1-9][0-9]*`
inductive WholeText : List Char → Prop where
  | zero : WholeText ['0']
  | leading {first : Char} {rest : List Char} (digit : first.isDigit) (nonzero : first ≠ '0')
      (digits : ∀ c ∈ rest, c.isDigit) : WholeText (first :: rest)

-- `(0|[1-9][0-9]*)(\.[0-9]*[1-9])?`
inductive MagnitudeText : List Char → Prop where
  | whole {text : List Char} (whole : WholeText text) : MagnitudeText text
  | fraction {text part : List Char} {last : Char} (whole : WholeText text)
      (digits : ∀ c ∈ part, c.isDigit) (digit : last.isDigit) (nonzero : last ≠ '0') :
      MagnitudeText (text ++ '.' :: (part ++ [last]))

-- A magnitude starts with a digit, so that the minus sign tells the two apart.
def CanonicalText (negative : Bool) (text : List Char) : Prop :=
  ∃ magnitude, MagnitudeText magnitude ∧ text = if negative then '-' :: magnitude else magnitude

theorem digit_char_digit (n : Nat) : (Nat.digitChar (n % 10)).isDigit := by
  rw [Nat.isDigit_digitChar, decide_eq_true_eq]
  exact Nat.mod_lt n (by decide)

theorem to_digits_whole (n : Nat) : WholeText (Nat.toDigits 10 n) := by
  induction n using Nat.strongRecOn with
  | ind n ih =>
      by_cases small : n < 10
      · rw [Nat.toDigits_of_lt_base small]
        by_cases zero : n = 0
        · rw [zero]
          exact .zero
        · refine .leading ?_ (fun same => zero (Nat.digitChar_eq_zero.mp same)) (by simp)
          rw [Nat.isDigit_digitChar, decide_eq_true_eq]
          exact small
      · have shorter := ih (n / 10) (by omega)
        have positive : n / 10 ≠ 0 := by omega
        rw [Nat.toDigits_of_base_le (by decide) (by omega)]
        generalize front : Nat.toDigits 10 (n / 10) = digits at shorter
        cases shorter with
        | zero =>
            -- Only zero itself is written with a zero in front.
            have value := digits_value_repr (n / 10)
            rw [front] at value
            exact absurd value.symm positive
        | leading digit nonzero rest =>
            refine .leading digit nonzero (fun c member => ?_)
            rcases List.mem_append.mp member with inRest | last
            · exact rest c inRest
            · rw [List.mem_singleton.mp last]
              exact digit_char_digit n

theorem to_digits_last (n : Nat) :
    ∃ front, (∀ c ∈ front, c.isDigit) ∧ Nat.toDigits 10 n = front ++ [Nat.digitChar (n % 10)] := by
  by_cases small : n < 10
  · exact ⟨[], by simp, by rw [Nat.toDigits_of_lt_base small, Nat.mod_eq_of_lt small, List.nil_append]⟩
  · exact ⟨_, repr_digits (n / 10), Nat.toDigits_of_base_le (by decide) (by omega)⟩

namespace Decimal

-- The last digit counts, unless the decimal is zero.
def Normal (d : Decimal) : Prop := d = ⟨0, 0⟩ ∨ d.digits % 10 ≠ 0

theorem normalize_normal (d : Decimal) : d.normalize.Normal := by
  obtain ⟨digits, exponent⟩ := d
  rw [normalize]
  fun_induction normalize.go digits exponent with
  | case1 exponent => exact .inl rfl
  | case2 digits exponent nonzero trailing ih => exact ih
  | case3 digits exponent nonzero trailing => exact .inr trailing

theorem shortest_normal (rank : Nat) : (shortest rank).Normal := by
  rw [shortest]
  by_cases zero : rank = 0
  · rw [if_pos zero]
    exact .inl rfl
  · rw [if_neg zero]
    exact normalize_normal _

theorem positional_canonical (d : Decimal) (normal : d.Normal) : MagnitudeText d.positional.toList := by
  obtain ⟨digits, exponent⟩ := d
  cases exponent with
  | ofNat power =>
      simp only [positional, Nat.toList_repr]
      exact .whole (to_digits_whole _)
  | negSucc less =>
      have counts : digits % 10 ≠ 0 := by
        rcases normal with zero | counts
        · cases zero
        · exact counts
      -- The digit that the fraction ends with is the last one of all digits.
      have same : digits % 10 ^ (less + 1) % 10 = digits % 10 :=
        Nat.mod_mod_of_dvd digits (Nat.dvd_of_pow_dvd (Nat.succ_pos less) (Nat.dvd_refl _))
      obtain ⟨front, frontDigits, split⟩ := to_digits_last (digits % 10 ^ (less + 1))
      rw [positional_fraction, placesText, split, ← List.append_assoc]
      refine .fraction (to_digits_whole _) (fun c member => ?_) (digit_char_digit _) (fun zero => ?_)
      · rcases List.mem_append.mp member with padding | inFront
        · rw [(List.mem_replicate.mp padding).2]
          rfl
        · exact frontDigits c inFront
      · rw [same] at zero
        exact counts (Nat.digitChar_eq_zero.mp zero)

end Decimal

theorem format_text_canonical (negative : Bool) (rank : Fin (2047 * 2 ^ 52)) :
    CanonicalText negative (Binary64.finite negative rank).format.toList := by
  refine ⟨_, Decimal.positional_canonical _ (Decimal.shortest_normal rank), ?_⟩
  rw [format_magnitude]
  cases negative with
  | false => rfl
  | true => simp

theorem read_finite (negative : Bool) (rank : Fin (2047 * 2 ^ 52)) :
    Numeral.read? (Binary64.finite negative rank).format = some (.finite negative rank) := by
  obtain ⟨kind, d, number, value⟩ := Decimal.positional_text (Decimal.shortest rank)
  have reads : d.toBinary64 negative = .finite negative rank := by
    rw [value, Decimal.shortest_value, Binary64.ofRank, dif_pos rank.isLt]
  rw [format_magnitude, ← reads]
  cases negative with
  | false =>
      have read := read_number_text kind _ d number
      rw [String.ofList_toList] at read
      exact read
  | true =>
      have read := read_negative_text kind _ d number
      have text : "-" ++ (Decimal.shortest rank).positional =
          String.ofList ('-' :: (Decimal.shortest rank).positional.toList) := by
        apply String.toList_inj.mp
        simp
      rw [if_pos rfl, text]
      exact read

theorem read_format (value : Binary64) : Numeral.read? value.format = some value := by
  cases value with
  | nan => decide +kernel
  | infinite negative => cases negative <;> decide +kernel
  | finite negative rank => exact read_finite negative rank

theorem scan_format (rank : Fin (2047 * 2 ^ 52)) :
    ∃ kind, (kind = .integer ∨ kind = .float) ∧
      Token.scan (Binary64.finite false rank).format =
        [⟨kind, (Binary64.finite false rank).format, 0⟩,
          ⟨.eof, "", (Binary64.finite false rank).format.length⟩] := by
  obtain ⟨kind, d, number, _⟩ := format_text rank
  have scanned := Parse.scan_scanned _ _ (Token.scanned_number 0 kind _ d number)
  rw [String.ofList_toList] at scanned
  exact ⟨kind, number_text_kind kind _ d number, scanned⟩

-- NaN is one value, so that the last part leaves nothing out.
theorem format_exact_canonical :
    (∀ (negative : Bool) (rank : Fin (2047 * 2 ^ 52)),
      CanonicalText negative (Binary64.finite negative rank).format.toList ∧
      Numeral.read? (Binary64.finite negative rank).format = some (.finite negative rank)) ∧
    (∀ rank : Fin (2047 * 2 ^ 52), ∃ kind, (kind = .integer ∨ kind = .float) ∧
      Token.scan (Binary64.finite false rank).format =
        [⟨kind, (Binary64.finite false rank).format, 0⟩,
          ⟨.eof, "", (Binary64.finite false rank).format.length⟩]) ∧
    ∀ a b : Binary64, a.format = b.format → a = b := by
  refine ⟨fun negative rank => ⟨format_text_canonical negative rank, read_finite negative rank⟩,
    scan_format, fun a b same => ?_⟩
  have again := read_format a
  rw [same, read_format b] at again
  exact (Option.some.inj again).symm

end Reckon
