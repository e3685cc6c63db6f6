import Reckon.Proofs.Format

set_option autoImplicit false

namespace Reckon

namespace Binary64

-- A carry out of the mantissa is the step to the next power of two.
theorem units_split (shift mantissa : Nat) (low : shift = 0 ∨ 2 ^ 52 ≤ mantissa)
    (high : mantissa ≤ 2 ^ 53) : units (shift * 2 ^ 52 + mantissa) = mantissa * 2 ^ shift := by
  by_cases small : mantissa < 2 ^ 52
  · have zero : shift = 0 := by omega
    subst zero
    rw [Nat.zero_mul, Nat.zero_add, units, if_pos small, Nat.pow_zero, Nat.mul_one]
  · have large : ¬ shift * 2 ^ 52 + mantissa < 2 ^ 52 := by omega
    rw [units, if_neg large]
    by_cases carry : mantissa = 2 ^ 53
    · have quotient : (shift * 2 ^ 52 + mantissa) / 2 ^ 52 - 1 = shift + 1 := by omega
      have remainder : (shift * 2 ^ 52 + mantissa) % 2 ^ 52 = 0 := by omega
      rw [quotient, remainder, carry, Nat.add_zero, ← Nat.pow_add, ← Nat.pow_add]
      exact congrArg (2 ^ ·) (by omega)
    · have quotient : (shift * 2 ^ 52 + mantissa) / 2 ^ 52 - 1 = shift := by omega
      have remainder : 2 ^ 52 + (shift * 2 ^ 52 + mantissa) % 2 ^ 52 = mantissa := by omega
      rw [quotient, remainder]

theorem rank_split (rank : Nat) : ∃ shift mantissa, rank = shift * 2 ^ 52 + mantissa ∧
    (shift = 0 ∨ 2 ^ 52 ≤ mantissa) ∧ mantissa < 2 ^ 53 := by
  by_cases small : rank < 2 ^ 52
  · exact ⟨0, rank, by omega, .inl rfl, by omega⟩
  · exact ⟨rank / 2 ^ 52 - 1, 2 ^ 52 + rank % 2 ^ 52, by omega, .inr (by omega), by omega⟩

theorem units_next (rank : Nat) : units rank < units (rank + 1) := by
  obtain ⟨shift, mantissa, rfl, low, high⟩ := rank_split rank
  rw [units_split shift mantissa low (Nat.le_of_lt high), Nat.add_assoc,
    units_split shift (mantissa + 1) (by omega) high]
  exact Nat.mul_lt_mul_of_pos_right (Nat.lt_succ_self _) (Nat.two_pow_pos shift)

theorem units_less (a b : Nat) (less : a < b) : units a < units b := by
  induction less with
  | refl => exact units_next a
  | step _ ih => exact Nat.lt_trans ih (units_next _)

theorem units_order (a b : Nat) : units a < units b ↔ a < b := by
  refine ⟨fun less => Nat.not_le.mp (fun order => ?_), units_less a b⟩
  rcases Nat.lt_or_eq_of_le order with greater | same
  · exact Nat.lt_asymm less (units_less b a greater)
  · rw [same] at less
    exact Nat.lt_irrefl _ less

theorem units_injective (a b : Nat) (same : units a = units b) : a = b := by
  rcases Nat.lt_trichotomy a b with less | equal | greater
  · exact absurd same (Nat.ne_of_lt (units_less a b less))
  · exact equal
  · exact absurd same.symm (Nat.ne_of_lt (units_less b a greater))

theorem units_shifted (count shift : Nat) (small : count ≤ 2 ^ 53) :
    ∃ rank, units rank = count * 2 ^ shift := by
  induction shift generalizing count with
  | zero => exact ⟨_, units_split 0 count (.inl rfl) small⟩
  | succ shift ih =>
      by_cases large : 2 ^ 52 ≤ count
      · exact ⟨_, units_split (shift + 1) count (.inr large) small⟩
      · obtain ⟨rank, same⟩ := ih (count * 2) (by omega)
        exact ⟨rank, by rw [same, Nat.pow_succ', Nat.mul_assoc]⟩

-- What is cut off leaves a mantissa of at most 53 bits, and of as many unless nothing is cut off.
theorem cut_bounds (num : Nat) : num / 2 ^ (num.log2 - 52) < 2 ^ 53 ∧
    (num.log2 - 52 = 0 ∨ 2 ^ 52 ≤ num / 2 ^ (num.log2 - 52)) := by
  have positive : 0 < 2 ^ (num.log2 - 52) := Nat.two_pow_pos _
  constructor
  · rw [Nat.div_lt_iff_lt_mul positive, ← Nat.pow_add]
    exact Nat.lt_of_lt_of_le Nat.lt_log2_self (Nat.pow_le_pow_right (by decide) (by omega))
  · by_cases short : num.log2 - 52 = 0
    · exact .inl short
    · have nonzero : num ≠ 0 := by
        rintro rfl
        exact short (by rw [Nat.log2_zero])
      refine .inr ((Nat.le_div_iff_mul_le positive).mpr ?_)
      rw [← Nat.pow_add, show 52 + (num.log2 - 52) = num.log2 by omega]
      exact Nat.log2_self_le nonzero

-- Rounding does not fall below a rank that the number reaches.
theorem nearest_at_least (rank num : Nat) (reached : units rank ≤ num) : rank ≤ nearestRank num 1 := by
  obtain ⟨high, low⟩ := cut_bounds num
  have floor : (num.log2 - 52) * 2 ^ 52 + num / 2 ^ (num.log2 - 52) ≤ nearestRank num 1 := by
    unfold nearestRank
    simp only [Nat.div_one, Nat.one_mul]
    split
    · exact Nat.le_succ _
    · exact Nat.le_refl _
  have above : num < units ((num.log2 - 52) * 2 ^ 52 + (num / 2 ^ (num.log2 - 52) + 1)) := by
    rw [units_split _ _ (by omega) high, Nat.mul_comm]
    exact Nat.lt_mul_div_succ num (Nat.two_pow_pos _)
  have before := (units_order _ _).mp (Nat.lt_of_le_of_lt reached above)
  omega

theorem finite_rank (rank count : Nat) (small : count ≤ 2 ^ 53) (whole : units rank = count * unitsPerOne) :
    rank < 2047 * 2 ^ 52 := by
  have largest : units (2046 * 2 ^ 52 + 2 ^ 52) = 2 ^ 52 * 2 ^ 2046 :=
    units_split 2046 (2 ^ 52) (.inr (Nat.le_refl _)) (by decide)
  have bound : 2 ^ 53 * unitsPerOne < 2 ^ 52 * 2 ^ 2046 := by decide +kernel
  rw [← largest] at bound
  refine (units_order rank (2046 * 2 ^ 52 + 2 ^ 52)).mp (Nat.lt_of_le_of_lt ?_ bound)
  rw [whole]
  exact Nat.mul_le_mul_right _ small

theorem round_whole (negative : Bool) (count : Nat) (small : count ≤ 2 ^ 53) :
    ∃ rank : Fin (2047 * 2 ^ 52), round negative (count * unitsPerOne) 1 = .finite negative rank ∧
      units rank = count * unitsPerOne := by
  obtain ⟨rank, whole⟩ := units_shifted count 1074 small
  have bound := finite_rank rank count small whole
  refine ⟨⟨rank, bound⟩, ?_, whole⟩
  have nearest := nearest_units rank
  rw [whole] at nearest
  rw [round, unitsPerOne, nearest, ofRank, dif_pos bound]

theorem units_per_one_positive : 0 < unitsPerOne := by
  exact Nat.pow_pos (by decide)

-- Rounding a number that reaches a representable one does not give less than that.
theorem rounded_reaches (least count other reached rank : Nat) (represented : units reached = least * unitsPerOne)
    (reaches : least ≤ other) (whole : units rank = count * unitsPerOne)
    (rounded : nearestRank (other * unitsPerOne) 1 = rank) : least ≤ count := by
  have atLeast := nearest_at_least reached (other * unitsPerOne)
    (by rw [represented]; exact Nat.mul_le_mul_right _ reaches)
  rw [rounded] at atLeast
  have order : units reached ≤ units rank :=
    Nat.not_lt.mp (fun less => Nat.not_lt.mpr atLeast ((units_order rank reached).mp less))
  rw [represented, whole] at order
  exact Nat.le_of_mul_le_mul_right order units_per_one_positive

-- Among whole numbers, only the tie above the last one is rounded to another.
theorem whole_rounded (count other rank : Nat) (small : count ≤ 2 ^ 53)
    (whole : units rank = count * unitsPerOne) (rounded : nearestRank (other * unitsPerOne) 1 = rank) :
    other = count ∨ other = 2 ^ 53 + 1 := by
  by_cases exactly : other ≤ 2 ^ 53
  · obtain ⟨own, same⟩ := units_shifted other 1074 exactly
    have nearest := nearest_units own
    rw [same, ← unitsPerOne, rounded] at nearest
    rw [nearest, same, ← unitsPerOne] at whole
    exact .inl (Nat.eq_of_mul_eq_mul_right units_per_one_positive whole)
  · refine .inr ?_
    obtain ⟨reached, represented⟩ := units_shifted (2 ^ 52 + 1) 1075 (by decide)
    have next : (2 ^ 52 + 1) * 2 ^ 1075 = (2 ^ 53 + 2) * unitsPerOne := by decide +kernel
    rw [next] at represented
    by_cases above : 2 ^ 53 + 2 ≤ other
    · have beyond := rounded_reaches _ count other reached rank represented above whole rounded
      omega
    · omega

theorem of_rank_finite (negative : Bool) (n rank : Nat) (bound : rank < 2047 * 2 ^ 52) :
    ofRank negative n = .finite negative ⟨rank, bound⟩ ↔ n = rank := by
  rw [ofRank]
  split
  · simp
  · constructor
    · intro absurdity
      cases absurdity
    · intro same
      omega

end Binary64

namespace Decimal

-- The bounds that keep powers of ten small do not change which decimals read as a finite number.
theorem fraction_rank (d : Decimal) (rank : Nat) (bound : rank < 2047 * 2 ^ 52) :
    d.nearestRank = rank ↔ Binary64.nearestRank d.numerator d.denominator = rank := by
  have value := to_binary64_fraction false d
  rw [toBinary64, Binary64.round] at value
  rw [← Binary64.of_rank_finite false _ rank bound, ← Binary64.of_rank_finite false _ rank bound, value]

theorem whole_reads (digits power rank : Nat) (bound : rank < 2047 * 2 ^ 52) :
    nearestRank ⟨digits, .ofNat power⟩ = rank ↔
      Binary64.nearestRank (digits * 10 ^ power * Binary64.unitsPerOne) 1 = rank := by
  have fraction := fraction_rank ⟨digits, .ofNat power⟩ rank bound
  simp only [numerator, denominator] at fraction
  exact fraction

-- What is whole in units of `10 ^ exponent` is its own nearer neighbour.
theorem neighbour_exact (rank digits : Nat) (exponent : Int) (positive : 0 < (scaled (Binary64.units rank) exponent).2)
    (whole : (scaled (Binary64.units rank) exponent).1 = digits * (scaled (Binary64.units rank) exponent).2)
    (reads : nearestRank ⟨digits, exponent⟩ = rank) : neighbour? rank exponent = some ⟨digits, exponent⟩ := by
  unfold neighbour?
  generalize scaled (Binary64.units rank) exponent = fraction at positive whole
  obtain ⟨num, den⟩ := fraction
  simp only at positive whole
  have low : num / den = digits := by rw [whole, Nat.mul_div_cancel _ positive]
  have rest : 2 * (num % den) = 0 := by rw [whole, Nat.mul_mod_left]
  simp only [low, rest, positive, true_or, if_true, reads]

theorem scaled_unit (units : Nat) : scaled units 0 = (units, Binary64.unitsPerOne) := by
  rw [show (0 : Int) = .ofNat 0 from rfl, scaled, Nat.pow_zero, Nat.mul_one]

theorem neighbour_unit (count rank : Nat) (small : count ≤ 2 ^ 53)
    (whole : Binary64.units rank = count * Binary64.unitsPerOne) :
    neighbour? rank 0 = some ⟨count, 0⟩ := by
  have bound := Binary64.finite_rank rank count small whole
  have reads := (whole_reads count 0 rank bound).mpr (by
    rw [Nat.pow_zero, Nat.mul_one, ← whole, Binary64.nearest_units])
  refine neighbour_exact rank count 0 ?_ ?_ reads
  · rw [scaled_unit]
    exact Binary64.units_per_one_positive
  · rw [scaled_unit]
    exact whole

theorem neighbour_whole (count rank power : Nat) (d : Decimal) (small : count ≤ 2 ^ 53)
    (whole : Binary64.units rank = count * Binary64.unitsPerOne)
    (found : neighbour? rank (.ofNat power) = some d) :
    d.exponent = .ofNat power ∧ d.digits * 10 ^ power = count := by
  obtain ⟨digits, exponent⟩ := d
  obtain ⟨reads, same⟩ := neighbour_value rank _ _ found
  refine ⟨same, ?_⟩
  subst same
  have rounded := (whole_reads digits power rank (Binary64.finite_rank rank count small whole)).mp reads
  rcases Binary64.whole_rounded count _ rank small whole rounded with equal | tie
  · exact equal
  · -- The tie is no multiple of ten, and among the ones the count itself comes first.
    cases power with
    | zero =>
        have first := found.symm.trans (neighbour_unit count rank small whole)
        cases first
        exact Nat.mul_one count
    | succ power =>
        rw [Nat.pow_succ, ← Nat.mul_assoc] at tie
        omega

-- A whole number of at most seventeen digits starts with a power of ten below the seventeenth.
theorem leading_power_whole (count rank : Nat) (small : count ≤ 2 ^ 53) (nonzero : count ≠ 0)
    (whole : Binary64.units rank = count * Binary64.unitsPerOne) :
    ∃ power : Nat, power < 17 ∧ leadingPower (Binary64.units rank) = power := by
  have quotient : Binary64.units rank * 10 ^ 400 / Binary64.unitsPerOne = count * 10 ^ 400 := by
    rw [whole, Nat.mul_right_comm, Nat.mul_div_cancel _ Binary64.units_per_one_positive]
  have size : (count * 10 ^ 400).repr.length = (Nat.toDigits 10 (count * 10 ^ 400)).length := by
    rw [← String.length_toList, Nat.toList_repr]
  have short : (Nat.toDigits 10 (count * 10 ^ 400)).length ≤ 400 + 17 := by
    rw [Nat.length_toDigits_le_iff (by decide) (by decide), Nat.pow_add, Nat.mul_comm count]
    exact Nat.mul_lt_mul_of_pos_left (Nat.lt_of_le_of_lt small (by decide)) (Nat.pow_pos (by decide))
  have long : ¬ (Nat.toDigits 10 (count * 10 ^ 400)).length ≤ 400 := by
    rw [Nat.length_toDigits_le_iff (by decide) (by decide)]
    exact Nat.not_lt.mpr (Nat.le_mul_of_pos_left _ (Nat.pos_of_ne_zero nonzero))
  rw [leadingPower, quotient, size]
  exact ⟨(Nat.toDigits 10 (count * 10 ^ 400)).length - 401, by omega, by omega⟩

theorem normalize_whole (digits power : Nat) :
    ∃ zeros : Nat, (normalize ⟨digits, .ofNat power⟩).exponent = .ofNat zeros ∧
      (normalize ⟨digits, .ofNat power⟩).digits * 10 ^ zeros = digits * 10 ^ power := by
  rw [normalize]
  simp only
  generalize exponent : Int.ofNat power = e
  fun_induction normalize.go digits e generalizing power with
  | case1 e => exact ⟨0, rfl, by rw [Nat.zero_mul, Nat.zero_mul]⟩
  | case2 digits e nonzero trailing ih =>
      obtain ⟨zeros, same, value⟩ := ih (power + 1) (by rw [← exponent]; rfl)
      refine ⟨zeros, same, ?_⟩
      have split : digits = digits / 10 * 10 := by omega
      rw [value, Nat.pow_succ', ← Nat.mul_assoc, ← split]
  | case3 digits e nonzero trailing => exact ⟨power, exponent.symm, rfl⟩

-- The ones are reached, so that the first hit is among the powers of ten that are whole themselves.
theorem search_whole (count rank : Nat) (small : count ≤ 2 ^ 53) (nonzero : count ≠ 0)
    (whole : Binary64.units rank = count * Binary64.unitsPerOne) :
    ∃ digits power : Nat, digits * 10 ^ power = count ∧
      ((List.range 17).findSome? fun (more : Nat) =>
        neighbour? rank (leadingPower (Binary64.units rank) - more)) = some ⟨digits, .ofNat power⟩ := by
  obtain ⟨leading, below, same⟩ := leading_power_whole count rank small nonzero whole
  rw [same, show 17 = (leading + 1) + (16 - leading) by omega, List.range_add, List.findSome?_append]
  cases found : (List.range (leading + 1)).findSome? fun (more : Nat) =>
      neighbour? rank ((leading : Int) - more) with
  | none =>
      have missed := List.findSome?_eq_none_iff.mp found leading (by simp)
      rw [Int.sub_self, neighbour_unit count rank small whole] at missed
      cases missed
  | some d =>
      obtain ⟨more, member, hit⟩ := List.exists_of_findSome?_eq_some found
      have inside := List.mem_range.mp member
      have exponent : (leading : Int) - more = .ofNat (leading - more) := by
        rw [Int.ofNat_eq_natCast]
        omega
      rw [exponent] at hit
      obtain ⟨power, value⟩ := neighbour_whole count rank (leading - more) d small whole hit
      exact ⟨d.digits, leading - more, value, by rw [Option.some_or, ← power]⟩

theorem shortest_whole (count rank : Nat) (small : count ≤ 2 ^ 53)
    (whole : Binary64.units rank = count * Binary64.unitsPerOne) :
    ∃ zeros : Nat, (shortest rank).exponent = .ofNat zeros ∧ (shortest rank).digits * 10 ^ zeros = count := by
  rw [shortest]
  by_cases zero : rank = 0
  · subst zero
    have nothing : count = 0 := by
      refine (Nat.mul_eq_zero.mp ?_).resolve_right (Nat.ne_of_gt Binary64.units_per_one_positive)
      rw [← whole, Binary64.units, if_pos (by decide)]
    rw [if_pos rfl, nothing]
    exact ⟨0, rfl, rfl⟩
  · have nonzero : count ≠ 0 := by
      rintro rfl
      rw [Nat.zero_mul] at whole
      exact zero (Binary64.units_injective rank 0 (whole.trans (if_pos (by decide)).symm))
    obtain ⟨digits, power, value, found⟩ := search_whole count rank small nonzero whole
    rw [if_neg zero]
    simp only [found, Option.getD_some]
    rw [← value]
    exact normalize_whole digits power

theorem positional_whole (count rank : Nat) (small : count ≤ 2 ^ 53)
    (whole : Binary64.units rank = count * Binary64.unitsPerOne) :
    (shortest rank).positional = count.repr := by
  obtain ⟨zeros, exponent, value⟩ := shortest_whole count rank small whole
  rw [positional, exponent]
  simp only [value]

end Decimal

end Reckon
