import Reckon.Decimal.Shortest

set_option autoImplicit false

namespace Reckon

namespace Binary64

theorem nearest_scaled (factor num den : Nat) (positive : 0 < factor) :
    nearestRank (factor * num) (factor * den) = nearestRank num den := by
  have quotient : factor * num / (factor * den) = num / den := Nat.mul_div_mul_left num den positive
  unfold nearestRank
  simp only [quotient, Nat.mul_assoc factor, Nat.mul_div_mul_left _ _ positive,
    Nat.mul_mod_mul_left, Nat.mul_left_comm 2 factor, Nat.mul_lt_mul_left positive,
    Nat.mul_left_cancel_iff positive]

theorem nearest_fraction (num den num' den' : Nat) (positive : 0 < den) (positive' : 0 < den')
    (same : num * den' = num' * den) : nearestRank num den = nearestRank num' den' := by
  calc nearestRank num den
      = nearestRank (den' * num) (den' * den) := (nearest_scaled den' num den positive').symm
    _ = nearestRank (den * num') (den * den') := by
        rw [Nat.mul_comm den' num, same, Nat.mul_comm num' den, Nat.mul_comm den' den]
    _ = nearestRank num' den' := nearest_scaled den num' den' positive

theorem nearest_half (num den : Nat) (small : 2 * num < den) : nearestRank num den = 0 := by
  have less : num < den := by omega
  unfold nearestRank
  simp only [Nat.div_eq_of_lt less, Nat.log2_zero, Nat.zero_sub, Nat.pow_zero, Nat.mul_one,
    Nat.mod_eq_of_lt less]
  rw [if_neg (by omega), Nat.zero_mul]

theorem nearest_shift (num den : Nat) :
    ((num / den).log2 - 52) * 2 ^ 52 ≤ nearestRank num den := by
  unfold nearestRank
  dsimp only
  split
  · exact Nat.le_succ_of_le (Nat.le_add_right _ _)
  · exact Nat.le_add_right _ _

theorem nearest_whole (units shift mantissa : Nat) (value : units = mantissa * 2 ^ shift)
    (width : units.log2 - 52 = shift) : nearestRank units 1 = shift * 2 ^ 52 + mantissa := by
  have positive : 0 < 2 ^ shift := Nat.two_pow_pos shift
  unfold nearestRank
  simp only [Nat.div_one, width, Nat.one_mul]
  rw [value, Nat.mul_div_cancel _ positive, Nat.mul_mod_left, if_neg (by omega)]

theorem log2_shifted (mantissa shift : Nat) (low : 2 ^ 52 ≤ mantissa) (high : mantissa < 2 ^ 53) :
    (mantissa * 2 ^ shift).log2 = 52 + shift := by
  have positive : 0 < 2 ^ shift := Nat.two_pow_pos shift
  have nonzero : mantissa * 2 ^ shift ≠ 0 := Nat.mul_ne_zero (by omega) (by omega)
  rw [Nat.log2_eq_iff nonzero, Nat.add_right_comm 52 shift 1, Nat.pow_add, Nat.pow_add]
  exact ⟨Nat.mul_le_mul_right _ low, Nat.mul_lt_mul_of_pos_right high positive⟩

theorem nearest_units (rank : Nat) : nearestRank (units rank) 1 = rank := by
  have split := Nat.div_add_mod rank (2 ^ 52)
  have part : rank % 2 ^ 52 < 2 ^ 52 := Nat.mod_lt _ (by decide)
  by_cases small : rank < 2 ^ 52
  · have width : rank.log2 - 52 = 0 := by
      by_cases zero : rank = 0
      · rw [zero, Nat.log2_zero]
      · have bound := (Nat.log2_lt zero).mpr small
        omega
    rw [units, if_pos small, nearest_whole rank 0 rank (Nat.mul_one rank).symm width, Nat.zero_mul,
      Nat.zero_add]
  · rw [units, if_neg small, nearest_whole _ (rank / 2 ^ 52 - 1) _ rfl]
    · omega
    · rw [log2_shifted _ _ (by omega) (by omega)]
      omega

theorem of_rank_overflow (negative : Bool) (rank : Nat) (past : overflowRank ≤ rank) :
    ofRank negative rank = .infinite negative := by
  exact dif_neg (Nat.not_lt.mpr past)

end Binary64

namespace Decimal

-- A decimal as a fraction of units.
def numerator (d : Decimal) : Nat :=
  match d.exponent with
  | .ofNat power => d.digits * 10 ^ power * Binary64.unitsPerOne
  | .negSucc _ => d.digits * Binary64.unitsPerOne

def denominator (d : Decimal) : Nat :=
  match d.exponent with
  | .ofNat _ => 1
  | .negSucc less => 10 ^ (less + 1)

theorem denominator_positive (d : Decimal) : 0 < d.denominator := by
  unfold denominator
  split
  · exact Nat.one_pos
  · exact Nat.pow_pos (by decide)

theorem nearest_overflow (digits power : Nat) (nonzero : digits ≠ 0) (large : 309 ≤ power) :
    Binary64.overflowRank ≤ Binary64.nearestRank (digits * 10 ^ power * Binary64.unitsPerOne) 1 := by
  have least : 2 ^ 1025 ≤ 10 ^ 309 := by decide +kernel
  have powers : 2 ^ 1025 ≤ 10 ^ power :=
    Nat.le_trans least (Nat.pow_le_pow_right (by decide) large)
  have product : 2 ^ 2099 ≤ digits * 10 ^ power * Binary64.unitsPerOne := by
    calc 2 ^ 2099 = 2 ^ 1025 * 2 ^ 1074 := by rw [← Nat.pow_add]
      _ ≤ digits * 10 ^ power * 2 ^ 1074 :=
          Nat.mul_le_mul_right _ (Nat.le_trans powers (Nat.le_mul_of_pos_left _ (Nat.pos_of_ne_zero nonzero)))
  have positive : digits * 10 ^ power * Binary64.unitsPerOne ≠ 0 := by
    intro zero
    rw [zero] at product
    exact absurd product (by decide +kernel)
  have width := (Nat.le_log2 positive).mpr product
  have bound := Binary64.nearest_shift (digits * 10 ^ power * Binary64.unitsPerOne) 1
  rw [Nat.div_one] at bound
  refine Nat.le_trans (Nat.mul_le_mul_right _ ?_) bound
  omega

theorem nearest_vanishing (digits less : Nat) (small : digits.log2 + 1076 ≤ 3 * (less + 1)) :
    Binary64.nearestRank (digits * Binary64.unitsPerOne) (10 ^ (less + 1)) = 0 := by
  apply Binary64.nearest_half
  have below : digits * 2 ^ 1074 < 2 ^ (digits.log2 + 1) * 2 ^ 1074 :=
    Nat.mul_lt_mul_of_pos_right Nat.lt_log2_self (Nat.two_pow_pos _)
  calc 2 * (digits * 2 ^ 1074)
      < 2 * (2 ^ (digits.log2 + 1) * 2 ^ 1074) := Nat.mul_lt_mul_of_pos_left below (by decide)
    _ = 2 ^ (digits.log2 + 1076) := by rw [← Nat.pow_add, ← Nat.pow_succ']
    _ ≤ 2 ^ (3 * (less + 1)) := Nat.pow_le_pow_right (by decide) small
    _ = 8 ^ (less + 1) := Nat.pow_mul 2 3 (less + 1)
    _ ≤ 10 ^ (less + 1) := Nat.pow_le_pow_left (by decide) _

theorem to_binary64_fraction (negative : Bool) (d : Decimal) :
    d.toBinary64 negative = Binary64.round negative d.numerator d.denominator := by
  obtain ⟨digits, exponent⟩ := d
  rw [toBinary64, nearestRank, Binary64.round]
  by_cases zero : digits = 0
  · have vanishes : numerator ⟨digits, exponent⟩ = 0 := by
      cases exponent <;> simp [numerator, zero]
    rw [if_pos zero, vanishes, Binary64.nearest_half 0 _ (denominator_positive _)]
  · rw [if_neg zero]
    cases exponent with
    | ofNat power =>
        simp only [numerator, denominator]
        by_cases large : 309 ≤ power
        · rw [if_pos large, Binary64.of_rank_overflow _ _ (Nat.le_refl _),
            Binary64.of_rank_overflow _ _ (nearest_overflow digits power zero large)]
        · rw [if_neg large]
    | negSucc less =>
        simp only [numerator, denominator]
        by_cases small : digits.log2 + 1076 ≤ 3 * (less + 1)
        · rw [if_pos small, nearest_vanishing digits less small]
        · rw [if_neg small]

theorem same_fraction (negative : Bool) (a b : Decimal)
    (same : a.numerator * b.denominator = b.numerator * a.denominator) :
    a.toBinary64 negative = b.toBinary64 negative := by
  rw [to_binary64_fraction, to_binary64_fraction, Binary64.round, Binary64.round,
    Binary64.nearest_fraction _ _ _ _ (denominator_positive a) (denominator_positive b) same]

theorem shifted_fraction (negative : Bool) (digits : Nat) (exponent : Int) :
    toBinary64 negative ⟨10 * digits, exponent⟩ = toBinary64 negative ⟨digits, exponent + 1⟩ := by
  apply same_fraction
  match exponent with
  | .ofNat power =>
      change 10 * digits * 10 ^ power * Binary64.unitsPerOne * 1 =
        digits * 10 ^ (power + 1) * Binary64.unitsPerOne * 1
      rw [Nat.pow_succ, Nat.mul_comm 10 digits, Nat.mul_assoc digits 10, Nat.mul_comm 10]
  | .negSucc 0 =>
      change 10 * digits * Binary64.unitsPerOne * 1 = digits * 10 ^ 0 * Binary64.unitsPerOne * 10 ^ 1
      rw [Nat.pow_zero, Nat.mul_one, Nat.mul_one, Nat.pow_one, Nat.mul_assoc, Nat.mul_comm 10]
  | .negSucc (less + 1) =>
      change 10 * digits * Binary64.unitsPerOne * 10 ^ (less + 1) =
        digits * Binary64.unitsPerOne * 10 ^ (less + 1 + 1)
      rw [Nat.pow_succ 10 (less + 1), Nat.mul_assoc 10, Nat.mul_assoc 10, Nat.mul_comm 10, Nat.mul_assoc]

theorem zero_value (negative : Bool) (exponent : Int) :
    toBinary64 negative ⟨0, exponent⟩ = Binary64.ofRank negative 0 := by
  rw [toBinary64, nearestRank, if_pos rfl]

theorem normalize_value (negative : Bool) (d : Decimal) :
    d.normalize.toBinary64 negative = d.toBinary64 negative := by
  obtain ⟨digits, exponent⟩ := d
  rw [normalize]
  fun_induction normalize.go digits exponent with
  | case1 exponent => rw [zero_value, zero_value]
  | case2 digits exponent nonzero trailing ih =>
      have split : digits = 10 * (digits / 10) := by omega
      rw [ih, ← shifted_fraction, ← split]
  | case3 digits exponent nonzero trailing => rfl

theorem first_hit (rank : Nat) (near far d : Decimal)
    (found : (if near.nearestRank = rank then some near
      else if far.nearestRank = rank then some far else none) = some d) :
    d.nearestRank = rank ∧ (d = near ∨ d = far) := by
  split at found
  · cases found
    exact ⟨by assumption, .inl rfl⟩
  · split at found
    · cases found
      exact ⟨by assumption, .inr rfl⟩
    · cases found

theorem neighbour_value (rank : Nat) (exponent : Int) (d : Decimal)
    (found : neighbour? rank exponent = some d) : d.nearestRank = rank ∧ d.exponent = exponent := by
  obtain ⟨reads, rfl | rfl⟩ := first_hit rank _ _ d found
  · exact ⟨reads, rfl⟩
  · exact ⟨reads, rfl⟩

-- Stated for any number of places: the powers themselves are too large to be computed.
theorem exact_fraction (units less : Nat) (places : Binary64.unitsPerOne = 2 ^ (less + 1)) :
    numerator ⟨units * 5 ^ (less + 1), .negSucc less⟩ * 1 =
      units * denominator ⟨units * 5 ^ (less + 1), .negSucc less⟩ := by
  simp only [numerator, denominator, places]
  rw [Nat.mul_one, Nat.mul_assoc, ← Nat.mul_pow]

theorem exact_value (negative : Bool) (rank : Nat) :
    (exact rank).toBinary64 negative = Binary64.ofRank negative rank := by
  have shape : exact rank = ⟨Binary64.units rank * 5 ^ (1073 + 1), .negSucc 1073⟩ := rfl
  have same := exact_fraction (Binary64.units rank) 1073 rfl
  rw [to_binary64_fraction, Binary64.round, shape,
    Binary64.nearest_fraction _ _ _ 1 (denominator_positive _) Nat.one_pos same,
    Binary64.nearest_units]

theorem shortest_value (negative : Bool) (rank : Nat) :
    (shortest rank).toBinary64 negative = Binary64.ofRank negative rank := by
  rw [shortest]
  by_cases zero : rank = 0
  · rw [if_pos zero, zero, zero_value]
  · rw [if_neg zero]
    dsimp only
    rw [normalize_value]
    cases found : (List.range 17).findSome? fun (more : Nat) =>
        neighbour? rank (leadingPower (Binary64.units rank) - more) with
    | none => exact exact_value negative rank
    | some d =>
        obtain ⟨more, _, hit⟩ := List.exists_of_findSome?_eq_some found
        rw [Option.getD_some, toBinary64, (neighbour_value rank _ d hit).1]

end Decimal

end Reckon
