import Reckon.Proofs.Evaluation
import Reckon.Proofs.SourceRoundTrip
import Reckon.Proofs.WholeNumbers

set_option autoImplicit false

namespace Reckon

namespace Binary64

-- The integer that a number is, if it is one; both zeros are.
def integer? : Binary64 → Option Int
  | .finite negative rank =>
      if units rank % unitsPerOne = 0 then some (signedUnits negative rank / unitsPerOne) else none
  | _ => none

-- The sign that a number has if it is the integer; zero has both.
def Signed : Bool → Int → Prop
  | true, n => n ≤ 0
  | false, n => 0 ≤ n

theorem signed_zero (negative : Bool) : Signed negative 0 := by
  cases negative <;> exact Int.le_refl 0

theorem signed_units_size (negative : Bool) (rank : Nat) : (signedUnits negative rank).natAbs = units rank := by
  cases negative <;> simp [signedUnits]

theorem units_per_one_above : (0 : Int) < unitsPerOne := Int.natCast_pos.mpr units_per_one_positive

theorem signed_units_whole (negative : Bool) (rank : Nat) (n : Int) :
    signedUnits negative rank = n * unitsPerOne ↔
      units rank = n.natAbs * unitsPerOne ∧ Signed negative n := by
  constructor
  · intro same
    have size := signed_units_size negative rank
    rw [same, Int.natAbs_mul, Int.natAbs_natCast] at size
    refine ⟨size.symm, ?_⟩
    cases negative with
    | true =>
        refine Int.not_lt.mp (fun above => ?_)
        have positive := Int.mul_pos above units_per_one_above
        rw [← same, signedUnits, if_pos rfl] at positive
        omega
    | false =>
        refine Int.not_lt.mp (fun below => ?_)
        have negative := Int.mul_neg_of_neg_of_pos below units_per_one_above
        rw [← same, signedUnits, if_neg Bool.false_ne_true] at negative
        omega
  · rintro ⟨magnitude, sign⟩
    rw [signedUnits, magnitude, Int.natCast_mul]
    cases negative with
    | true => rw [if_pos rfl, ← Int.neg_mul, Int.ofNat_natAbs_of_nonpos sign, Int.neg_neg]
    | false => rw [if_neg Bool.false_ne_true, Int.natAbs_of_nonneg sign]

theorem integer_iff (value : Binary64) (n : Int) :
    value.integer? = some n ↔ ∃ negative rank, value = .finite negative rank ∧
      signedUnits negative rank = n * unitsPerOne := by
  have nonzero : (unitsPerOne : Int) ≠ 0 := Int.natCast_ne_zero.mpr (Nat.ne_of_gt units_per_one_positive)
  cases value with
  | nan => exact iff_of_false (fun found => by cases found) (fun ⟨_, _, same, _⟩ => by cases same)
  | infinite negative => exact iff_of_false (fun found => by cases found) (fun ⟨_, _, same, _⟩ => by cases same)
  | finite negative rank =>
      rw [integer?]
      constructor
      · intro found
        split at found
        · rename_i whole
          refine ⟨negative, rank, rfl, ?_⟩
          have divides : (unitsPerOne : Int) ∣ signedUnits negative rank := by
            rw [← Int.natAbs_dvd_natAbs, signed_units_size, Int.natAbs_natCast]
            exact Nat.dvd_of_mod_eq_zero whole
          rw [← Option.some.inj found, Int.ediv_mul_cancel divides]
        · cases found
      · rintro ⟨_, _, same, whole⟩
        cases same
        have magnitude := ((signed_units_whole negative rank n).mp whole).1
        rw [magnitude, Nat.mul_mod_left, if_pos rfl, whole, Int.mul_ediv_cancel n nonzero]

-- Rounding keeps an integer that is small enough, whatever sign a zero is given.
theorem round_integer (negative : Bool) (n : Int) (small : n.natAbs ≤ 2 ^ 53) (sign : Signed negative n) :
    (round negative (n.natAbs * unitsPerOne) 1).integer? = some n := by
  obtain ⟨rank, rounded, whole⟩ := round_whole negative n.natAbs small
  rw [integer_iff]
  exact ⟨negative, rank, rounded, (signed_units_whole negative rank n).mpr ⟨whole, sign⟩⟩

theorem neg_integer (x : Binary64) (n : Int) (exactly : x.integer? = some n) : x.neg.integer? = some (-n) := by
  obtain ⟨negative, rank, rfl, whole⟩ := (integer_iff x n).mp exactly
  refine (integer_iff _ _).mpr ⟨!negative, rank, rfl, ?_⟩
  have flipped : signedUnits (!negative) rank = -signedUnits negative rank := by
    cases negative <;> simp [signedUnits]
  rw [flipped, whole, Int.neg_mul]

theorem add_integer (x y : Binary64) (m n : Int) (left : x.integer? = some m) (right : y.integer? = some n)
    (small : (m + n).natAbs ≤ 2 ^ 53) : (add x y).integer? = some (m + n) := by
  obtain ⟨a, i, rfl, leftWhole⟩ := (integer_iff x m).mp left
  obtain ⟨b, j, rfl, rightWhole⟩ := (integer_iff y n).mp right
  have sum : signedUnits a i + signedUnits b j = (m + n) * unitsPerOne := by
    rw [leftWhole, rightWhole, Int.add_mul]
  simp only [add, sum, Int.natAbs_mul, Int.natAbs_natCast]
  apply round_integer _ _ small
  rcases Int.lt_trichotomy (m + n) 0 with below | zero | above
  · have negative := Int.mul_neg_of_neg_of_pos below units_per_one_above
    rw [if_neg (Int.ne_of_lt negative), decide_eq_true negative]
    exact Int.le_of_lt below
  · rw [zero, Int.zero_mul, if_pos rfl]
    exact signed_zero (a && b)
  · have positive := Int.mul_pos above units_per_one_above
    rw [if_neg (Int.ne_of_gt positive), decide_eq_false (Int.not_lt.mpr (Int.le_of_lt positive))]
    exact Int.le_of_lt above

theorem sub_integer (x y : Binary64) (m n : Int) (left : x.integer? = some m) (right : y.integer? = some n)
    (small : (m - n).natAbs ≤ 2 ^ 53) : (sub x y).integer? = some (m - n) := by
  rw [Int.sub_eq_add_neg] at small ⊢
  exact add_integer x y.neg m (-n) left (neg_integer y n right) small

theorem signed_mul (a b : Bool) (m n : Int) (left : Signed a m) (right : Signed b n) :
    Signed (a ^^ b) (m * n) := by
  cases a with
  | true =>
      cases b with
      | true => exact Int.mul_nonneg_of_nonpos_of_nonpos left right
      | false => exact Int.mul_nonpos_of_nonpos_of_nonneg left right
  | false =>
      cases b with
      | true => exact Int.mul_nonpos_of_nonneg_of_nonpos left right
      | false => exact Int.mul_nonneg left right

theorem mul_integer (x y : Binary64) (m n : Int) (left : x.integer? = some m) (right : y.integer? = some n)
    (small : (m * n).natAbs ≤ 2 ^ 53) : (mul x y).integer? = some (m * n) := by
  obtain ⟨a, i, rfl, leftWhole⟩ := (integer_iff x m).mp left
  obtain ⟨b, j, rfl, rightWhole⟩ := (integer_iff y n).mp right
  obtain ⟨leftUnits, leftSign⟩ := (signed_units_whole a i m).mp leftWhole
  obtain ⟨rightUnits, rightSign⟩ := (signed_units_whole b j n).mp rightWhole
  have product : units i * units j = unitsPerOne * ((m * n).natAbs * unitsPerOne) := by
    rw [leftUnits, rightUnits, Int.natAbs_mul, Nat.mul_comm m.natAbs, Nat.mul_assoc, Nat.mul_assoc]
  have scaled := nearest_scaled unitsPerOne ((m * n).natAbs * unitsPerOne) 1 units_per_one_positive
  rw [Nat.mul_one] at scaled
  have exactly := round_integer (a ^^ b) (m * n) small (signed_mul a b m n leftSign rightSign)
  rw [round, ← scaled, ← product] at exactly
  exact exactly

theorem signed_tmod (negative : Bool) (m n : Int) (sign : Signed negative m) : Signed negative (m.tmod n) := by
  cases negative with
  | true =>
      have flipped := Int.tmod_nonneg n (Int.neg_nonneg_of_nonpos sign)
      rw [Int.neg_tmod] at flipped
      exact Int.nonpos_of_neg_nonneg flipped
  | false => exact Int.tmod_nonneg n sign

theorem rem_integer (x y : Binary64) (m n : Int) (left : x.integer? = some m) (right : y.integer? = some n)
    (nonzero : n ≠ 0) (small : (m.tmod n).natAbs ≤ 2 ^ 53) : (rem x y).integer? = some (m.tmod n) := by
  obtain ⟨a, i, rfl, leftWhole⟩ := (integer_iff x m).mp left
  obtain ⟨b, j, rfl, rightWhole⟩ := (integer_iff y n).mp right
  obtain ⟨leftUnits, leftSign⟩ := (signed_units_whole a i m).mp leftWhole
  obtain ⟨rightUnits, _⟩ := (signed_units_whole b j n).mp rightWhole
  have divisor : j.val ≠ 0 := by
    intro zero
    rw [zero, units, if_pos (by decide)] at rightUnits
    rcases Nat.mul_eq_zero.mp rightUnits.symm with none | none
    · exact nonzero (Int.natAbs_eq_zero.mp none)
    · exact Nat.ne_of_gt units_per_one_positive none
  have remainder : units i % units j = (m.tmod n).natAbs * unitsPerOne := by
    rw [leftUnits, rightUnits, Nat.mul_mod_mul_right, Int.natAbs_tmod]
  rw [rem, if_neg divisor, remainder]
  exact round_integer a (m.tmod n) small (signed_tmod a m n leftSign)

theorem format_integer (value : Binary64) (n : Int) (exactly : value.integer? = some n)
    (small : n.natAbs ≤ 2 ^ 53) :
    value.format = if n = 0 ∧ value.isNegative then "-0" else n.repr := by
  obtain ⟨negative, rank, rfl, whole⟩ := (integer_iff value n).mp exactly
  obtain ⟨magnitude, sign⟩ := (signed_units_whole negative rank n).mp whole
  rw [format_magnitude, Decimal.positional_whole n.natAbs rank small magnitude, isNegative]
  cases negative with
  | true =>
      have below : n ≤ 0 := sign
      by_cases zero : n = 0
      · rw [if_pos rfl, if_pos ⟨zero, rfl⟩, zero]
        rfl
      · rw [if_pos rfl, if_neg (by simp [zero]), Int.repr_eq_if, if_neg (by omega)]
        congr 2
        omega
  | false =>
      have above : 0 ≤ n := sign
      rw [if_neg Bool.false_ne_true, if_neg (by simp), Int.repr_eq_if, if_pos above]
      congr 1
      omega

end Binary64

namespace Operator

-- The exact result of an operator; there is none for a quotient, nor if a divisor is zero.
def integers? : Operator → Int → Int → Option Int
  | .add, m, n => some (m + n)
  | .sub, m, n => some (m - n)
  | .mul, m, n => some (m * n)
  | .div, _, _ => none
  | .mod, m, n => if n = 0 then none else some (m.tmod n)

theorem apply_integers (op : Operator) (x y : Binary64) (m n k : Int) (left : x.integer? = some m)
    (right : y.integer? = some n) (result : op.integers? m n = some k) (small : k.natAbs ≤ 2 ^ 53) :
    (Arithmetic.ieee.apply op x y).integer? = some k := by
  cases op with
  | add =>
      cases result
      exact Binary64.add_integer x y m n left right small
  | sub =>
      cases result
      exact Binary64.sub_integer x y m n left right small
  | mul =>
      cases result
      exact Binary64.mul_integer x y m n left right small
  | div => cases result
  | mod =>
      rw [integers?] at result
      split at result
      · cases result
      · rename_i nonzero
        cases result
        exact Binary64.rem_integer x y m n left right nonzero small

end Operator

namespace Expr

-- The exact value of a tree of integers.
def integer? : Expr → Option Int
  | .literal value => value.integer?
  | .unary .plus operand => operand.integer?
  | .unary .minus operand => operand.integer?.map (- ·)
  | .binary op left right =>
      left.integer?.bind fun m => right.integer?.bind fun n => op.integers? m n

def subtrees : Expr → List Expr
  | .literal value => [.literal value]
  | .unary sign operand => .unary sign operand :: operand.subtrees
  | .binary op left right => .binary op left right :: (left.subtrees ++ right.subtrees)

theorem self_subtree (tree : Expr) : tree ∈ tree.subtrees := by
  cases tree <;> simp [subtrees]

-- Every part of the tree is an integer of at most this size.
def IntegersWithin (bound : Nat) (tree : Expr) : Prop :=
  ∀ part ∈ tree.subtrees, ∃ n, part.integer? = some n ∧ n.natAbs ≤ bound

theorem value_integer (tree : Expr) (small : tree.IntegersWithin (2 ^ 53)) (n : Int)
    (exactly : tree.integer? = some n) : (tree.value .ieee).integer? = some n := by
  induction tree generalizing n with
  | literal value => exact exactly
  | unary sign operand ih =>
      have within : operand.IntegersWithin (2 ^ 53) := fun part member =>
        small part (List.mem_cons_of_mem _ member)
      cases sign with
      | plus => exact ih within n exactly
      | minus =>
          obtain ⟨k, operandExactly, rfl⟩ := Option.map_eq_some_iff.mp exactly
          exact Binary64.neg_integer _ k (ih within k operandExactly)
  | binary op left right ihLeft ihRight =>
      have leftWithin : left.IntegersWithin (2 ^ 53) := fun part member =>
        small part (List.mem_cons_of_mem _ (List.mem_append_left _ member))
      have rightWithin : right.IntegersWithin (2 ^ 53) := fun part member =>
        small part (List.mem_cons_of_mem _ (List.mem_append_right _ member))
      obtain ⟨m, leftExactly, rest⟩ := Option.bind_eq_some_iff.mp exactly
      obtain ⟨k, rightExactly, result⟩ := Option.bind_eq_some_iff.mp rest
      obtain ⟨own, same, bound⟩ := small _ (self_subtree _)
      rw [exactly] at same
      cases same
      exact op.apply_integers _ _ m k n (ihLeft leftWithin m leftExactly) (ihRight rightWithin k rightExactly)
        result bound

end Expr

theorem integer_text_value (chars : List Char) (d : Decimal) (number : NumberText .integer chars d)
    (small : digitsValue chars ≤ 2 ^ 53) : (d.toBinary64 false).integer? = some (digitsValue chars) := by
  cases number with
  | integer nonempty digits =>
      have exactly := Binary64.round_integer false (digitsValue chars) small (Int.natCast_nonneg _)
      have fraction := Decimal.to_binary64_fraction false ⟨digitsValue chars, .ofNat 0⟩
      simp only [Decimal.numerator, Decimal.denominator, Nat.pow_zero, Nat.mul_one] at fraction
      rw [Int.natAbs_natCast, ← fraction] at exactly
      exact exactly

open Parse (parse)

-- Only the sign of a zero shows that the numbers are not integers.
theorem integers_exact (source : String) (tree : Expr) (parsed : parse source = .ok tree)
    (small : tree.IntegersWithin (2 ^ 53)) :
    (∀ token ∈ Token.scan source, token.kind = .integer → digitsValue token.text.toList ≤ 2 ^ 53 →
      ∃ value ∈ tree.literals, Numeral.read? token.text = some value ∧
        value.integer? = some (digitsValue token.text.toList)) ∧
    ∃ n value, tree.integer? = some n ∧ evaluate source = .ok value ∧ value.integer? = some n ∧
      value.format = if n = 0 ∧ value.isNegative then "-0" else n.repr := by
  refine ⟨fun token member kind bound => ?_, ?_⟩
  · have literal : token.isLiteral := by simp [Token.isLiteral, kind]
    obtain ⟨d, number, reads⟩ := Token.scan_number source token member literal
    rw [kind] at number
    exact ⟨_, (Parse.parsed_literals source tree parsed _).mpr ⟨token, member, literal, reads⟩, reads,
      integer_text_value _ d number bound⟩
  · obtain ⟨n, exactly, bound⟩ := small tree tree.self_subtree
    have value := tree.value_integer small n exactly
    exact ⟨n, _, exactly, evaluate_parsed source tree parsed, value, Binary64.format_integer _ n value bound⟩

-- A remainder of zero has the sign of the dividend, and the last sum is the largest that is exact.
theorem integers_exact_at_bounds :
    (∃ value, evaluate "-6%3" = .ok value ∧ value.format = "-0") ∧
    ∃ value, evaluate "9007199254740991+1" = .ok value ∧ value.format = "9007199254740992" := by
  have six := Parse.renders_number _ _ _ (repr_number 6)
  have three := Parse.renders_number _ _ _ (repr_number 3)
  have large := Parse.renders_number _ _ _ (repr_number 9007199254740991)
  have one := Parse.renders_number _ _ _ (repr_number 1)
  have remainder := Parse.renders_joined .multiplicative .mod _ _ _ _ _ _ (by decide)
    (Parse.renders_widen .unary .multiplicative _ _ _ (by decide) (Parse.renders_sign .minus _ _ _ six)) three
  have sum := Parse.renders_joined .additive .add _ _ _ _ _ _ (by decide)
    (Parse.renders_widen .unary .additive _ _ _ (by decide) large)
    (Parse.renders_widen .unary .multiplicative _ _ _ (by decide) one)
  have remainderParsed := Parse.parse_renders "-6%3" _ _
    (Parse.renders_widen .multiplicative .additive _ _ _ (by decide) remainder) (by decide)
  have sumParsed := Parse.parse_renders "9007199254740991+1" _ _ sum (by decide)
  obtain ⟨_, n, value, exactly, evaluated, _, format⟩ := integers_exact _ _ remainderParsed (by
    intro part member
    simp only [Expr.subtrees, List.cons_append, List.nil_append, List.mem_cons, List.not_mem_nil,
      or_false] at member
    rcases member with rfl | rfl | rfl | rfl
    · exact ⟨0, by decide +kernel, by decide⟩
    · exact ⟨-6, by decide +kernel, by decide⟩
    · exact ⟨6, by decide +kernel, by decide⟩
    · exact ⟨3, by decide +kernel, by decide⟩)
  obtain ⟨_, k, last, lastExactly, lastEvaluated, _, lastFormat⟩ := integers_exact _ _ sumParsed (by
    intro part member
    simp only [Expr.subtrees, List.cons_append, List.nil_append, List.mem_cons, List.not_mem_nil,
      or_false] at member
    rcases member with rfl | rfl | rfl
    · exact ⟨9007199254740992, by decide +kernel, by decide⟩
    · exact ⟨9007199254740991, by decide +kernel, by decide⟩
    · exact ⟨1, by decide +kernel, by decide⟩)
  have zero : n = 0 := Option.some.inj (exactly.symm.trans (by decide +kernel))
  have negative : value.isNegative = true := by
    rw [Except.ok.inj (evaluated.symm.trans (evaluate_parsed _ _ remainderParsed))]
    decide +kernel
  have bound : k = 9007199254740992 := Option.some.inj (lastExactly.symm.trans (by decide +kernel))
  rw [if_pos ⟨zero, negative⟩] at format
  rw [bound, if_neg (fun zeroes => absurd zeroes.1 (by decide))] at lastFormat
  exact ⟨⟨value, evaluated, format⟩, last, lastEvaluated, lastFormat.trans (by decide +kernel)⟩

end Reckon
