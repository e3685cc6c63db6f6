import Reckon.Binary64.Round

set_option autoImplicit false

namespace Reckon

structure Decimal where
  digits : Nat
  exponent : Int
deriving DecidableEq

namespace Decimal

/-- The rank nearest to a decimal. Two bounds keep the powers small: ten to the 309 is past the
finite numbers, and a decimal below half a unit has rank zero. -/
def nearestRank (d : Decimal) : Nat :=
  if d.digits = 0 then 0
  else match d.exponent with
  | .ofNat power =>
      if 309 ≤ power then Binary64.overflowRank
      else Binary64.nearestRank (d.digits * 10 ^ power * Binary64.unitsPerOne) 1
  | .negSucc less =>
      if d.digits.log2 + 1076 ≤ 3 * (less + 1) then 0
      else Binary64.nearestRank (d.digits * Binary64.unitsPerOne) (10 ^ (less + 1))

def toBinary64 (negative : Bool) (d : Decimal) : Binary64 :=
  Binary64.ofRank negative d.nearestRank

def normalize (d : Decimal) : Decimal := go d.digits d.exponent
where
  go (digits : Nat) (exponent : Int) : Decimal :=
    if zero : digits = 0 then ⟨0, 0⟩
    else if digits % 10 = 0 then go (digits / 10) (exponent + 1)
    else ⟨digits, exponent⟩
  termination_by digits
  decreasing_by omega

end Decimal

def digitsValue (digits : List Char) : Nat :=
  digits.foldl (fun value c => 10 * value + (c.toNat - '0'.toNat)) 0

end Reckon
