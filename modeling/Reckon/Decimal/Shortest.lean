import Reckon.Decimal.Basic

set_option autoImplicit false

namespace Reckon.Decimal

-- The factor makes every positive number of units at least one.
def leadingPower (units : Nat) : Int :=
  ((units * 10 ^ 400 / Binary64.unitsPerOne).repr.length : Int) - 401

def scaled (units : Nat) : Int → Nat × Nat
  | .ofNat power => (units, Binary64.unitsPerOne * 10 ^ power)
  | .negSucc less => (units * 10 ^ (less + 1), Binary64.unitsPerOne)

-- Of the two decimals around the number the nearer one that reads back.
def neighbour? (rank : Nat) (exponent : Int) : Option Decimal :=
  let (num, den) := scaled (Binary64.units rank) exponent
  let low := num / den
  let twice := 2 * (num % den)
  let lowFirst := twice < den ∨ (twice = den ∧ low % 2 = 0)
  let near : Decimal := ⟨if lowFirst then low else low + 1, exponent⟩
  let far : Decimal := ⟨if lowFirst then low + 1 else low, exponent⟩
  if near.nearestRank = rank then some near
  else if far.nearestRank = rank then some far
  else none

-- All the digits of a rank; `2 ^ (-1074)` has that many places.
def exact (rank : Nat) : Decimal := ⟨Binary64.units rank * 5 ^ 1074, -1074⟩

-- Seventeen digits always suffice; should none be found, the exact expansion reads back too.
def shortest (rank : Nat) : Decimal :=
  if rank = 0 then ⟨0, 0⟩
  else
    let power := leadingPower (Binary64.units rank)
    let found := (List.range 17).findSome? fun (more : Nat) => neighbour? rank (power - more)
    normalize (found.getD (exact rank))

end Reckon.Decimal
