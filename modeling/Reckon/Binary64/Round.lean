import Reckon.Binary64.Basic

set_option autoImplicit false

namespace Reckon.Binary64

/-- The rank nearest to `num / den` units; a tie goes to the even rank. The quotient is cut to 53
significant bits, and a carry out of them is the step to the next rank, so the ranks run on
without a special case at a power of two. -/
def nearestRank (num den : Nat) : Nat :=
  let shift := (num / den).log2 - 52
  let step := den * 2 ^ shift
  let low := num / step
  let twice := 2 * (num % step)
  if step < twice ∨ (twice = step ∧ low % 2 = 1) then shift * 2 ^ 52 + low + 1
  else shift * 2 ^ 52 + low

def round (negative : Bool) (num den : Nat) : Binary64 :=
  ofRank negative (nearestRank num den)

end Reckon.Binary64
