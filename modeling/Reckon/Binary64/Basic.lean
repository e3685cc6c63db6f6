set_option autoImplicit false

namespace Reckon

-- Powers of natural numbers are those of `Nat.pow`, whatever monoids are in scope.
@[default_instance 20000]
instance (priority := 2000) natPow : Pow Nat Nat := instPowNat

-- All NaNs are one value, and a finite number is its sign with the rank of its magnitude among all
-- finite magnitudes. Equality is therefore equality of bits.
inductive Binary64 where
  | nan
  | infinite (negative : Bool)
  | finite (negative : Bool) (rank : Fin (2047 * 2 ^ 52))
deriving DecidableEq

namespace Binary64

def overflowRank : Nat := 2047 * 2 ^ 52

def ofRank (negative : Bool) (rank : Nat) : Binary64 :=
  if bound : rank < 2047 * 2 ^ 52 then .finite negative ⟨rank, bound⟩ else .infinite negative

def zero : Binary64 := .finite false ⟨0, by decide⟩

-- The magnitude of a rank, counted in units of the least positive number, `2 ^ (-1074)`.
def units (rank : Nat) : Nat :=
  if rank < 2 ^ 52 then rank else (2 ^ 52 + rank % 2 ^ 52) * 2 ^ (rank / 2 ^ 52 - 1)

def unitsPerOne : Nat := 2 ^ 1074

def isFinite : Binary64 → Bool
  | .finite .. => true
  | _ => false

-- Equality of numeric values: NaN differs from itself and the two zeros are equal.
def numericEq : Binary64 → Binary64 → Bool
  | .infinite a, .infinite b => a == b
  | .finite a m, .finite b n => m == n && (a == b || m.val == 0)
  | _, _ => false

-- The one NaN is given its usual quiet pattern.
def toBits : Binary64 → UInt64
  | .nan => 0x7FF8000000000000
  | .infinite negative => signBit negative + UInt64.ofNat overflowRank
  | .finite negative rank => signBit negative + UInt64.ofNat rank.val
where
  signBit (negative : Bool) : UInt64 := if negative then 0x8000000000000000 else 0

def ofBits (bits : UInt64) : Binary64 :=
  let magnitude := bits.toNat % 2 ^ 63
  if magnitude > overflowRank then .nan else ofRank (2 ^ 63 ≤ bits.toNat) magnitude

end Binary64

end Reckon
