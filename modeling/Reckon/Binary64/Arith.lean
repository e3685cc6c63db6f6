import Reckon.Binary64.Round

set_option autoImplicit false

namespace Reckon.Binary64

def signedUnits (negative : Bool) (rank : Nat) : Int :=
  if negative then -(units rank : Int) else units rank

def neg : Binary64 → Binary64
  | .nan => .nan
  | .infinite negative => .infinite (!negative)
  | .finite negative rank => .finite (!negative) rank

-- A sum of exactly zero is negative only if both operands are.
def add : Binary64 → Binary64 → Binary64
  | .nan, _ | _, .nan => .nan
  | .infinite a, .infinite b => if a = b then .infinite a else .nan
  | .infinite a, .finite .. => .infinite a
  | .finite .., .infinite b => .infinite b
  | .finite a m, .finite b n =>
      let sum := signedUnits a m + signedUnits b n
      round (if sum = 0 then a && b else sum < 0) sum.natAbs 1

def sub (x y : Binary64) : Binary64 := add x (neg y)

def mul : Binary64 → Binary64 → Binary64
  | .nan, _ | _, .nan => .nan
  | .infinite a, .infinite b => .infinite (a ^^ b)
  | .infinite a, .finite b n => if n.val = 0 then .nan else .infinite (a ^^ b)
  | .finite a m, .infinite b => if m.val = 0 then .nan else .infinite (a ^^ b)
  | .finite a m, .finite b n => round (a ^^ b) (units m * units n) unitsPerOne

def div : Binary64 → Binary64 → Binary64
  | .nan, _ | _, .nan => .nan
  | .infinite _, .infinite _ => .nan
  | .infinite a, .finite b _ => .infinite (a ^^ b)
  | .finite a _, .infinite b => ofRank (a ^^ b) 0
  | .finite a m, .finite b n =>
      if n.val = 0 then if m.val = 0 then .nan else .infinite (a ^^ b)
      else round (a ^^ b) (units m * unitsPerOne) (units n)

-- The remainder of division toward zero: it has the sign of the dividend, and it is exact.
def rem : Binary64 → Binary64 → Binary64
  | .nan, _ | _, .nan => .nan
  | .infinite _, _ => .nan
  | .finite a m, .infinite _ => .finite a m
  | .finite a m, .finite _ n =>
      if n.val = 0 then .nan else round a (units m % units n) 1

end Reckon.Binary64
