import Reckon.Decimal.Shortest

set_option autoImplicit false

namespace Reckon

namespace Decimal

def positional (d : Decimal) : String :=
  match d.exponent with
  | .ofNat power => (d.digits * 10 ^ power).repr
  | .negSucc less =>
      let places := less + 1
      let part := (d.digits % 10 ^ places).repr
      (d.digits / 10 ^ places).repr ++ "." ++
        String.ofList (List.replicate (places - part.length) '0') ++ part

def firstPower (d : Decimal) : Int := d.exponent + d.digits.repr.length - 1

def scientific (width : Nat) (d : Decimal) : String :=
  let fraction := match d.digits.repr.toList with
    | first :: second :: more => String.ofList (first :: '.' :: second :: more)
    | short => String.ofList short
  let power := d.firstPower
  let size := power.natAbs.repr
  fraction ++ (if power < 0 then "e-" else "e+") ++
    String.ofList (List.replicate (width - size.length) '0') ++ size

end Decimal

structure Layout where
  -- The powers of ten of the first digit for which the number is written without exponent.
  plain : Int → Bool
  wholeSuffix : String
  exponentWidth : Nat
  nan : String
  infinity : String

namespace Layout

def magnitude (layout : Layout) (d : Decimal) : String :=
  if layout.plain d.firstPower then
    if d.exponent < 0 then d.positional else d.positional ++ layout.wholeSuffix
  else d.scientific layout.exponentWidth

def write (layout : Layout) : Binary64 → String
  | .nan => layout.nan
  | .infinite negative => signed negative layout.infinity
  | .finite negative rank => signed negative (layout.magnitude (Decimal.shortest rank))
where
  signed (negative : Bool) (text : String) : String := if negative then "-" ++ text else text

def result : Layout := ⟨fun _ => true, "", 0, "NaN", "inf"⟩

-- Log lines: positional from `0.0001` up to `10 ^ 16`, exponents of two digits at least.
def log : Layout := ⟨fun power => -4 ≤ power && power < 16, ".0", 2, "nan", "inf"⟩

-- JSON: positional from `0.00001` up to `10 ^ 16`, special values as null.
def json : Layout := ⟨fun power => -5 ≤ power && power < 16, ".0", 0, "null", "null"⟩

end Layout

/-- The text of a number as the calculator prints it. -/
def Binary64.format (value : Binary64) : String := Layout.result.write value

end Reckon
