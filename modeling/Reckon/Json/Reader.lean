import Reckon.Decimal.Numeral
import Reckon.Json.Basic

set_option autoImplicit false

namespace Reckon.Json

def isSpace (c : Char) : Bool := c == ' ' || c == '\n' || c == '\t' || c == '\r'

def skip (text : List Char) : List Char := text.dropWhile isSpace

def hexDigit? (c : Char) : Option Nat :=
  if c.isDigit then some (c.toNat - '0'.toNat)
  else if 'a' ≤ c ∧ c ≤ 'f' then some (c.toNat - 'a'.toNat + 10)
  else if 'A' ≤ c ∧ c ≤ 'F' then some (c.toNat - 'A'.toNat + 10)
  else none

def hexValue? (digits : List Char) : Option Nat :=
  digits.foldl (fun value c => value.bind fun n => (hexDigit? c).map (16 * n + ·)) (some 0)

def shortEscapes : List (Char × Char) :=
  [('"', '"'), ('\\', '\\'), ('/', '/'), ('b', '\x08'), ('f', '\x0c'), ('n', '\n'), ('r', '\r'),
    ('t', '\t')]

def unitChar? (unit : Nat) : Option Char :=
  if 0xD800 ≤ unit ∧ unit < 0xE000 then none else some (Char.ofNat unit)

def pairChar? (high low : Nat) : Option Char :=
  if 0xD800 ≤ high ∧ high < 0xDC00 ∧ 0xDC00 ≤ low ∧ low < 0xE000 then
    some (Char.ofNat (0x10000 + (high - 0xD800) * 0x400 + (low - 0xDC00)))
  else none

-- What was read so far is in `done`, in reverse.
def readChars? : List Char → List Char → Option (String × List Char)
  | [], _ => none
  | '"' :: rest, done => some (String.ofList done.reverse, rest)
  | '\\' :: 'u' :: a :: b :: c :: d :: rest, done =>
      match hexValue? [a, b, c, d] with
      | none => none
      | some unit =>
          match unitChar? unit with
          | some char => readChars? rest (char :: done)
          | none =>
              match rest with
              | '\\' :: 'u' :: e :: f :: g :: h :: rest =>
                  match (hexValue? [e, f, g, h]).bind (pairChar? unit) with
                  | some char => readChars? rest (char :: done)
                  | none => none
              | _ => none
  | '\\' :: letter :: rest, done =>
      match shortEscapes.lookup letter with
      | some char => readChars? rest (char :: done)
      | none => none
  | c :: rest, done => if c.toNat < 0x20 ∨ c = '\\' then none else readChars? rest (c :: done)

def isNumberChar (c : Char) : Bool :=
  c.isDigit || c == '-' || c == '+' || c == '.' || c == 'e' || c == 'E'

def hasSpareZero : List Char → Bool
  | '0' :: _ :: _ => true
  | _ => false

def unsigned? (negative : Bool) (text : List Char) : Option Json :=
  let whole := text.takeWhile Char.isDigit
  let float := (Decimal.ofChars? text).map fun d => .float (d.toBinary64 negative)
  if whole.isEmpty || hasSpareZero whole then none
  else match text.dropWhile Char.isDigit with
  | [] => some (.int (if negative then -(digitsValue whole : Int) else digitsValue whole))
  | '.' :: part => if (part.takeWhile Char.isDigit).isEmpty then none else float
  | _ => float

def number? : List Char → Option Json
  | '-' :: text => unsigned? true text
  | text => unsigned? false text

def scalar? (text : List Char) : Option (Json × List Char) :=
  match text with
  | 'n' :: 'u' :: 'l' :: 'l' :: rest => some (.null, rest)
  | 't' :: 'r' :: 'u' :: 'e' :: rest => some (.bool true, rest)
  | 'f' :: 'a' :: 'l' :: 's' :: 'e' :: rest => some (.bool false, rest)
  | _ => (number? (text.takeWhile isNumberChar)).map (·, text.dropWhile isNumberChar)

def memberName? (text : List Char) : Option (String × List Char) :=
  match skip text with
  | '"' :: chars =>
      match readChars? chars [] with
      | some (name, rest) =>
          match skip rest with
          | ':' :: rest => some (name, rest)
          | _ => none
      | none => none
  | _ => none

-- The length of the text bounds its nesting, so it is fuel enough.
mutual

def readValue : Nat → List Char → Option (Json × List Char)
  | 0, _ => none
  | fuel + 1, text =>
      match skip text with
      | '"' :: rest => (readChars? rest []).map fun (s, rest) => (.str s, rest)
      | '[' :: rest =>
          match skip rest with
          | ']' :: rest => some (.arr [], rest)
          | _ => readItems fuel rest []
      | '\x7b' :: rest =>
          match skip rest with
          | '\x7d' :: rest => some (.obj [], rest)
          | _ => readMembers fuel rest []
      | text => scalar? text

def readItems : Nat → List Char → List Json → Option (Json × List Char)
  | 0, _, _ => none
  | fuel + 1, text, done =>
      match readValue fuel text with
      | none => none
      | some (item, rest) =>
          match skip rest with
          | ',' :: rest => readItems fuel rest (item :: done)
          | ']' :: rest => some (.arr (item :: done).reverse, rest)
          | _ => none

def readMembers : Nat → List Char → List (String × Json) → Option (Json × List Char)
  | 0, _, _ => none
  | fuel + 1, text, done =>
      match memberName? text with
      | none => none
      | some (name, rest) =>
          match readValue fuel rest with
          | none => none
          | some (item, rest) =>
              match skip rest with
              | ',' :: rest => readMembers fuel rest ((name, item) :: done)
              | '\x7d' :: rest => some (.obj ((name, item) :: done).reverse, rest)
              | _ => none

end

def parse? (text : String) : Option Json :=
  let chars := text.toList
  match readValue (2 * chars.length + 2) chars with
  | some (value, rest) => if (skip rest).isEmpty then some value else none
  | none => none

end Reckon.Json
