import Reckon.Decimal.Basic
import Reckon.Text.Blank
import Reckon.Text.Digit

set_option autoImplicit false

namespace Reckon

namespace Decimal

def exponentOfChars? : List Char → Option Int
  | [] => some 0
  | mark :: rest =>
      if mark ≠ 'e' ∧ mark ≠ 'E' then none
      else
        let (negative, digits) : Bool × List Char := match rest with
          | '-' :: digits => (true, digits)
          | '+' :: digits => (false, digits)
          | _ => (false, rest)
        if digits.isEmpty || !digits.all Char.isDigit then none
        else some (if negative then -(digitsValue digits : Int) else digitsValue digits)

def ofChars? (text : List Char) : Option Decimal :=
  let whole := text.takeWhile Char.isDigit
  let (part, rest) : List Char × List Char := match text.dropWhile Char.isDigit with
    | '.' :: more => (more.takeWhile Char.isDigit, more.dropWhile Char.isDigit)
    | rest => ([], rest)
  if whole.isEmpty && part.isEmpty then none
  else (exponentOfChars? rest).map fun exponent =>
    ⟨digitsValue (whole ++ part), exponent - part.length⟩

end Decimal

namespace Numeral

def unsigned? (negative : Bool) (text : List Char) : Option Binary64 :=
  let lower := text.map Char.toLower
  if lower = ['i', 'n', 'f'] ∨ lower = ['i', 'n', 'f', 'i', 'n', 'i', 't', 'y'] then
    some (.infinite negative)
  else if lower = ['n', 'a', 'n'] then some .nan
  else (Decimal.ofChars? text).map (Decimal.toBinary64 negative)

def ofChars? : List Char → Option Binary64
  | '-' :: text => unsigned? true text
  | '+' :: text => unsigned? false text
  | text => unsigned? false text

-- Drops underscores that stand between two digits; others make the numeral invalid.
def joinDigits? : List Char → Option (List Char)
  | [] => some []
  | '_' :: _ => none
  | c :: '_' :: d :: rest =>
      if c.isDigit && d.isDigit then (joinDigits? (d :: rest)).map (c :: ·) else none
  | c :: rest => (joinDigits? rest).map (c :: ·)

def asciiDigit (c : Char) : Char :=
  match Text.digitValue? c with
  | some value => Char.ofNat ('0'.toNat + value)
  | none => c

def read? (text : String) : Option Binary64 :=
  (joinDigits? (Text.trimBy Text.isSpace text.toList |>.map asciiDigit)).bind ofChars?

-- Reads a numeral with white space around it. Failing that, the text may hold single underscores
-- anywhere but at its ends, and then no white space.
def readLoose? (text : String) : Option Binary64 :=
  match ofChars? (Text.trimBy Text.isSpace text.toList) with
  | some value => some value
  | none =>
      let chars := text.toList
      if chars.head? = some '_' ∨ chars.getLast? = some '_' ∨ hasDouble chars then none
      else ofChars? (chars.filter (· ≠ '_'))
where
  hasDouble : List Char → Bool
    | '_' :: '_' :: _ => true
    | _ :: rest => hasDouble rest
    | [] => false

end Numeral

end Reckon
