import Reckon.Text.Printable

set_option autoImplicit false

namespace Reckon.Text

def hex (size value : Nat) : List Char :=
  let digits := Nat.toDigits 16 value
  List.replicate (size - digits.length) '0' ++ digits

def escapeChar (quote c : Char) : List Char :=
  if c = '\\' ∨ c = quote then ['\\', c]
  else if c = '\n' then ['\\', 'n']
  else if c = '\r' then ['\\', 'r']
  else if c = '\t' then ['\\', 't']
  else if isPrintable c then [c]
  else if c.toNat < 0x100 then '\\' :: 'x' :: hex 2 c.toNat
  else if c.toNat < 0x10000 then '\\' :: 'u' :: hex 4 c.toNat
  else '\\' :: 'U' :: hex 8 c.toNat

def quoted (text : String) : String :=
  let chars := text.toList
  let quote := if chars.contains '\'' && !chars.contains '"' then '"' else '\''
  String.ofList (quote :: (chars.flatMap (escapeChar quote) ++ [quote]))

end Reckon.Text
