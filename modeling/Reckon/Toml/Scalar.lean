import Reckon.Decimal.Numeral
import Reckon.Json.Reader
import Reckon.Toml.Basic

set_option autoImplicit false

namespace Reckon.Toml

def maxDigits : Nat := 4300

def digitGroup (digit : Char → Bool) : List Char → List Char × List Char
  | '_' :: d :: rest =>
      if digit d then
        let (run, after) := digitGroup digit rest
        (d :: run, after)
      else ([], '_' :: d :: rest)
  | d :: rest =>
      if digit d then
        let (run, after) := digitGroup digit rest
        (d :: run, after)
      else ([], d :: rest)
  | [] => ([], [])

def digits? (digit : Char → Bool) (text : List Char) : Option (List Char × List Char) :=
  match text with
  | d :: _ => if digit d then some (digitGroup digit text) else none
  | [] => none

def valueInBase (base : Nat) (digits : List Char) : Nat :=
  digits.foldl (fun value c => base * value + (Json.hexDigit? c).getD 0) 0

def prefixed? : List Char → Option (Nat × List Char)
  | mark :: rest =>
      let read base digit := (digits? digit rest).map fun (digits, rest) =>
        (valueInBase base digits, rest)
      if mark = 'x' then read 16 fun c => (Json.hexDigit? c).isSome
      else if mark = 'o' then read 8 fun c => '0' ≤ c && c ≤ '7'
      else if mark = 'b' then read 2 fun c => c = '0' || c = '1'
      else none
  | [] => none

-- The digits of a decimal number before its point: a single zero, or none in front.
def wholePart? : List Char → Option (List Char × List Char)
  | '0' :: rest => some (['0'], rest)
  | text => digits? Char.isDigit text

def fractionPart (text : List Char) : List Char × List Char :=
  match text with
  | '.' :: rest =>
      match digits? Char.isDigit rest with
      | some (digits, after) => ('.' :: digits, after)
      | none => ([], text)
  | _ => ([], text)

def exponentPart (text : List Char) : List Char × List Char :=
  match text with
  | mark :: rest =>
      if mark = 'e' ∨ mark = 'E' then
        let (sign, rest) : List Char × List Char := match rest with
          | '+' :: rest => (['+'], rest)
          | '-' :: rest => (['-'], rest)
          | _ => ([], rest)
        match digits? Char.isDigit rest with
        | some (digits, after) => (mark :: sign ++ digits, after)
        | none => ([], text)
      else ([], text)
  | [] => ([], [])

def decimal? (negative : Bool) (text : List Char) : Option (Read Value) :=
  match wholePart? text with
  | none => none
  | some (whole, rest) =>
      let (fraction, rest) := fractionPart rest
      let (exponent, rest) := exponentPart rest
      if fraction.isEmpty && exponent.isEmpty then
        if maxDigits < whole.length then some (.error (.oversized whole.length))
        else
          let value := digitsValue whole
          some (.ok (.int (if negative then -(value : Int) else value), rest))
      else
        (Numeral.unsigned? negative (whole ++ fraction ++ exponent)).map fun value =>
          .ok (.float value, rest)

def number? (text : List Char) : Option (Read Value) :=
  match text with
  | '-' :: rest => decimal? true rest
  | '+' :: rest => decimal? false rest
  | '0' :: rest =>
      match prefixed? rest with
      | some (value, rest) => some (.ok (.int value, rest))
      | none => decimal? false text
  | _ => decimal? false text

def special? (text : List Char) : Option (Value × List Char) :=
  let read negative : List Char → Option (Value × List Char)
    | 'i' :: 'n' :: 'f' :: rest => some (.float (.infinite negative), rest)
    | 'n' :: 'a' :: 'n' :: rest => some (.float .nan, rest)
    | _ => none
  match text with
  | '-' :: rest => read true rest
  | '+' :: rest => read false rest
  | _ => read false text

def fixedDigits? (size : Nat) (text : List Char) : Option (Nat × List Char) :=
  let digits := text.take size
  if digits.length = size ∧ digits.all Char.isDigit then some (digitsValue digits, text.drop size)
  else none

def after? (c : Char) : List Char → Option (List Char)
  | d :: rest => if c = d then some rest else none
  | [] => none

def twoDigits? (least most : Nat) (text : List Char) : Option (Nat × List Char) :=
  match fixedDigits? 2 text with
  | some (value, rest) => if least ≤ value ∧ value ≤ most then some (value, rest) else none
  | none => none

-- Digits below a microsecond are dropped.
def microseconds (text : List Char) : Nat × List Char :=
  match text with
  | '.' :: rest =>
      let digits := rest.takeWhile Char.isDigit
      if digits.isEmpty then (0, text)
      else
        let six := digits.take 6
        (digitsValue six * 10 ^ (6 - six.length), rest.dropWhile Char.isDigit)
  | _ => (0, text)

def time? (text : List Char) : Option (Time × List Char) := do
  let (hour, rest) ← twoDigits? 0 23 text
  let (minute, rest) ← twoDigits? 0 59 (← after? ':' rest)
  let (second, rest) ← twoDigits? 0 59 (← after? ':' rest)
  let (microsecond, rest) := microseconds rest
  return (⟨hour, minute, second, microsecond⟩, rest)

def offset (text : List Char) : Option Int × List Char :=
  let read (negative : Bool) (rest : List Char) : Option (Int × List Char) := do
    let (hour, rest) ← twoDigits? 0 23 rest
    let (minute, rest) ← twoDigits? 0 59 (← after? ':' rest)
    let size : Nat := 60 * hour + minute
    return (if negative then -(size : Int) else size, rest)
  let found := match text with
    | 'Z' :: rest | 'z' :: rest => some (0, rest)
    | '+' :: rest => read false rest
    | '-' :: rest => read true rest
    | _ => none
  match found with
  | some (minutes, rest) => (some minutes, rest)
  | none => (none, text)

def isLeapYear (year : Nat) : Bool :=
  year % 4 == 0 && (year % 100 != 0 || year % 400 == 0)

def daysInMonth (year month : Nat) : Nat :=
  if month = 2 then if isLeapYear year then 29 else 28
  else if month = 4 ∨ month = 6 ∨ month = 9 ∨ month = 11 then 30
  else 31

def Date.isValid (date : Date) : Bool :=
  1 ≤ date.year && date.day ≤ daysInMonth date.year date.month

def date? (text : List Char) : Option (Date × List Char) := do
  let (year, rest) ← fixedDigits? 4 text
  let (month, rest) ← twoDigits? 1 12 (← after? '-' rest)
  let (day, rest) ← twoDigits? 1 31 (← after? '-' rest)
  return (⟨year, month, day⟩, rest)

def timeAfterDate? : List Char → Option (Time × List Char)
  | separator :: rest =>
      if separator = 'T' ∨ separator = 't' ∨ separator = ' ' then time? rest else none
  | [] => none

def moment? (text : List Char) : Option (Read Value) :=
  match date? text with
  | some (date, rest) =>
      if !date.isValid then some (fail .invalidDate text)
      else match timeAfterDate? rest with
      | some (time, rest) =>
          let (offset, rest) := offset rest
          some (.ok (.datetime date time offset, rest))
      | none => some (.ok (.date date, rest))
  | none => (time? text).map fun (time, rest) => .ok (.time time, rest)

end Reckon.Toml
