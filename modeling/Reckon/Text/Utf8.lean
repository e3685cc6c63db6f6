import Reckon.Text.Quoted

set_option autoImplicit false

namespace Reckon.Text

inductive Utf8Reason where
  | invalidStart
  | invalidContinuation
  | unexpectedEnd
deriving DecidableEq

-- The run of `length` bytes from `start` on is not UTF-8; its first byte is `byte`.
structure Utf8Fault where
  start : Nat
  length : Nat
  byte : UInt8
  reason : Utf8Reason
deriving DecidableEq

def Utf8Reason.message : Utf8Reason → String
  | .invalidStart => "invalid start byte"
  | .invalidContinuation => "invalid continuation byte"
  | .unexpectedEnd => "unexpected end of data"

def Utf8Fault.message (fault : Utf8Fault) : String :=
  let what := if fault.length = 1 then
      "byte 0x" ++ String.ofList (hex 2 fault.byte.toNat) ++ " in position " ++ fault.start.repr
    else
      "bytes in position " ++ fault.start.repr ++ "-" ++ (fault.start + fault.length - 1).repr
  "'utf-8' codec can't decode " ++ what ++ ": " ++ fault.reason.message

/-- The number of bytes after a first byte, the bits that it carries, and the bounds of the byte
after it, which leave out overlong forms, surrogates and what is past the last character. -/
def utf8Lead (byte : UInt8) : Option (Nat × Nat × Nat × Nat) :=
  let b := byte.toNat
  if b < 0x80 then some (0, b, 0, 0)
  else if b < 0xC2 then none
  else if b < 0xE0 then some (1, b - 0xC0, 0x80, 0xBF)
  else if b < 0xF0 then
    some (2, b - 0xE0, if b = 0xE0 then 0xA0 else 0x80, if b = 0xED then 0x9F else 0xBF)
  else if b < 0xF5 then
    some (3, b - 0xF0, if b = 0xF0 then 0x90 else 0x80, if b = 0xF4 then 0x8F else 0xBF)
  else none

-- On failure, how many bytes were fine, and why.
def utf8Tail (wanted code least most taken : Nat) (bytes : List UInt8) :
    Except (Nat × Utf8Reason) (Nat × List UInt8) :=
  match wanted, bytes with
  | 0, bytes => .ok (code, bytes)
  | _ + 1, [] => .error (taken, .unexpectedEnd)
  | wanted + 1, byte :: bytes =>
      if least ≤ byte.toNat ∧ byte.toNat ≤ most then
        utf8Tail wanted (code * 0x40 + byte.toNat % 0x40) 0x80 0xBF (taken + 1) bytes
      else .error (taken, .invalidContinuation)

def utf8Chars : Nat → Nat → List UInt8 → List Char → Except Utf8Fault (List Char)
  | 0, _, _, done => .ok done.reverse
  | fuel + 1, start, bytes, done =>
      match bytes with
      | [] => .ok done.reverse
      | byte :: rest =>
          match utf8Lead byte with
          | none => .error ⟨start, 1, byte, .invalidStart⟩
          | some (wanted, bits, least, most) =>
              match utf8Tail wanted bits least most 0 rest with
              | .ok (code, rest) =>
                  utf8Chars fuel (start + wanted + 1) rest (Char.ofNat code :: done)
              | .error (taken, reason) => .error ⟨start, taken + 1, byte, reason⟩

def decodeUtf8 (bytes : List UInt8) : Except Utf8Fault String :=
  (utf8Chars bytes.length 0 bytes []).map String.ofList

def unifyNewlines (text : List Char) : List Char := go text []
where
  go : List Char → List Char → List Char
    | '\r' :: '\n' :: rest, done => go rest ('\n' :: done)
    | '\r' :: rest, done => go rest ('\n' :: done)
    | c :: rest, done => go rest (c :: done)
    | [], done => done.reverse

end Reckon.Text
