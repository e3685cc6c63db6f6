import Reckon.Decimal.Layout
import Reckon.Json.Basic
import Reckon.Text.Quoted

set_option autoImplicit false

namespace Reckon.Json

def escapeChar (c : Char) : List Char :=
  if c = '"' ∨ c = '\\' then ['\\', c]
  else if c = '\n' then ['\\', 'n']
  else if c = '\r' then ['\\', 'r']
  else if c = '\t' then ['\\', 't']
  else if c = '\x08' then ['\\', 'b']
  else if c = '\x0c' then ['\\', 'f']
  else if c.toNat < 0x20 then '\\' :: 'u' :: Text.hex 4 c.toNat
  else [c]

def printString (text : String) : String :=
  "\"" ++ String.ofList (text.toList.flatMap escapeChar) ++ "\""

inductive Style where
  | compact
  | indented (spaces : Nat)

namespace Style

def break_ (style : Style) (level : Nat) : String :=
  match style with
  | .compact => ""
  | .indented spaces => "\n" ++ String.ofList (List.replicate (spaces * level) ' ')

def colon : Style → String
  | .compact => ":"
  | .indented _ => ": "

end Style

-- NaN and infinities are written as null.
def printFloat (value : Binary64) : String :=
  if value.isFinite then Layout.json.write value else "null"

mutual

def write (style : Style) (level : Nat) (value : Json) (out : String) : String :=
  match value with
  | .null => out ++ "null"
  | .bool value => out ++ (if value then "true" else "false")
  | .int value => out ++ toString value
  | .float value => out ++ printFloat value
  | .str text => out ++ printString text
  | .arr [] => out ++ "[]"
  | .arr (item :: items) =>
      let out := write style (level + 1) item (out ++ "[" ++ style.break_ (level + 1))
      writeItems style (level + 1) items out ++ style.break_ level ++ "]"
  | .obj [] => out ++ "\x7b\x7d"
  | .obj ((name, item) :: members) =>
      let out := out ++ "\x7b" ++ style.break_ (level + 1) ++ printString name ++ style.colon
      let out := write style (level + 1) item out
      writeMembers style (level + 1) members out ++ style.break_ level ++ "\x7d"

def writeItems (style : Style) (level : Nat) (items : List Json) (out : String) : String :=
  match items with
  | [] => out
  | item :: items =>
      writeItems style level items (write style level item (out ++ "," ++ style.break_ level))

def writeMembers (style : Style) (level : Nat) (members : List (String × Json)) (out : String) :
    String :=
  match members with
  | [] => out
  | (name, item) :: members =>
      let out := out ++ "," ++ style.break_ level ++ printString name ++ style.colon
      writeMembers style level members (write style level item out)

end

def print (style : Style) (value : Json) : String := write style 0 value ""

end Reckon.Json
