import Reckon.Binary64.Basic
import Reckon.Text.Quoted

set_option autoImplicit false

namespace Reckon.Toml

structure Date where
  year : Nat
  month : Nat
  day : Nat
deriving DecidableEq

structure Time where
  hour : Nat
  minute : Nat
  second : Nat
  microsecond : Nat
deriving DecidableEq

inductive Value where
  | str (text : String)
  | int (value : Int)
  | float (value : Binary64)
  | bool (value : Bool)
  | date (date : Date)
  | time (time : Time)
  -- The offset from universal time is in minutes.
  | datetime (date : Date) (time : Time) (offset : Option Int)
  | array (items : List Value)
  | table (entries : List (String × Value))

abbrev Table := List (String × Value)

abbrev Key := List String

namespace Value

def typeName : Value → String
  | .str _ => "str"
  | .int _ => "int"
  | .float _ => "float"
  | .bool _ => "bool"
  | .date _ => "date"
  | .time _ => "time"
  | .datetime .. => "datetime"
  | .array _ => "list"
  | .table _ => "dict"

-- Where a message names the type in full, dates and times have their family in front.
def fullTypeName : Value → String
  | .date _ => "datetime.date"
  | .time _ => "datetime.time"
  | .datetime .. => "datetime.datetime"
  | value => value.typeName

def text? : Value → Option String
  | .str text => some text
  | _ => none

def flag? : Value → Option Bool
  | .bool flag => some flag
  | _ => none

end Value

-- A single name is followed by a comma.
def Key.display (key : Key) : String :=
  match key with
  | [name] => "(" ++ Text.quoted name ++ ",)"
  | names => "(" ++ ", ".intercalate (names.map Text.quoted) ++ ")"

inductive Problem where
  | invalidStatement
  | expectedLineEnd
  | expectedEquals
  | invalidKey
  | expectedTableEnd
  | expectedArrayEnd
  | declaredTwice (key : Key)
  | redefined (key : Key)
  | immutable (key : Key)
  | overwrite
  | duplicateName (name : String)
  | invalidValue
  | invalidDate
  | unclosedArray
  | unclosedTable
  | unterminated
  | expected (text : String)
  | illegalChar (c : Char)
  | foundInvalid (c : Char)
  | unescapedBackslash
  | invalidHex
  | notScalar
deriving DecidableEq

def Problem.message : Problem → String
  | .invalidStatement => "Invalid statement"
  | .expectedLineEnd => "Expected newline or end of document after a statement"
  | .expectedEquals => "Expected '=' after a key in a key/value pair"
  | .invalidKey => "Invalid initial character for a key part"
  | .expectedTableEnd => "Expected ']' at the end of a table declaration"
  | .expectedArrayEnd => "Expected ']]' at the end of an array declaration"
  | .declaredTwice key => "Cannot declare " ++ key.display ++ " twice"
  | .redefined key => "Cannot redefine namespace " ++ key.display
  | .immutable key => "Cannot mutate immutable namespace " ++ key.display
  | .overwrite => "Cannot overwrite a value"
  | .duplicateName name => "Duplicate inline table key " ++ Text.quoted name
  | .invalidValue => "Invalid value"
  | .invalidDate => "Invalid date or datetime"
  | .unclosedArray => "Unclosed array"
  | .unclosedTable => "Unclosed inline table"
  | .unterminated => "Unterminated string"
  | .expected text => "Expected " ++ Text.quoted text
  | .illegalChar c => "Illegal character " ++ Text.quoted (String.singleton c)
  | .foundInvalid c => "Found invalid character " ++ Text.quoted (String.singleton c)
  | .unescapedBackslash => "Unescaped '\\' in a string"
  | .invalidHex => "Invalid hex value"
  | .notScalar => "Escaped character is not a Unicode scalar value"

inductive Fault where
  | invalid (problem : Problem) (rest : List Char)
  | oversized (digits : Nat)

abbrev Read (α : Type) := Except Fault (α × List Char)

def fail {α : Type} (problem : Problem) (rest : List Char) : Except Fault α :=
  .error (.invalid problem rest)

end Reckon.Toml
