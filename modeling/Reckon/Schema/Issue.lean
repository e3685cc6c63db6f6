import Reckon.Decimal.Numeral
import Reckon.Json.Basic

set_option autoImplicit false

namespace Reckon.Schema

inductive Problem where
  | missing
  | notNumeric
  | badNumeral
  | badChoice (choices : List String)
  | notObject (kind : String)
  -- The members are fine each, but not together.
  | inconsistent (reason : String)
deriving DecidableEq

structure Issue where
  problem : Problem
  path : List String
deriving DecidableEq

def alternatives (choices : List String) : String :=
  let quoted := choices.map fun choice => "'" ++ choice ++ "'"
  match quoted.reverse with
  | last :: second :: more =>
      ", ".intercalate (second :: more).reverse ++ " or " ++ last
  | [only] => only
  | [] => ""

def Problem.message : Problem → String
  | .missing => "Field required"
  | .notNumeric => "Input should be a valid number"
  | .badNumeral => "Input should be a valid number, unable to parse string as a number"
  | .badChoice choices => "Input should be " ++ alternatives choices
  | .notObject kind => "Input should be a valid dictionary or instance of " ++ kind
  | .inconsistent reason => "Value error, " ++ reason

abbrev Checked (α : Type) := Except (List Issue) α

def fail {α : Type} (problem : Problem) : Checked α := .error [⟨problem, []⟩]

def under {α : Type} (name : String) : Checked α → Checked α
  | .ok value => .ok value
  | .error issues => .error (issues.map fun issue => ⟨issue.problem, name :: issue.path⟩)

-- Two checks side by side; the issues of both are kept.
def both {α β : Type} : Checked α → Checked β → Checked (α × β)
  | .ok a, .ok b => .ok (a, b)
  | .error issues, .ok _ => .error issues
  | .ok _, .error issues => .error issues
  | .error first, .error second => .error (first ++ second)

def field {α β : Type} (members : List (String × β)) (name : String) (check : β → Checked α) :
    Checked α :=
  under name (match members.reverse.lookup name with
    | some value => check value
    | none => fail .missing)

-- A number, a truth value as one or zero, or the text of a numeral.
def number : Json → Checked Binary64
  | .float value => .ok value
  | .bool value => .ok (Decimal.toBinary64 false ⟨if value then 1 else 0, 0⟩)
  | .int value =>
      match Decimal.toBinary64 (value < 0) ⟨value.natAbs, 0⟩ with
      | .infinite _ => fail .notNumeric
      | finite => .ok finite
  | .str text =>
      match Numeral.readLoose? text with
      | some value => .ok value
      | none => fail .badNumeral
  | _ => fail .notNumeric

def choice {α : Type} (values : List α) (spelling : α → String) (json : Json) : Checked α :=
  let found := match json with
    | .str text => values.find? fun value => spelling value == text
    | _ => none
  match found with
  | some value => .ok value
  | none => fail (.badChoice (values.map spelling))

end Reckon.Schema
