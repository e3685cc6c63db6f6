import Reckon.Files
import Reckon.Log
import Reckon.Text.Blank
import Reckon.Text.Upper
import Reckon.Text.Utf8
import Reckon.Toml.Reader

set_option autoImplicit false

namespace Reckon

namespace Session

structure Manner where
  prompt : String := " > "
  exitCommand : String := ".exit"
  errorMessage : String := "There was an error evaluating your input."
  showErrors : Bool := false
  banner : Bool := true
deriving DecidableEq

end Session

structure Settings where
  manner : Session.Manner := {}
  level : Log.Level := .warning
  path : Option Files.Path := none
deriving DecidableEq

namespace Settings

def fileName : String := "calceval.toml"

def levelOfText? (text : String) : Option Log.Level := Log.Level.ofName? (Text.upper text)

def effectiveLevel (environment : Option String) (settings : Settings) : Log.Level :=
  match levelOfText? (Text.strip (environment.getD "")) with
  | some level => level
  | none => settings.level

inductive Failure where
  | unreadable (path : Files.Path) (fault : Files.Fault)
  | invalid (path : Files.Path) (problem : Toml.Problem) (place : Toml.Place)
  | wrongType (part name expected actual : String)
  | unknownLevel (text : String)
  | notATable (typeName : String)
  | notUtf8 (fault : Text.Utf8Fault)
  | oversized (digits : Nat)
  | nullInPath
deriving DecidableEq

namespace Failure

def isReported : Failure → Bool
  | .unreadable .. | .invalid .. | .wrongType .. | .unknownLevel _ => true
  | .notATable _ | .notUtf8 _ | .oversized _ | .nullInPath => false

def message : Failure → String
  | .unreadable path fault =>
      "Cannot read " ++ path.display ++ ": " ++ fault.message ++ ": " ++ Text.quoted path.display
  | .invalid path problem place =>
      "Invalid TOML in " ++ path.display ++ ": " ++ (Toml.Error.invalid problem place).message
  | .wrongType part name expected actual =>
      part ++ "." ++ name ++ " must be of type " ++ expected ++ ", got " ++ actual
  | .unknownLevel text =>
      "logging.level must be one of " ++ ", ".intercalate (Log.Level.all.map Log.Level.name) ++
        ", got " ++ Text.quoted text
  | .notATable typeName => "'" ++ typeName ++ "' object has no attribute 'get'"
  | .notUtf8 fault => fault.message
  | .oversized digits => (Toml.Error.oversized digits).message
  | .nullInPath => "embedded null byte"

end Failure

def table (document : Toml.Table) (name : String) : Except Failure Toml.Table :=
  match document.lookup name with
  | none => .ok []
  | some (.table entries) => .ok entries
  | some value => .error (.notATable value.fullTypeName)

-- The view tells values of the expected type.
def entry {α : Type} (expected : String) (view : Toml.Value → Option α) (part : String)
    (entries : Toml.Table) (name : String) (default : α) : Except Failure α :=
  match entries.lookup name with
  | none => .ok default
  | some given =>
      match view given with
      | some value => .ok value
      | none => .error (.wrongType part name expected given.typeName)

def text : String → Toml.Table → String → String → Except Failure String :=
  entry "str" Toml.Value.text?

def flag : String → Toml.Table → String → Bool → Except Failure Bool :=
  entry "bool" Toml.Value.flag?

def mannerOf (document : Toml.Table) : Except Failure Session.Manner := do
  let defaults : Session.Manner := {}
  let entries ← table document "repl"
  let prompt ← text "repl" entries "prompt" defaults.prompt
  let exitCommand ← text "repl" entries "exit_command" defaults.exitCommand
  let errorMessage ← text "repl" entries "error_message" defaults.errorMessage
  let showErrors ← flag "repl" entries "show_errors" defaults.showErrors
  let banner ← flag "repl" entries "banner" defaults.banner
  return ⟨prompt, exitCommand, errorMessage, showErrors, banner⟩

def levelOf (document : Toml.Table) : Except Failure Log.Level := do
  let entries ← table document "logging"
  let name ← text "logging" entries "level" Log.Level.warning.name
  match levelOfText? name with
  | some level => return level
  | none => .error (.unknownLevel (Text.upper name))

def ofDocument (path : Files.Path) (document : Toml.Table) : Except Failure Settings := do
  let manner ← mannerOf document
  let level ← levelOf document
  return ⟨manner, level, some path⟩

def documentOf (path : Files.Path) (bytes : List UInt8) : Except Failure Toml.Table :=
  match Text.decodeUtf8 bytes with
  | .error fault => .error (.notUtf8 fault)
  | .ok text =>
      match Toml.parse (String.ofList (Text.unifyNewlines text.toList)) with
      | .ok document => .ok document
      | .error (.invalid problem place) => .error (.invalid path problem place)
      | .error (.oversized digits) => .error (.oversized digits)

def readDocument (files : Files.Tree) (path : Files.Path) : Except Failure Toml.Table :=
  if path.hasNull then .error .nullInPath
  else match Files.read files path with
  | .error fault => .error (.unreadable path fault)
  | .ok bytes => documentOf path bytes

def load (files : Files.Tree) (path : Files.Path) : Except Failure Settings := do
  let document ← readDocument files path
  ofDocument path document

def find (files : Files.Tree) (directory : Files.Path) : Except Failure Settings :=
  let path := directory.append fileName
  if Files.isFile files path then load files path else .ok {}

end Settings

end Reckon
