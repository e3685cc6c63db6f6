import Reckon.Proofs.Encoding
import Reckon.Settings

set_option autoImplicit false

namespace Reckon.Settings

theorem bind_ok_iff {α β : Type} (first : Except Failure α) (next : α → Except Failure β) (result : β) :
    (first >>= next) = .ok result ↔ ∃ found, first = .ok found ∧ next found = .ok result := by
  cases first with
  | error failure => simp [bind, Except.bind]
  | ok found => simp [bind, Except.bind]

theorem bind_error_iff {α β : Type} (first : Except Failure α) (next : α → Except Failure β)
    (failure : Failure) :
    (first >>= next) = .error failure ↔
      first = .error failure ∨ ∃ found, first = .ok found ∧ next found = .error failure := by
  cases first with
  | error failure => simp [bind, Except.bind]
  | ok found => simp [bind, Except.bind]

def IsTable (value : Toml.Value) : Prop := ∃ entries, value = .table entries

-- The entries of a part of the document, which may be left out.
def Part (document : Toml.Table) (name : String) (entries : Toml.Table) : Prop :=
  document.lookup name = some (.table entries) ∨ document.lookup name = none ∧ entries = []

-- The value stands where a table is expected.
def Misplaced (document : Toml.Table) (name : String) (value : Toml.Value) : Prop :=
  document.lookup name = some value ∧ ¬ IsTable value

-- A name may be left out; its value is of the kind if it is there.
def Fits {α : Type} (view : Toml.Value → Option α) (entries : Toml.Table) (name : String) : Prop :=
  ∀ given, entries.lookup name = some given → ∃ value, view given = some value

def MannerFits (document : Toml.Table) : Prop :=
  ∃ entries, Part document "repl" entries ∧ Fits Toml.Value.text? entries "prompt" ∧
    Fits Toml.Value.text? entries "exit_command" ∧ Fits Toml.Value.text? entries "error_message" ∧
    Fits Toml.Value.flag? entries "show_errors" ∧ Fits Toml.Value.flag? entries "banner"

theorem table_ok_iff (document : Toml.Table) (name : String) (entries : Toml.Table) :
    table document name = .ok entries ↔ Part document name entries := by
  rw [table, Part]
  cases found : document.lookup name with
  | none => simp [eq_comm]
  | some value => cases value <;> simp

theorem table_error_iff (document : Toml.Table) (name : String) (failure : Failure) :
    table document name = .error failure ↔
      ∃ value, Misplaced document name value ∧ failure = .notATable value.fullTypeName := by
  constructor
  · intro failed
    rw [table] at failed
    split at failed
    · cases failed
    · cases failed
    · rename_i value notTable found
      cases failed
      exact ⟨value, ⟨found, fun ⟨entries, same⟩ => notTable entries same⟩, rfl⟩
  · rintro ⟨value, ⟨found, notTable⟩, rfl⟩
    rw [table, found]
    split
    · rename_i absurdity
      cases absurdity
    · rename_i entries same
      exact absurd ⟨entries, Option.some.inj same⟩ notTable
    · rename_i same
      cases same
      rfl

theorem entry_found {α : Type} (expected : String) (view : Toml.Value → Option α) (part : String)
    (entries : Toml.Table) (name : String) (default : α) :
    (∃ value, entry expected view part entries name default = .ok value) ↔ Fits view entries name := by
  rw [Fits]
  cases found : entries.lookup name with
  | none => simp [entry, found]
  | some given => cases seen : view given <;> simp [entry, found, seen]

theorem entry_reported {α : Type} (expected : String) (view : Toml.Value → Option α) (part : String)
    (entries : Toml.Table) (name : String) (default : α) (failure : Failure)
    (failed : entry expected view part entries name default = .error failure) : failure.isReported := by
  rw [entry] at failed
  split at failed
  · cases failed
  · split at failed <;> cases failed
    rfl

theorem manner_found (document : Toml.Table) :
    (∃ manner, mannerOf document = .ok manner) ↔ MannerFits document := by
  simp only [mannerOf, text, flag, bind_ok_iff, MannerFits]
  constructor
  · rintro ⟨manner, entries, part, prompt, prompted, exitCommand, exits, errorMessage, explains, showErrors,
      shows, banner, greets, _⟩
    exact ⟨entries, (table_ok_iff _ _ _).mp part, (entry_found _ _ _ _ _ _).mp ⟨prompt, prompted⟩,
      (entry_found _ _ _ _ _ _).mp ⟨exitCommand, exits⟩, (entry_found _ _ _ _ _ _).mp ⟨errorMessage, explains⟩,
      (entry_found _ _ _ _ _ _).mp ⟨showErrors, shows⟩, (entry_found _ _ _ _ _ _).mp ⟨banner, greets⟩⟩
  · rintro ⟨entries, part, prompts, exits, explains, shows, greets⟩
    obtain ⟨prompt, prompted⟩ := (entry_found "str" _ "repl" entries "prompt" _).mpr prompts
    obtain ⟨exitCommand, exited⟩ := (entry_found "str" _ "repl" entries "exit_command" _).mpr exits
    obtain ⟨errorMessage, explained⟩ := (entry_found "str" _ "repl" entries "error_message" _).mpr explains
    obtain ⟨showErrors, shown⟩ := (entry_found "bool" _ "repl" entries "show_errors" _).mpr shows
    obtain ⟨banner, greeted⟩ := (entry_found "bool" _ "repl" entries "banner" _).mpr greets
    exact ⟨_, entries, (table_ok_iff _ _ _).mpr part, prompt, prompted, exitCommand, exited, errorMessage,
      explained, showErrors, shown, banner, greeted, rfl⟩

-- Only the part itself can fail without a report.
theorem manner_unreported (document : Toml.Table) (failure : Failure) (unreported : failure.isReported = false) :
    mannerOf document = .error failure ↔ table document "repl" = .error failure := by
  have reported : ¬ failure.isReported := by simp [unreported]
  simp only [mannerOf, bind_error_iff]
  constructor
  · rintro (failed | ⟨entries, _, failed | ⟨_, _, failed | ⟨_, _, failed | ⟨_, _, failed |
      ⟨_, _, failed | ⟨_, _, absurdity⟩⟩⟩⟩⟩⟩)
    · exact failed
    · exact absurd (entry_reported _ _ _ _ _ _ _ failed) reported
    · exact absurd (entry_reported _ _ _ _ _ _ _ failed) reported
    · exact absurd (entry_reported _ _ _ _ _ _ _ failed) reported
    · exact absurd (entry_reported _ _ _ _ _ _ _ failed) reported
    · exact absurd (entry_reported _ _ _ _ _ _ _ failed) reported
    · cases absurdity
  · exact .inl

theorem level_unreported (document : Toml.Table) (failure : Failure) (unreported : failure.isReported = false) :
    levelOf document = .error failure ↔ table document "logging" = .error failure := by
  have reported : ¬ failure.isReported := by simp [unreported]
  simp only [levelOf, bind_error_iff]
  constructor
  · rintro (failed | ⟨entries, _, failed | ⟨name, _, failed⟩⟩)
    · exact failed
    · exact absurd (entry_reported _ _ _ _ _ _ _ failed) reported
    · split at failed
      · cases failed
      · cases failed
        exact absurd rfl reported
  · exact .inl

theorem document_unreported (path : Files.Path) (document : Toml.Table) (failure : Failure)
    (unreported : failure.isReported = false) :
    ofDocument path document = .error failure ↔
      table document "repl" = .error failure ∨
        MannerFits document ∧ table document "logging" = .error failure := by
  simp only [ofDocument, bind_error_iff, manner_unreported document failure unreported,
    level_unreported document failure unreported]
  constructor
  · rintro (failed | ⟨manner, found, failed | ⟨level, _, absurdity⟩⟩)
    · exact .inl failed
    · exact .inr ⟨(manner_found document).mp ⟨manner, found⟩, failed⟩
    · cases absurdity
  · rintro (failed | ⟨fits, failed⟩)
    · exact .inl failed
    · obtain ⟨manner, found⟩ := (manner_found document).mpr fits
      exact .inr ⟨manner, found, .inl failed⟩

-- The file is there and holds the text.
def Holds (files : Files.Tree) (path : Files.Path) (text : String) : Prop :=
  path.hasNull = false ∧ Files.read files path = .ok (Text.encoded text.toList)

-- The text as it is parsed, its line ends made one.
def parsedText (text : String) : Except Toml.Error Toml.Table :=
  Toml.parse (String.ofList (Text.unifyNewlines text.toList))

-- The failures that nothing turns into a report.
inductive Escapes (files : Files.Tree) (path : Files.Path) : Failure → Prop where
  | nullInPath (null : path.hasNull) : Escapes files path .nullInPath
  | notUtf8 {bytes : List UInt8} {fault : Text.Utf8Fault} (named : path.hasNull = false)
      (read : Files.read files path = .ok bytes) (foreign : ∀ text : String, bytes ≠ Text.encoded text.toList)
      (found : Text.decodeUtf8 bytes = .error fault) : Escapes files path (.notUtf8 fault)
  | oversized {text : String} {digits : Nat} (holds : Holds files path text)
      (parsed : parsedText text = .error (.oversized digits)) : Escapes files path (.oversized digits)
  | repl {text : String} {document : Toml.Table} {value : Toml.Value} (holds : Holds files path text)
      (parsed : parsedText text = .ok document) (misplaced : Misplaced document "repl" value) :
      Escapes files path (.notATable value.fullTypeName)
  | logging {text : String} {document : Toml.Table} {value : Toml.Value} (holds : Holds files path text)
      (parsed : parsedText text = .ok document) (fits : MannerFits document)
      (misplaced : Misplaced document "logging" value) : Escapes files path (.notATable value.fullTypeName)

-- What a fault of the document comes to.
def refusal (path : Files.Path) : Toml.Error → Failure
  | .invalid problem place => .invalid path problem place
  | .oversized digits => .oversized digits

theorem document_of_encoded (path : Files.Path) (text : String) :
    documentOf path (Text.encoded text.toList) = (parsedText text).mapError (refusal path) := by
  simp only [documentOf, (Text.decode_iff_encoded _ text).mpr rfl, parsedText]
  cases Toml.parse (String.ofList (Text.unifyNewlines text.toList)) with
  | ok document => rfl
  | error error => cases error <;> rfl

theorem read_document_holds (files : Files.Tree) (path : Files.Path) (text : String)
    (holds : Holds files path text) :
    readDocument files path = documentOf path (Text.encoded text.toList) := by
  obtain ⟨named, read⟩ := holds
  simp only [readDocument, named, read, Bool.false_eq_true, if_false]

-- All that can come of reading a file: a text in it, or a failure.
theorem read_document_cases (files : Files.Tree) (path : Files.Path) :
    (∃ text, Holds files path text) ∨
      ∃ failure, readDocument files path = .error failure ∧
        (failure.isReported = false → Escapes files path failure) := by
  by_cases null : path.hasNull
  · refine .inr ⟨.nullInPath, ?_, fun _ => .nullInPath null⟩
    rw [readDocument, if_pos null]
  · have named : path.hasNull = false := by simpa using null
    cases read : Files.read files path with
    | error fault =>
        refine .inr ⟨.unreadable path fault, ?_, fun unreported => by cases unreported⟩
        simp only [readDocument, named, read, Bool.false_eq_true, if_false]
    | ok bytes =>
        cases decoded : Text.decodeUtf8 bytes with
        | ok text =>
            rw [(Text.decode_iff_encoded bytes text).mp decoded] at read
            exact .inl ⟨text, named, read⟩
        | error fault =>
            refine .inr ⟨.notUtf8 fault, ?_, fun _ => .notUtf8 named read (fun text same => ?_) decoded⟩
            · simp only [readDocument, named, read, documentOf, decoded, Bool.false_eq_true, if_false]
            · rw [(Text.decode_iff_encoded bytes text).mpr same] at decoded
              cases decoded

theorem load_parsed (files : Files.Tree) (path : Files.Path) (text : String) (document : Toml.Table)
    (holds : Holds files path text) (parsed : parsedText text = .ok document) :
    load files path = ofDocument path document := by
  rw [load, read_document_holds files path text holds, document_of_encoded, parsed]
  rfl

theorem load_unparsed (files : Files.Tree) (path : Files.Path) (text : String) (error : Toml.Error)
    (holds : Holds files path text) (parsed : parsedText text = .error error) :
    load files path = .error (refusal path error) := by
  rw [load, read_document_holds files path text holds, document_of_encoded, parsed]
  rfl

theorem escapes_load (files : Files.Tree) (path : Files.Path) (failure : Failure)
    (escapes : Escapes files path failure) :
    load files path = .error failure ∧ failure.isReported = false := by
  cases escapes with
  | nullInPath null =>
      rw [load, readDocument, if_pos null]
      exact ⟨rfl, rfl⟩
  | notUtf8 named read foreign found =>
      simp only [load, readDocument, named, read, documentOf, found, Bool.false_eq_true, if_false]
      exact ⟨rfl, rfl⟩
  | oversized holds parsed =>
      rw [load_unparsed files path _ _ holds parsed]
      exact ⟨rfl, rfl⟩
  | repl holds parsed misplaced =>
      rw [load_parsed files path _ _ holds parsed, document_unreported path _ _ rfl]
      exact ⟨.inl ((table_error_iff _ _ _).mpr ⟨_, misplaced, rfl⟩), rfl⟩
  | logging holds parsed fits misplaced =>
      rw [load_parsed files path _ _ holds parsed, document_unreported path _ _ rfl]
      exact ⟨.inr ⟨fits, (table_error_iff _ _ _).mpr ⟨_, misplaced, rfl⟩⟩, rfl⟩

theorem unreported_escapes (files : Files.Tree) (path : Files.Path) (failure : Failure)
    (failed : load files path = .error failure) (unreported : failure.isReported = false) :
    Escapes files path failure := by
  rcases read_document_cases files path with ⟨text, holds⟩ | ⟨found, unread, escapes⟩
  · cases parsed : parsedText text with
    | error error =>
        rw [load_unparsed files path text error holds parsed] at failed
        cases error with
        | invalid problem place =>
            cases failed
            cases unreported
        | oversized digits =>
            cases failed
            exact .oversized holds parsed
    | ok document =>
        rw [load_parsed files path text document holds parsed,
          document_unreported path document failure unreported, table_error_iff,
          table_error_iff] at failed
        rcases failed with ⟨value, misplaced, rfl⟩ | ⟨fits, value, misplaced, rfl⟩
        · exact .repl holds parsed misplaced
        · exact .logging holds parsed fits misplaced
  · rw [load, unread] at failed
    cases failed
    exact escapes unreported

theorem load_reports_unless_escaping (files : Files.Tree) (path : Files.Path) :
    (((∃ settings, load files path = .ok settings) ∨
        ∃ failure, load files path = .error failure ∧ failure.isReported) ↔
      ∀ failure, ¬ Escapes files path failure) ∧
    ∀ failure, Escapes files path failure → load files path = .error failure ∧ failure.isReported = false := by
  refine ⟨⟨?_, ?_⟩, escapes_load files path⟩
  · rintro (⟨settings, loaded⟩ | ⟨reported, failed, isReported⟩) failure escapes
    · rw [(escapes_load files path failure escapes).1] at loaded
      cases loaded
    · obtain ⟨escaped, unreported⟩ := escapes_load files path failure escapes
      cases failed.symm.trans escaped
      simp [unreported] at isReported
  · intro contained
    cases loaded : load files path with
    | ok settings => exact .inl ⟨settings, rfl⟩
    | error failure =>
        refine .inr ⟨failure, rfl, ?_⟩
        by_cases reported : failure.isReported
        · exact reported
        · have escapes := unreported_escapes files path failure loaded (by simpa using reported)
          exact absurd escapes (contained failure)

-- A number for the part of the session, which has no entries to look up.
theorem load_of_numeric_part :
    let files : Files.Tree := [(⟨false, ["x.toml"]⟩, .file (Text.encoded "repl = 1".toList))]
    Escapes files ⟨false, ["x.toml"]⟩ (.notATable "int") ∧
      load files ⟨false, ["x.toml"]⟩ = .error (.notATable "int") ∧
      (Failure.notATable "int").isReported = false := by
  intro files
  have holds : Holds files ⟨false, ["x.toml"]⟩ "repl = 1" := ⟨rfl, rfl⟩
  have typed : ((parsedText "repl = 1").toOption.bind (·.lookup "repl")).map Toml.Value.fullTypeName = some "int" := by
    decide +kernel
  cases parsed : parsedText "repl = 1" with
  | error error =>
      rw [parsed] at typed
      cases typed
  | ok document =>
      rw [parsed] at typed
      obtain ⟨value, found, named⟩ := Option.map_eq_some_iff.mp typed
      have notTable : ¬ IsTable value := by
        rintro ⟨entries, rfl⟩
        simp [Toml.Value.fullTypeName, Toml.Value.typeName] at named
      have escapes := Escapes.repl holds parsed ⟨found, notTable⟩
      rw [named] at escapes
      exact ⟨escapes, (load_reports_unless_escaping files _).2 _ escapes⟩

end Reckon.Settings
