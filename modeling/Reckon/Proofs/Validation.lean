import Reckon.Proofs.Configuration

set_option autoImplicit false

namespace Reckon

namespace Log.Level

def names : List String := ["DEBUG", "INFO", "WARNING", "ERROR", "CRITICAL"]

theorem name_listed (level : Level) : level.name ∈ names := by
  cases level <;> decide

theorem of_name_iff (name : String) (level : Level) : ofName? name = some level ↔ level.name = name := by
  constructor
  · intro found
    have same := List.find?_some (p := fun level : Level => level.name == name) found
    exact beq_iff_eq.mp same
  · rintro rfl
    cases level <;> rfl

theorem of_name_found (name : String) : (ofName? name).isSome ↔ name ∈ names := by
  rw [Option.isSome_iff_exists]
  constructor
  · rintro ⟨level, found⟩
    rw [← (of_name_iff name level).mp found]
    exact name_listed level
  · intro member
    obtain ⟨level, _, same⟩ := List.mem_map.mp (show name ∈ all.map Level.name from member)
    exact ⟨level, (of_name_iff name level).mpr same⟩

end Log.Level

namespace Settings

inductive Key where
  | prompt
  | exitCommand
  | errorMessage
  | showErrors
  | banner
  | level

namespace Key

-- In the order of the checks.
def all : List Key := [.prompt, .exitCommand, .errorMessage, .showErrors, .banner, .level]

def part : Key → String
  | .level => "logging"
  | _ => "repl"

def name : Key → String
  | .prompt => "prompt"
  | .exitCommand => "exit_command"
  | .errorMessage => "error_message"
  | .showErrors => "show_errors"
  | .banner => "banner"
  | .level => "level"

def value? (document : Toml.Table) (key : Key) : Option Toml.Value :=
  match document.lookup key.part with
  | some (.table entries) => entries.lookup key.name
  | _ => none

def Takes : Key → Toml.Value → Prop
  | .prompt, value | .exitCommand, value | .errorMessage, value => ∃ text, value = .str text
  | .showErrors, value | .banner, value => ∃ flag, value = .bool flag
  | .level, value => ∃ text, value = .str text ∧ Text.upper text ∈ Log.Level.names

-- A key may be left out.
def Valid (document : Toml.Table) (key : Key) : Prop := ∀ value, key.value? document = some value → key.Takes value

def FirstInvalid (document : Toml.Table) (key : Key) : Prop :=
  ¬ key.Valid document ∧ ∃ earlier later, all = earlier ++ key :: later ∧ ∀ other ∈ earlier, other.Valid document

-- The message begins with the key.
def Named (key : Key) (failure : Failure) : Prop :=
  ∃ rest, failure.message = key.part ++ "." ++ key.name ++ " must be " ++ rest

def objection? (key : Key) (value : Toml.Value) : Option Failure :=
  let mistyped expected := some (.wrongType key.part key.name expected value.typeName)
  match key with
  | .prompt | .exitCommand | .errorMessage => if value.text?.isSome then none else mistyped "str"
  | .showErrors | .banner => if value.flag?.isSome then none else mistyped "bool"
  | .level =>
      match value.text? with
      | none => mistyped "str"
      | some name => if (levelOfText? name).isSome then none else some (.unknownLevel (Text.upper name))

def complaint? (document : Toml.Table) (key : Key) : Option Failure := (key.value? document).bind key.objection?

theorem text_taken (value : Toml.Value) : value.text?.isSome ↔ ∃ text, value = .str text := by
  cases value <;> simp [Toml.Value.text?]

theorem flag_taken (value : Toml.Value) : value.flag?.isSome ↔ ∃ flag, value = .bool flag := by
  cases value <;> simp [Toml.Value.flag?]

theorem unless_taken (taken : Bool) (failure : Failure) :
    (if taken then none else some failure) = none ↔ taken := by
  cases taken <;> simp

theorem level_taken (text : String) : (levelOfText? text).isSome ↔ Text.upper text ∈ Log.Level.names :=
  Log.Level.of_name_found (Text.upper text)

theorem objection_iff (key : Key) (value : Toml.Value) : key.objection? value = none ↔ key.Takes value := by
  cases key with
  | prompt | exitCommand | errorMessage => exact (unless_taken _ _).trans (text_taken value)
  | showErrors | banner => exact (unless_taken _ _).trans (flag_taken value)
  | level =>
      cases value with
      | str text =>
          refine (unless_taken _ _).trans ((level_taken text).trans ?_)
          simp [Takes]
      | _ => simp [objection?, Takes, Toml.Value.text?]

theorem complaint_iff (document : Toml.Table) (key : Key) : key.complaint? document = none ↔ key.Valid document := by
  rw [complaint?, Valid, Option.bind_eq_none_iff]
  exact forall_congr' fun value => imp_congr_right fun _ => objection_iff key value

theorem mistyped_named (key : Key) (expected actual : String) :
    key.Named (.wrongType key.part key.name expected actual) := by
  have typed : " must be of type " = " must be " ++ "of type " := by decide
  refine ⟨"of type " ++ expected ++ ", got " ++ actual, ?_⟩
  change key.part ++ "." ++ key.name ++ " must be of type " ++ expected ++ ", got " ++ actual = _
  simp only [typed, String.append_assoc]

theorem unknown_named (text : String) : Key.level.Named (.unknownLevel text) := by
  have opening : "logging.level must be one of " = "logging" ++ "." ++ "level" ++ " must be " ++ "one of " := by
    decide
  refine ⟨"one of " ++ ", ".intercalate (Log.Level.all.map Log.Level.name) ++ ", got " ++ Text.quoted text, ?_⟩
  change "logging.level must be one of " ++ ", ".intercalate (Log.Level.all.map Log.Level.name) ++ ", got " ++
    Text.quoted text = "logging" ++ "." ++ "level" ++ " must be " ++ _
  simp only [opening, String.append_assoc]

theorem unless_refused (taken : Bool) (failure found : Failure)
    (refused : (if taken then none else some failure) = some found) : found = failure := by
  cases taken with
  | true => cases refused
  | false => exact (Option.some.inj refused).symm

theorem objection_named (key : Key) (value : Toml.Value) (failure : Failure)
    (objects : key.objection? value = some failure) : failure.isReported ∧ key.Named failure := by
  cases key with
  | prompt | exitCommand | errorMessage | showErrors | banner =>
      rw [unless_refused _ _ _ objects]
      exact ⟨rfl, mistyped_named _ _ _⟩
  | level =>
      cases value with
      | str text =>
          rw [unless_refused _ _ _ objects]
          exact ⟨rfl, unknown_named _⟩
      | _ =>
          cases objects
          exact ⟨rfl, mistyped_named .level _ _⟩

theorem value_part (document entries : Toml.Table) (key : Key) (part : Part document key.part entries) :
    key.value? document = entries.lookup key.name := by
  rcases part with found | ⟨absent, rfl⟩
  · rw [value?, found]
  · rw [value?, absent]
    rfl

end Key

-- What the document says for a key, or the default.
def textIn (document : Toml.Table) (key : Key) (default : String) : String :=
  ((key.value? document).bind Toml.Value.text?).getD default

def flagIn (document : Toml.Table) (key : Key) (default : Bool) : Bool :=
  ((key.value? document).bind Toml.Value.flag?).getD default

def mannerIn (document : Toml.Table) : Session.Manner :=
  let defaults : Session.Manner := {}
  { prompt := textIn document .prompt defaults.prompt
    exitCommand := textIn document .exitCommand defaults.exitCommand
    errorMessage := textIn document .errorMessage defaults.errorMessage
    showErrors := flagIn document .showErrors defaults.showErrors
    banner := flagIn document .banner defaults.banner }

def levelIn (document : Toml.Table) : Log.Level := (levelOfText? (textIn document .level "WARNING")).getD .warning

-- The keys are checked in turn, and the first complaint ends the checks.
def checked {α : Type} (document : Toml.Table) (keys : List Key) (result : α) : Except Failure α :=
  match keys.findSome? (Key.complaint? document) with
  | some failure => .error failure
  | none => .ok result

theorem checked_then {α β : Type} (document : Toml.Table) (keys more : List Key) (found : α) (result : β)
    (next : α → Except Failure β) (onwards : next found = checked document more result) :
    (checked document keys found >>= next) = checked document (keys ++ more) result := by
  rw [checked, checked, List.findSome?_append]
  cases keys.findSome? (Key.complaint? document) with
  | some failure => rfl
  | none => exact onwards

-- An entry that is looked up by its view alone is the check of its key.
theorem entry_then {α β : Type} (expected : String) (view : Toml.Value → Option α) (document entries : Toml.Table)
    (key : Key) (more : List Key) (default : α) (result : β) (next : α → Except Failure β)
    (part : Part document key.part entries)
    (objects : ∀ value, key.objection? value = if (view value).isSome then none
      else some (.wrongType key.part key.name expected value.typeName))
    (onwards : next (((key.value? document).bind view).getD default) = checked document more result) :
    (entry expected view key.part entries key.name default >>= next) = checked document (key :: more) result := by
  have single : entry expected view key.part entries key.name default =
      checked document [key] (((key.value? document).bind view).getD default) := by
    rw [entry, checked, List.findSome?_singleton, Key.complaint?, key.value_part document entries part]
    cases entries.lookup key.name with
    | none => rfl
    | some value => cases seen : view value <;> simp [objects, seen]
  rw [single]
  exact checked_then document [key] more _ result next onwards

def mannerKeys : List Key := [.prompt, .exitCommand, .errorMessage, .showErrors, .banner]

theorem manner_checked (document : Toml.Table) (tables : ∃ entries, Part document "repl" entries) :
    mannerOf document = checked document mannerKeys (mannerIn document) := by
  obtain ⟨entries, part⟩ := tables
  rw [mannerOf, (table_ok_iff document "repl" entries).mpr part]
  apply entry_then "str" Toml.Value.text? document entries .prompt _ _ _ _ part (fun _ => rfl)
  apply entry_then "str" Toml.Value.text? document entries .exitCommand _ _ _ _ part (fun _ => rfl)
  apply entry_then "str" Toml.Value.text? document entries .errorMessage _ _ _ _ part (fun _ => rfl)
  apply entry_then "bool" Toml.Value.flag? document entries .showErrors _ _ _ _ part (fun _ => rfl)
  apply entry_then "bool" Toml.Value.flag? document entries .banner _ _ _ _ part (fun _ => rfl)
  rfl

theorem level_default : levelOfText? "WARNING" = some .warning := by decide +kernel

-- The level has a second check, of the name, that only a text comes to.
theorem level_checked (document : Toml.Table) (tables : ∃ entries, Part document "logging" entries) :
    levelOf document = checked document [.level] (levelIn document) := by
  obtain ⟨entries, part⟩ := tables
  have value : Key.level.value? document = entries.lookup "level" := Key.level.value_part document entries part
  rw [levelOf, (table_ok_iff document "logging" entries).mpr part, checked, List.findSome?_singleton,
    Key.complaint?, levelIn, textIn, value]
  change (entry "str" Toml.Value.text? "logging" entries "level" Log.Level.warning.name >>= _) = _
  rw [entry]
  cases entries.lookup "level" with
  | none => simp [bind, Except.bind, pure, Except.pure, Log.Level.name, level_default]
  | some given =>
      cases given with
      | str name =>
          cases found : levelOfText? name <;>
            simp [bind, Except.bind, pure, Except.pure, Key.objection?, Toml.Value.text?, found]
      | _ => rfl

theorem document_checked (path : Files.Path) (document : Toml.Table)
    (repl : ∃ entries, Part document "repl" entries) (logging : ∃ entries, Part document "logging" entries) :
    ofDocument path document = checked document Key.all ⟨mannerIn document, levelIn document, some path⟩ := by
  rw [ofDocument, manner_checked document repl, level_checked document logging]
  apply checked_then document mannerKeys [.level]
  exact checked_then document [.level] [] _ _ _ rfl

theorem checked_ok_iff {α : Type} (document : Toml.Table) (keys : List Key) (result found : α) :
    checked document keys result = .ok found ↔ (∀ key ∈ keys, key.Valid document) ∧ found = result := by
  have passes : keys.findSome? (Key.complaint? document) = none ↔ ∀ key ∈ keys, key.Valid document := by
    rw [List.findSome?_eq_none_iff]
    exact forall_congr' fun key => imp_congr_right fun _ => key.complaint_iff document
  rw [checked, ← passes]
  cases keys.findSome? (Key.complaint? document) with
  | none => simp [eq_comm]
  | some failure => simp

theorem checked_error {α : Type} (document : Toml.Table) (keys : List Key) (result : α) (failure : Failure)
    (failed : checked document keys result = .error failure) :
    ∃ earlier key later, keys = earlier ++ key :: later ∧ (∀ other ∈ earlier, other.Valid document) ∧
      ¬ key.Valid document ∧ failure.isReported ∧ key.Named failure := by
  rw [checked] at failed
  cases complained : keys.findSome? (Key.complaint? document) with
  | none =>
      rw [complained] at failed
      cases failed
  | some found =>
      rw [complained] at failed
      cases failed
      obtain ⟨earlier, key, later, split, complains, before⟩ := List.findSome?_eq_some_iff.mp complained
      obtain ⟨value, _, objects⟩ := Option.bind_eq_some_iff.mp complains
      refine ⟨earlier, key, later, split, fun other member => (other.complaint_iff document).mp (before other member),
        fun valid => ?_, key.objection_named value failure objects⟩
      rw [(key.complaint_iff document).mpr valid] at complains
      cases complains

theorem level_of_text_iff (text : String) (level : Log.Level) :
    levelOfText? text = some level ↔ level.name = Text.upper text :=
  Log.Level.of_name_iff (Text.upper text) level

theorem level_in_name (document : Toml.Table) (valid : Key.level.Valid document) :
    (levelIn document).name = Text.upper (textIn document .level "WARNING") := by
  have listed : Text.upper (textIn document .level "WARNING") ∈ Log.Level.names := by
    rw [textIn]
    cases given : Key.level.value? document with
    | none => decide +kernel
    | some value =>
        obtain ⟨text, rfl, member⟩ := valid value given
        rw [Option.bind_some, Toml.Value.text?, Option.getD_some]
        exact member
  obtain ⟨level, found⟩ := Option.isSome_iff_exists.mp ((Key.level_taken _).mpr listed)
  rw [levelIn, found, Option.getD_some]
  exact (level_of_text_iff _ level).mp found

-- The name that the environment asks for, which need not be that of a level.
def wantedName (environment : Option String) : String := Text.upper (Text.strip (environment.getD ""))

theorem effective_level_name (environment : Option String) (settings : Settings) :
    (settings.effectiveLevel environment).name =
      if wantedName environment ∈ Log.Level.names then wantedName environment else settings.level.name := by
  have taken : (levelOfText? (Text.strip (environment.getD ""))).isSome ↔ wantedName environment ∈ Log.Level.names :=
    Key.level_taken _
  rw [effectiveLevel]
  cases found : levelOfText? (Text.strip (environment.getD "")) with
  | none =>
      rw [found] at taken
      rw [if_neg (fun listed => absurd (taken.mpr listed) (by decide))]
  | some level =>
      rw [found] at taken
      rw [if_pos (taken.mp rfl)]
      exact (level_of_text_iff _ level).mp found

-- What a document with valid keys comes to. The environment only chooses among the names of levels.
structure Reflects (path : Files.Path) (document : Toml.Table) (settings : Settings) : Prop where
  path : settings.path = some path
  manner : settings.manner = mannerIn document
  level : settings.level.name = Text.upper (textIn document .level "WARNING")
  listed : ∀ environment, (settings.effectiveLevel environment).name ∈ Log.Level.names
  effective : ∀ environment, (settings.effectiveLevel environment).name =
    if wantedName environment ∈ Log.Level.names then wantedName environment else settings.level.name

theorem document_ok_iff (path : Files.Path) (document : Toml.Table) (settings : Settings)
    (repl : ∃ entries, Part document "repl" entries) (logging : ∃ entries, Part document "logging" entries) :
    ofDocument path document = .ok settings ↔
      (∀ key : Key, key.Valid document) ∧ settings = ⟨mannerIn document, levelIn document, some path⟩ := by
  have every : (∀ key ∈ Key.all, key.Valid document) ↔ ∀ key : Key, key.Valid document :=
    ⟨fun valid key => valid key (by cases key <;> simp [Key.all]), fun valid key _ => valid key⟩
  rw [document_checked path document repl logging, checked_ok_iff, every]

-- The keys are looked up one after another, and the first whose value does not fit is reported.
theorem document_validated (path : Files.Path) (document : Toml.Table)
    (repl : ∃ entries, Part document "repl" entries) (logging : ∃ entries, Part document "logging" entries) :
    (∀ files, readDocument files path = .ok document → load files path = ofDocument path document) ∧
    ((∃ settings, ofDocument path document = .ok settings) ↔ ∀ key : Key, key.Valid document) ∧
    (∀ settings, ofDocument path document = .ok settings → Reflects path document settings) ∧
    (∀ failure, ofDocument path document = .error failure →
      failure.isReported ∧ ∃ key : Key, key.FirstInvalid document ∧ key.Named failure) ∧
    ∀ other, (∃ entries, Part other "repl" entries) → (∃ entries, Part other "logging" entries) →
      (∀ key : Key, key.value? other = key.value? document) → ofDocument path other = ofDocument path document := by
  have outcome := fun settings => document_ok_iff path document settings repl logging
  refine ⟨fun files decoded => ?_, ⟨?_, fun valid => ⟨_, (outcome _).mpr ⟨valid, rfl⟩⟩⟩,
    fun settings accepted => ?_, fun failure failed => ?_, fun other otherRepl otherLogging agree => ?_⟩
  · rw [load, decoded]
    rfl
  · rintro ⟨settings, accepted⟩
    exact ((outcome settings).mp accepted).1
  · obtain ⟨valid, same⟩ := (outcome settings).mp accepted
    have level : settings.level = levelIn document := by rw [same]
    refine ⟨by rw [same], by rw [same], ?_, fun environment => Log.Level.name_listed _,
      fun environment => effective_level_name environment settings⟩
    rw [level]
    exact level_in_name document (valid .level)
  · rw [document_checked path document repl logging] at failed
    obtain ⟨earlier, key, later, split, before, invalid, reported, named⟩ := checked_error document _ _ failure failed
    exact ⟨reported, key, ⟨invalid, earlier, later, split, before⟩, named⟩
  · have complaints : Key.complaint? other = Key.complaint? document := by
      funext key
      rw [Key.complaint?, Key.complaint?, agree]
    rw [document_checked path other otherRepl otherLogging, document_checked path document repl logging]
    simp only [checked, complaints, mannerIn, levelIn, textIn, flagIn, agree]

-- The first document has two faults, of which the flag is the earlier one in spite of the order in the file.
-- The second leaves out one part and has a key that nothing looks at.
theorem document_of_two_faults :
    let path : Files.Path := ⟨false, ["x.toml"]⟩
    let faulty : Toml.Table := [("logging", .table [("level", .str "loud")]), ("repl", .table [("banner", .int 1)])]
    let short : Toml.Table := [("logging", .table [("level", .str "info")]), ("color", .bool true)]
    (ofDocument path faulty = .error (.wrongType "repl" "banner" "bool" "int") ∧
      ∃ key : Key, key.FirstInvalid faulty ∧ key.Named (.wrongType "repl" "banner" "bool" "int")) ∧
    ∃ settings, ofDocument path short = .ok settings ∧ Reflects path short settings := by
  intro path faulty short
  obtain ⟨_, _, _, refused, _⟩ := document_validated path faulty ⟨_, .inl rfl⟩ ⟨_, .inl rfl⟩
  obtain ⟨_, accepted, reflects, _⟩ := document_validated path short ⟨[], .inr ⟨rfl, rfl⟩⟩ ⟨_, .inl rfl⟩
  have failed : ofDocument path faulty = .error (.wrongType "repl" "banner" "bool" "int") := rfl
  have valid : ∀ key : Key, key.Valid short := by
    intro key
    rw [← key.complaint_iff short]
    cases key with
    | level => decide +kernel
    | _ => rfl
  obtain ⟨settings, loaded⟩ := accepted.mpr valid
  exact ⟨⟨failed, (refused _ failed).2⟩, settings, loaded, reflects settings loaded⟩

end Settings

end Reckon
