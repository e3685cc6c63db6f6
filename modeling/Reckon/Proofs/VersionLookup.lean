import Reckon.Proofs.Configuration
import Reckon.Version

set_option autoImplicit false

namespace Reckon.Version

open Settings (Holds parsedText Misplaced)

def StatedIn (document : Toml.Table) (version : String) : Prop :=
  ∃ entries, document.lookup "project" = some (.table entries) ∧
    entries.lookup "name" = some (.str "calceval") ∧ entries.lookup "version" = some (.str version) ∧ version ≠ ""

def Contains (files : Files.Tree) (document : Toml.Table) : Prop :=
  ∃ text, Holds files projectFile text ∧ parsedText text = .ok document

def States (files : Files.Tree) (version : String) : Prop :=
  ∃ document, Contains files document ∧ StatedIn document version

-- The project files for which the lookup fails, and how.
inductive Defeats (files : Files.Tree) : Settings.Failure → Prop where
  | notUtf8 {bytes : List UInt8} {fault : Text.Utf8Fault} (read : Files.read files projectFile = .ok bytes)
      (foreign : ∀ text : String, bytes ≠ Text.encoded text.toList)
      (found : Text.decodeUtf8 bytes = .error fault) : Defeats files (.notUtf8 fault)
  | oversized {text : String} {digits : Nat} (holds : Holds files projectFile text)
      (parsed : parsedText text = .error (.oversized digits)) : Defeats files (.oversized digits)
  | notATable {document : Toml.Table} {value : Toml.Value} (contains : Contains files document)
      (misplaced : Misplaced document "project" value) : Defeats files (.notATable value.fullTypeName)

theorem stated_error_iff (document : Toml.Table) (failure : Settings.Failure) :
    stated? document = .error failure ↔
      ∃ value, Misplaced document "project" value ∧ failure = .notATable value.fullTypeName := by
  rw [← Settings.table_error_iff, stated?, Settings.bind_error_iff]
  constructor
  · rintro (failed | ⟨entries, _, failed⟩)
    · exact failed
    · split at failed <;> cases failed
  · exact .inl

theorem stated_iff (document : Toml.Table) (version : String) :
    stated? document = .ok (some version) ↔ StatedIn document version := by
  simp only [stated?, Settings.bind_ok_iff, Settings.table_ok_iff]
  constructor
  · rintro ⟨entries, part, found⟩
    split at found
    · rename_i name given nameFound versionFound
      by_cases own : name = programName ∧ given ≠ ""
      · rw [if_pos (by simpa using own)] at found
        cases found
        obtain ⟨rfl, nonempty⟩ := own
        rcases part with project | ⟨_, rfl⟩
        · exact ⟨entries, project, nameFound, versionFound, nonempty⟩
        · cases nameFound
      · rw [if_neg (by simpa using own)] at found
        cases found
    · cases found
  · rintro ⟨entries, project, nameFound, versionFound, nonempty⟩
    refine ⟨entries, .inl project, ?_⟩
    simp only [nameFound, versionFound]
    rw [if_pos (by simpa [programName] using nonempty)]
    rfl

section

variable (files : Files.Tree) (installed : Option String)

theorem read_contained (document : Toml.Table) :
    Settings.readDocument files projectFile = .ok document ↔ Contains files document := by
  constructor
  · intro read
    rcases Settings.read_document_cases files projectFile with ⟨text, holds⟩ | ⟨failure, unread, _⟩
    · rw [Settings.read_document_holds files _ text holds, Settings.document_of_encoded] at read
      refine ⟨text, holds, ?_⟩
      cases parsed : parsedText text with
      | ok found =>
          rw [parsed] at read
          cases read
          rfl
      | error error =>
          rw [parsed] at read
          cases read
    · rw [unread] at read
      cases read
  · rintro ⟨text, holds, parsed⟩
    rw [Settings.read_document_holds files _ text holds, Settings.document_of_encoded, parsed]
    rfl

theorem look_up_contained (document : Toml.Table) (contains : Contains files document) :
    lookUp files installed = (stated? document).map (·.getD (installed.getD unknown)) := by
  rw [lookUp, (read_contained files document).mpr contains]

theorem look_up_unread (failure : Settings.Failure)
    (unread : Settings.readDocument files projectFile = .error failure) :
    lookUp files installed =
      if failure.isReported then .ok (installed.getD unknown) else .error failure := by
  rw [lookUp, unread]

theorem stated_look_up (version : String) (states : States files version) :
    lookUp files installed = .ok version := by
  obtain ⟨document, contains, stated⟩ := states
  rw [look_up_contained files installed document contains, (stated_iff document version).mpr stated]
  rfl

theorem defeated_look_up (failure : Settings.Failure) (defeats : Defeats files failure) :
    lookUp files installed = .error failure := by
  have named : projectFile.hasNull = false := by decide +kernel
  cases defeats with
  | notUtf8 read foreign found =>
      rw [look_up_unread files installed (.notUtf8 _)]
      · rfl
      · simp only [Settings.readDocument, named, read, Settings.documentOf, found, Bool.false_eq_true, if_false]
  | oversized holds parsed =>
      rw [look_up_unread files installed (.oversized _)]
      · rfl
      · rw [Settings.read_document_holds files _ _ holds, Settings.document_of_encoded, parsed]
        rfl
  | notATable contains misplaced =>
      rw [look_up_contained files installed _ contains, (stated_error_iff _ _).mpr ⟨_, misplaced, rfl⟩]
      rfl

-- Every outcome of reading the file is one of those that the three specifications tell apart.
theorem look_up_cases :
    (∃ failure, Defeats files failure) ∨ (∃ version, States files version) ∨
      lookUp files installed = .ok (installed.getD unknown) := by
  rcases Settings.read_document_cases files projectFile with ⟨text, holds⟩ | ⟨failure, unread, escapes⟩
  · cases parsed : parsedText text with
    | error error =>
        cases error with
        | oversized digits => exact .inl ⟨_, .oversized holds parsed⟩
        | invalid problem place =>
            refine .inr (.inr ?_)
            rw [look_up_unread files installed (.invalid projectFile problem place)]
            · rfl
            · rw [Settings.read_document_holds files _ text holds, Settings.document_of_encoded, parsed]
              rfl
    | ok document =>
        have contains : Contains files document := ⟨text, holds, parsed⟩
        cases found : stated? document with
        | error failure =>
            obtain ⟨value, misplaced, _⟩ := (stated_error_iff document failure).mp found
            exact .inl ⟨_, .notATable contains misplaced⟩
        | ok version? =>
            cases version? with
            | some version => exact .inr (.inl ⟨version, document, contains, (stated_iff document version).mp found⟩)
            | none =>
                refine .inr (.inr ?_)
                rw [look_up_contained files installed document contains, found]
                rfl
  · by_cases reported : failure.isReported
    · refine .inr (.inr ?_)
      rw [look_up_unread files installed failure unread, if_pos reported]
    · cases escapes (by simpa using reported) with
      | nullInPath null => exact absurd null (by decide +kernel)
      | notUtf8 _ read foreign found => exact .inl ⟨_, .notUtf8 read foreign found⟩
      | oversized holds parsed => exact .inl ⟨_, .oversized holds parsed⟩
      | repl holds parsed _ =>
          rw [(read_contained files _).mpr ⟨_, holds, parsed⟩] at unread
          cases unread
      | logging holds parsed _ _ =>
          rw [(read_contained files _).mpr ⟨_, holds, parsed⟩] at unread
          cases unread

end

-- A project file that cannot be read or parsed is passed over.
theorem look_up_fails_iff_defeated (files : Files.Tree) (installed : Option String) :
    (∀ failure, lookUp files installed = .error failure ↔ Defeats files failure) ∧
    (∀ version, States files version → lookUp files installed = .ok version) ∧
    ((∀ version, ¬ States files version) → (∀ failure, ¬ Defeats files failure) →
      lookUp files installed = .ok (installed.getD "0.0.0")) := by
  refine ⟨fun failure => ⟨fun failed => ?_, defeated_look_up files installed failure⟩,
    stated_look_up files installed, fun unstated undefeated => ?_⟩
  · rcases look_up_cases files installed with ⟨other, defeats⟩ | ⟨version, states⟩ | fallback
    · cases failed.symm.trans (defeated_look_up files installed other defeats)
      exact defeats
    · cases failed.symm.trans (stated_look_up files installed version states)
    · cases failed.symm.trans fallback
  · rcases look_up_cases files installed with ⟨failure, defeats⟩ | ⟨version, states⟩ | fallback
    · exact absurd defeats (undefeated failure)
    · exact absurd states (unstated version)
    · exact fallback

-- A number in place of the table of the project.
theorem look_up_of_numeric_project :
    let files : Files.Tree := [(projectFile, .file (Text.encoded "project = 5".toList))]
    Defeats files (.notATable "int") ∧ lookUp files (some "1.2.3") = .error (.notATable "int") := by
  intro files
  have holds : Holds files projectFile "project = 5" := ⟨rfl, rfl⟩
  have typed : ((parsedText "project = 5").toOption.bind (·.lookup "project")).map Toml.Value.fullTypeName =
      some "int" := by
    decide +kernel
  cases parsed : parsedText "project = 5" with
  | error error =>
      rw [parsed] at typed
      cases typed
  | ok document =>
      rw [parsed] at typed
      obtain ⟨value, found, named⟩ := Option.map_eq_some_iff.mp typed
      have notTable : ¬ Settings.IsTable value := by
        rintro ⟨entries, rfl⟩
        simp [Toml.Value.fullTypeName, Toml.Value.typeName] at named
      have defeats := Defeats.notATable ⟨_, holds, parsed⟩ ⟨found, notTable⟩
      rw [named] at defeats
      exact ⟨defeats, ((look_up_fails_iff_defeated files _).1 _).mpr defeats⟩

end Reckon.Version
