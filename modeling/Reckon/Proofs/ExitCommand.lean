import Reckon.Proofs.Conversation
import Reckon.Proofs.Validation

set_option autoImplicit false

namespace Reckon

namespace Text

-- No blank stands at either end.
def Bare (text : String) : Prop :=
  (∀ c ∈ text.toList.head?, isBlank c = false) ∧ ∀ c ∈ text.toList.getLast?, isBlank c = false

theorem drop_while_first (drop : Char → Bool) (text : List Char) :
    ∀ c ∈ (text.dropWhile drop).head?, drop c = false := by
  intro c found
  have stopped := List.head?_dropWhile_not drop text
  rw [Option.mem_def.mp found] at stopped
  simpa using stopped

-- What is cut off at the end leaves the first character, or nothing.
theorem drop_back_first (drop : Char → Bool) (text : List Char) (first : ∀ c ∈ text.head?, drop c = false) :
    ∀ c ∈ (text.reverse.dropWhile drop).reverse.head?, drop c = false := by
  intro c found
  have split : (text.reverse.dropWhile drop).reverse ++ (text.reverse.takeWhile drop).reverse = text := by
    rw [← List.reverse_append, List.takeWhile_append_dropWhile, List.reverse_reverse]
  apply first c
  rw [← split, List.head?_append, Option.mem_def.mp found]
  rfl

theorem strip_bare (text : String) : Bare (strip text) := by
  rw [Bare, strip, String.toList_ofList, trimBy]
  refine ⟨drop_back_first isBlank _ (drop_while_first isBlank _), ?_⟩
  rw [List.getLast?_reverse]
  exact drop_while_first isBlank _

theorem strip_eq_iff (text : String) : strip text = text ↔ Bare text := by
  constructor
  · intro kept
    rw [← kept]
    exact strip_bare text
  · rintro ⟨first, last⟩
    rw [strip, trim_kept isBlank _ first last, String.ofList_toList]

instance (text : String) : Decidable (Bare text) := decidable_of_iff _ (strip_eq_iff text)

end Text

namespace Session

-- Whatever comes after the command is left unread, and nothing else of the session depends on it.
def ExitWorks (manner : Manner) : Prop :=
  ∀ (verbose : Bool) (earlier later : List String),
    let short := run manner verbose (earlier ++ [manner.exitCommand])
    short.ending = .exitCommand ∧
      run manner verbose (earlier ++ manner.exitCommand :: later) = { short with unread := short.unread ++ later }

-- By the lines before the one that leaves, any of which may leave already.
theorem converse_cut (manner : Manner) (verbose : Bool) (line : String) (earlier later : List String)
    (leaves : Text.strip line = manner.exitCommand) :
    let short := converse manner verbose (earlier ++ [line])
    short.ending = .exitCommand ∧
      converse manner verbose (earlier ++ line :: later) = { short with unread := short.unread ++ later } := by
  induction earlier with
  | nil =>
      rw [List.nil_append, List.nil_append, (converse_leave manner verbose line later leaves).2,
        (converse_leave manner verbose line [] leaves).2]
      exact ⟨rfl, rfl⟩
  | cons first earlier ih =>
      obtain ⟨ending, same⟩ := ih
      simp only [List.cons_append, converse]
      cases turn manner verbose first with
      | leave => simp
      | pass => exact ⟨ending, by rw [same]⟩
      | answer text records => exact ⟨ending, by rw [same]⟩

theorem bare_exit_works (manner : Manner) (bare : Text.Bare manner.exitCommand) : ExitWorks manner := by
  intro verbose earlier later
  have leaves := (Text.strip_eq_iff manner.exitCommand).mpr bare
  obtain ⟨ending, same⟩ := converse_cut manner verbose manner.exitCommand earlier later leaves
  by_cases greets : manner.banner
  · simp only [run, if_pos greets]
    exact ⟨ending, by rw [same]⟩
  · simp only [run, if_neg greets]
    exact ⟨ending, same⟩

-- A command in blanks is not what any line is read as.
theorem blank_exit_ignored (manner : Manner) (verbose : Bool) (lines : List String)
    (blank : ¬ Text.Bare manner.exitCommand) :
    (run manner verbose lines).ending = .endOfInput ∧ (run manner verbose lines).unread = [] ∧
      (run manner verbose lines).evaluated = ((lines.map Text.strip).filter (· != "")).length := by
  obtain ⟨_, evaluated, ending, unread⟩ := converse_lines manner verbose lines
  obtain ⟨_, sameCount, sameEnding, sameUnread⟩ := run_opening manner verbose lines
  have all : linesBeforeExit manner lines = lines.length := by
    rw [linesBeforeExit, List.findIdx_eq_length]
    intro line _
    rw [beq_eq_false_iff_ne]
    intro same
    exact blank (same ▸ Text.strip_bare line)
  rw [sameCount, sameEnding, sameUnread, evaluated, unread, evaluatedTexts, all, List.take_length]
  refine ⟨?_, by simp, rfl⟩
  cases ended : (converse manner verbose lines).ending with
  | endOfInput => rfl
  | exitCommand =>
      have early := ending.mp ended
      omega

end Session

namespace Settings

-- Settings that were loaded are those of the document in the file.
theorem loaded_manner (files : Files.Tree) (path : Files.Path) (settings : Settings)
    (loaded : load files path = .ok settings) :
    ∃ document, readDocument files path = .ok document ∧ settings.manner = mannerIn document := by
  obtain ⟨document, read, accepted⟩ := (bind_ok_iff _ _ _).mp loaded
  obtain ⟨manner, mannerFound, level, levelFound, _⟩ : ∃ manner, mannerOf document = .ok manner ∧
      ∃ level, levelOf document = .ok level ∧ pure ⟨manner, level, some path⟩ = Except.ok settings := by
    simpa only [ofDocument, bind_ok_iff] using accepted
  obtain ⟨repl, replFound, _⟩ := (bind_ok_iff _ _ _).mp mannerFound
  obtain ⟨logging, loggingFound, _⟩ := (bind_ok_iff _ _ _).mp levelFound
  have same := (document_ok_iff path document settings ⟨repl, (table_ok_iff _ _ _).mp replFound⟩
    ⟨logging, (table_ok_iff _ _ _).mp loggingFound⟩).mp accepted
  exact ⟨document, read, by rw [same.2]⟩

end Settings

namespace Session

-- Lines are read without the blanks at their ends while the command is taken as it is written.
theorem exit_works_iff_bare (files : Files.Tree) (path : Files.Path) (settings : Settings)
    (loaded : Settings.load files path = .ok settings) :
    (∃ document, Settings.readDocument files path = .ok document ∧
      settings.manner.exitCommand = Settings.textIn document .exitCommand ".exit") ∧
    (ExitWorks settings.manner ↔ Text.Bare settings.manner.exitCommand) ∧
    (¬ Text.Bare settings.manner.exitCommand → ∀ (verbose : Bool) (lines : List String),
      (run settings.manner verbose lines).ending = .endOfInput ∧
      (run settings.manner verbose lines).unread = [] ∧
      (run settings.manner verbose lines).evaluated = ((lines.map Text.strip).filter (· != "")).length) := by
  obtain ⟨document, read, manner⟩ := Settings.loaded_manner files path settings loaded
  refine ⟨⟨document, read, by rw [manner]; rfl⟩, ⟨fun works => ?_, bare_exit_works settings.manner⟩,
    fun blank verbose lines => blank_exit_ignored settings.manner verbose lines blank⟩
  apply Decidable.byContradiction
  intro blank
  -- The command alone is a session that should end by it.
  have ends := (works false [] []).1
  rw [(blank_exit_ignored settings.manner false _ blank).1] at ends
  cases ends

-- The banner tells to enter the command with its blanks, which is then evaluated like any other line.
theorem exit_in_blanks_ignored :
    let path : Files.Path := ⟨false, ["calceval.toml"]⟩
    let files : Files.Tree := [(path, .file (Text.encoded "[repl]\nexit_command = ' quit '".toList))]
    ∃ settings, Settings.load files path = .ok settings ∧ settings.manner.exitCommand = " quit " ∧
      ¬ ExitWorks settings.manner ∧ (run settings.manner false [" quit ", "1"]).evaluated = 2 := by
  intro path files
  have loaded : (Settings.load files path).toOption = some ⟨{ exitCommand := " quit " }, .warning, some path⟩ := by
    decide +kernel
  cases found : Settings.load files path with
  | error failure =>
      rw [found] at loaded
      cases loaded
  | ok settings =>
      rw [found] at loaded
      cases loaded
      obtain ⟨_, works, ignored⟩ := exit_works_iff_bare files path _ found
      have blank : ¬ Text.Bare " quit " := by decide +kernel
      exact ⟨_, rfl, rfl, fun ended => blank (works.mp ended), (ignored blank false _).2.2⟩

end Session

end Reckon
