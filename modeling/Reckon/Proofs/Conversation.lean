import Reckon.Proofs.Evaluation
import Reckon.Session

set_option autoImplicit false

namespace Reckon.Session

-- The number of lines before the exit command, or of all lines if it does not come.
def linesBeforeExit (manner : Manner) (lines : List String) : Nat :=
  lines.findIdx fun line => Text.strip line == manner.exitCommand

-- The texts that are evaluated: the lines before the exit command that are not blank.
def evaluatedTexts (manner : Manner) (lines : List String) : List String :=
  ((lines.take (linesBeforeExit manner lines)).map Text.strip).filter (· != "")

-- What happens at the console for one line.
def exchange (manner : Manner) (verbose : Bool) (line : String) : List Event :=
  .ask manner.prompt ::
    if Text.strip line = "" then [] else [.say (reply manner verbose (Text.strip line))]

def opening (manner : Manner) : List String := if manner.banner then [bannerText manner] else []

def said : List Event → List String
  | [] => []
  | .say text :: events => text :: said events
  | .ask _ :: events => said events

-- What may be said about a text: its value, or in place of its error what the manner asks for.
def Answers (manner : Manner) (verbose : Bool) (text message : String) : Prop :=
  (∃ value, evaluate text = .ok value ∧ message = value.format) ∨
  ∃ error : Parse.Error, evaluate text = .error (.parse (.rejected error)) ∧
    message = if verbose || manner.showErrors then error.message else manner.errorMessage

theorem said_append (before after : List Event) : said (before ++ after) = said before ++ said after := by
  induction before with
  | nil => rfl
  | cons event before ih => cases event <;> simp [said, ih]

theorem said_exchange (manner : Manner) (verbose : Bool) (line : String) :
    said (exchange manner verbose line) =
      ([Text.strip line].filter (· != "")).map (reply manner verbose) := by
  by_cases empty : Text.strip line = ""
  · simp [exchange, said, empty]
  · simp [exchange, said, empty]

theorem said_exchanges (manner : Manner) (verbose : Bool) (lines : List String) :
    said (lines.flatMap (exchange manner verbose)) =
      ((lines.map Text.strip).filter (· != "")).map (reply manner verbose) := by
  induction lines with
  | nil => rfl
  | cons line lines ih =>
      rw [List.flatMap_cons, said_append, said_exchange, ih, ← List.map_append, ← List.filter_append]
      rfl

theorem reply_answers (manner : Manner) (verbose : Bool) (text : String) :
    Answers manner verbose text (reply manner verbose text) := by
  cases parsed : Parse.parse text with
  | ok tree =>
      have value := evaluate_parsed text tree parsed
      exact .inl ⟨_, value, by simp only [reply, value]⟩
  | error failure =>
      obtain ⟨error, rfl⟩ := Parse.parse_failure text failure parsed
      have failed := evaluate_failed text _ parsed
      exact .inr ⟨error, failed, by simp only [reply, failed]; rfl⟩

theorem lines_before_exit_cons (manner : Manner) (line : String) (rest : List String) :
    linesBeforeExit manner (line :: rest) =
      if Text.strip line = manner.exitCommand then 0 else linesBeforeExit manner rest + 1 := by
  rw [linesBeforeExit, List.findIdx_cons, cond_eq_ite]
  simp only [beq_iff_eq]
  rfl

theorem converse_leave (manner : Manner) (verbose : Bool) (line : String) (rest : List String)
    (leaves : Text.strip line = manner.exitCommand) :
    linesBeforeExit manner (line :: rest) = 0 ∧
      converse manner verbose (line :: rest) = ⟨[.ask manner.prompt], 0, [], .exitCommand, rest⟩ := by
  simp [lines_before_exit_cons, converse, turn, leaves]

-- A line that does not end the session is put before what the rest brings.
theorem converse_stay (manner : Manner) (verbose : Bool) (line : String) (rest : List String)
    (stays : Text.strip line ≠ manner.exitCommand) :
    linesBeforeExit manner (line :: rest) = linesBeforeExit manner rest + 1 ∧
      (converse manner verbose (line :: rest)).events =
        exchange manner verbose line ++ (converse manner verbose rest).events ∧
      (converse manner verbose (line :: rest)).evaluated =
        ([Text.strip line].filter (· != "")).length + (converse manner verbose rest).evaluated ∧
      (converse manner verbose (line :: rest)).ending = (converse manner verbose rest).ending ∧
      (converse manner verbose (line :: rest)).unread = (converse manner verbose rest).unread := by
  have later : linesBeforeExit manner (line :: rest) = linesBeforeExit manner rest + 1 := by
    rw [lines_before_exit_cons, if_neg stays]
  by_cases empty : Text.strip line = ""
  · have passes : turn manner verbose line = .pass := by
      rw [turn, if_neg stays, if_pos empty]
    simp [later, converse, passes, exchange, empty]
  · have answers : turn manner verbose line =
        .answer (reply manner verbose (Text.strip line)) (lineRecords (Text.strip line)) := by
      rw [turn, if_neg stays, if_neg empty]
    simp [later, converse, answers, exchange, empty, Nat.add_comm]

-- By the lines, each of which either ends the session or goes before the rest of it.
theorem converse_lines (manner : Manner) (verbose : Bool) (lines : List String) :
    (converse manner verbose lines).events =
        (lines.take (linesBeforeExit manner lines)).flatMap (exchange manner verbose) ++ [.ask manner.prompt] ∧
      (converse manner verbose lines).evaluated = (evaluatedTexts manner lines).length ∧
      ((converse manner verbose lines).ending = .exitCommand ↔ linesBeforeExit manner lines < lines.length) ∧
      (converse manner verbose lines).unread = lines.drop (linesBeforeExit manner lines + 1) := by
  induction lines with
  | nil => simp [converse, linesBeforeExit, evaluatedTexts]
  | cons line rest ih =>
      by_cases leaves : Text.strip line = manner.exitCommand
      · obtain ⟨first, ended⟩ := converse_leave manner verbose line rest leaves
        simp [first, ended, evaluatedTexts]
      · obtain ⟨later, events, evaluated, ending, unread⟩ := converse_stay manner verbose line rest leaves
        obtain ⟨restEvents, restEvaluated, restEnding, restUnread⟩ := ih
        refine ⟨?_, ?_, ?_, ?_⟩
        · rw [later, events, restEvents, List.take_succ_cons, List.flatMap_cons, List.append_assoc]
        · rw [evaluated, restEvaluated, evaluatedTexts, evaluatedTexts, later, List.take_succ_cons,
            List.map_cons, ← List.length_append, ← List.filter_append]
          rfl
        · rw [ending, restEnding, later, List.length_cons, Nat.succ_lt_succ_iff]
        · rw [unread, restUnread, later, List.drop_succ_cons]

theorem run_opening (manner : Manner) (verbose : Bool) (lines : List String) :
    (run manner verbose lines).events =
        (opening manner).map .say ++ (converse manner verbose lines).events ∧
      (run manner verbose lines).evaluated = (converse manner verbose lines).evaluated ∧
      (run manner verbose lines).ending = (converse manner verbose lines).ending ∧
      (run manner verbose lines).unread = (converse manner verbose lines).unread := by
  by_cases shown : manner.banner
  · simp [run, opening, shown]
  · simp [run, opening, shown]

theorem said_texts (texts : List String) : said (texts.map .say) = texts := by
  induction texts with
  | nil => rfl
  | cons text texts ih => simp [said, ih]

-- What is said about a line depends neither on the lines before it nor on whether they had a value.
theorem session_answers_lines (manner : Manner) (verbose : Bool) (lines : List String) :
    (run manner verbose lines).events = (opening manner).map .say ++
        ((lines.take (linesBeforeExit manner lines)).flatMap (exchange manner verbose) ++ [.ask manner.prompt]) ∧
      said (run manner verbose lines).events =
        opening manner ++ (evaluatedTexts manner lines).map (reply manner verbose) ∧
      (∀ text, Answers manner verbose text (reply manner verbose text)) ∧
      (run manner verbose lines).evaluated = (evaluatedTexts manner lines).length ∧
      ((run manner verbose lines).ending = .exitCommand ↔ linesBeforeExit manner lines < lines.length) ∧
      (run manner verbose lines).unread = lines.drop (linesBeforeExit manner lines + 1) := by
  obtain ⟨events, evaluated, ending, unread⟩ := converse_lines manner verbose lines
  obtain ⟨shown, sameCount, sameEnding, sameUnread⟩ := run_opening manner verbose lines
  rw [sameCount, sameEnding, sameUnread]
  refine ⟨by rw [shown, events], ?_, reply_answers manner verbose, evaluated, ending, unread⟩
  rw [shown, events, said_append, said_append, said_texts, said_exchanges, evaluatedTexts]
  simp [said]

end Reckon.Session
