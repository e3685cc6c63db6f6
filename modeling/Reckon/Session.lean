import Reckon.Console.Layout
import Reckon.Evaluate
import Reckon.Settings

set_option autoImplicit false

namespace Reckon.Session

inductive Event where
  | say (text : String)
  | ask (prompt : String)
deriving DecidableEq

inductive Ending where
  | exitCommand
  | endOfInput
deriving DecidableEq

structure Outcome where
  events : List Event
  -- How many lines were evaluated, whether they had a value or not.
  evaluated : Nat
  records : List Log.Record
  ending : Ending
  unread : List String

def bannerText (manner : Manner) : String :=
  "Enter expressions to evaluate, or \"" ++ manner.exitCommand ++ "\" to exit."

def reply (manner : Manner) (verbose : Bool) (line : String) : String :=
  match evaluate line with
  | .ok value => value.format
  | .error error =>
      if verbose || manner.showErrors then error.message else manner.errorMessage

def lineRecords (line : String) : List Log.Record :=
  match evaluate line with
  | .ok _ => Log.evaluation line
  | .error error =>
      Log.evaluation line ++
        [⟨.session, .info, "Failed to evaluate " ++ Text.quoted line ++ ": " ++ error.short⟩]

inductive Turn where
  | leave
  | pass
  | answer (text : String) (records : List Log.Record)

def turn (manner : Manner) (verbose : Bool) (line : String) : Turn :=
  let text := Text.strip line
  if text = manner.exitCommand then .leave
  else if text = "" then .pass
  else .answer (reply manner verbose text) (lineRecords text)

def converse (manner : Manner) (verbose : Bool) : List String → Outcome
  | [] => ⟨[.ask manner.prompt], 0, [], .endOfInput, []⟩
  | line :: rest =>
      match turn manner verbose line with
      | .leave => ⟨[.ask manner.prompt], 0, [], .exitCommand, rest⟩
      | .pass =>
          let next := converse manner verbose rest
          { next with events := .ask manner.prompt :: next.events }
      | .answer text records =>
          let next := converse manner verbose rest
          { next with
            events := .ask manner.prompt :: .say text :: next.events
            evaluated := next.evaluated + 1
            records := records ++ next.records }

def run (manner : Manner) (verbose : Bool) (lines : List String) : Outcome :=
  let outcome := converse manner verbose lines
  if manner.banner then
    { outcome with events := .say (bannerText manner) :: outcome.events }
  else outcome

def inputLines (input : String) : List String :=
  let lines := input.splitOn "\n"
  if lines.getLast? = some "" then lines.dropLast else lines

-- What a console of a given width shows for the events, cut at every question. The piece that is
-- still open is kept in `shown`.
def pieces (width : Nat) : String → List Event → List String
  | shown, [] => [shown]
  | shown, .say text :: events => pieces width (shown ++ Console.print width text) events
  | shown, .ask prompt :: events =>
      (shown ++ Console.layout width prompt) :: pieces width "" events

def closingRecord (evaluated : Nat) : Log.Record :=
  ⟨.session, .debug, "REPL session ended after " ++ evaluated.repr ++ " expressions"⟩

/-- The session as a command: what is shown, and what is logged. If the user interrupts it at the end
of the input, the line is ended and nothing is logged about it. -/
def command (width : Nat) (manner : Manner) (verbose interrupted : Bool) (lines : List String) :
    List String × List Log.Record :=
  let outcome := run manner verbose lines
  if interrupted && outcome.ending == .endOfInput then
    (pieces width "" (outcome.events ++ [.say ""]), outcome.records)
  else
    (pieces width "" outcome.events, outcome.records ++ [closingRecord outcome.evaluated])

end Reckon.Session
