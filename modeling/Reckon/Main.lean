import Reckon.CommandLine.Run

set_option autoImplicit false

namespace Reckon.CommandLine

def entryAt (place : Files.Path) : IO (Option Files.Entry) := do
  match ← (IO.FS.readBinFile place.display).toBaseIO with
  | .ok bytes => return some (.file bytes.toList)
  | .error (.inappropriateType none _ _) => return some .directory
  | .error _ => return none

def entriesTo (path : Files.Path) : IO Files.Tree := do
  let mut place := path.start
  let mut tree : Files.Tree := []
  for name in path.names do
    place := place.enter name
    if let some entry ← entryAt place then tree := tree ++ [(place, entry)]
  return tree

def settingsPath (arguments : List String) : Files.Path :=
  let asked := match Arguments.read globalOptions false arguments with
    | .ok options => options.value? configOption
    | .error _ => none
  .ofString (asked.getD Settings.fileName)

def consoleWidth : IO Nat := do
  let columns := ((← IO.getEnv "COLUMNS").bind String.toNat?).getD 0
  return if columns = 0 then 80 else columns

def hostFor (arguments : List String) : IO Host := do
  let files ← entriesTo (settingsPath arguments)
  return ⟨files, ← IO.getEnv "CALCEVAL_LOG_LEVEL", [], ← consoleWidth, "Lean 4"⟩

def showRecords (records : List Log.Record) : IO Unit := do
  for record in records do
    IO.eprintln (record.level.name ++ " - " ++ record.message)

def showText (text : String) : IO Unit := do
  let out ← IO.getStdout
  out.putStr text
  out.flush

-- Asks for lines until the session ends; `evaluated` lines were evaluated before.
partial def talk (width : Nat) (manner : Session.Manner) (verbose : Bool) (level : Log.Level)
    (evaluated : Nat) : IO Unit := do
  showText (Console.layout width manner.prompt)
  let line ← (← IO.getStdin).getLine
  let finish := showRecords (Log.atLeast level [Session.closingRecord evaluated])
  if line.isEmpty then finish
  else match Session.turn manner verbose line with
  | .leave => finish
  | .pass => talk width manner verbose level evaluated
  | .answer text records =>
      showRecords (Log.atLeast level records)
      showText (Console.print width text)
      talk width manner verbose level (evaluated + 1)

def usage : String := "Usage: calceval [--version] [--config FILE] COMMAND [ARGUMENT]"

def showReport (report : Report) : IO UInt32 := do
  showRecords report.records
  if report.exit = 2 && report.output.isEmpty then IO.eprintln usage
  showText report.output
  return UInt32.ofNat report.exit

def serve (arguments : List String) : IO UInt32 := do
  let host ← hostFor arguments
  match request host arguments with
  | .error failure =>
      IO.eprintln failure.message
      return 1
  | .ok (.perform settings level (.repl verbose)) =>
      if settings.manner.banner then
        showText (Console.print host.width (Session.bannerText settings.manner))
      talk host.width settings.manner verbose level 0
      return 0
  | .ok other => showReport (other.answer host)

end Reckon.CommandLine

def main (arguments : List String) : IO UInt32 := Reckon.CommandLine.serve arguments
