import Reckon.CommandLine.Arguments
import Reckon.Console.TokenTable
import Reckon.Expr.Json
import Reckon.Session
import Reckon.Version

set_option autoImplicit false

namespace Reckon.CommandLine

structure Host where
  files : Files.Tree
  -- The level of the log that the environment asks for.
  level : Option String
  input : List String
  width : Nat
  platform : String

structure Report where
  exit : Nat
  output : String
  records : List Log.Record := []
  -- Set if the run came to set it.
  level : Option Log.Level := none

inductive Command where
  | repl (verbose : Bool)
  | eval (expression : String)
  | tokens (expression : String)
  | ast (json : Bool) (expression : String)
  | bytecode (expression : String)
deriving DecidableEq

def verboseOption : Opt := ⟨"verbose", some 'V', false⟩

def jsonOption : Opt := ⟨"json", none, false⟩

def versionOption : Opt := ⟨"version", some 'v', false⟩

def configOption : Opt := ⟨"config", some 'c', true⟩

def noArgument (arguments : Arguments) : Except Misuse Unit :=
  match arguments.others with
  | [] => .ok ()
  | _ => .error .surplusArgument

def oneArgument (arguments : Arguments) : Except Misuse String :=
  match arguments.others with
  | [] => .error .missingArgument
  | [argument] => .ok argument
  | _ => .error .surplusArgument

-- A command is found by its name before its arguments are read.
def command? (name : String) : Option (List String → Except Misuse Command) :=
  let withExpression (make : String → Command) (arguments : List String) : Except Misuse Command :=
    (Arguments.read [] true arguments).bind fun found => (oneArgument found).map make
  match name with
  | "repl" => some fun arguments =>
      (Arguments.read [verboseOption] true arguments).bind fun found =>
        (noArgument found).map fun _ => .repl (found.has verboseOption)
  | "eval" => some (withExpression .eval)
  | "tokens" => some (withExpression .tokens)
  | "ast" => some fun arguments =>
      (Arguments.read [jsonOption] true arguments).bind fun found =>
        (oneArgument found).map (.ast (found.has jsonOption))
  | "bytecode" => some (withExpression .bytecode)
  | _ => none

def evalCommand (width : Nat) (expression : String) : Report :=
  let records := Log.evaluation expression
  match evaluate expression with
  | .ok value => ⟨0, Console.print width value.format, records, none⟩
  | .error error => ⟨1, Console.print width error.message, records, none⟩

def tokensCommand (width : Nat) (expression : String) : Report :=
  ⟨0, Console.tokenTable width (Token.scan expression), [], none⟩

-- JSON goes out as it is, without the layout of the console.
def astCommand (width : Nat) (json : Bool) (expression : String) : Report :=
  let records := Log.parsing expression
  match Parse.parse expression with
  | .error failure => ⟨1, Console.print width failure.message, records, none⟩
  | .ok tree =>
      if json then
        match tree.dump? (.indented 2) with
        | some text => ⟨0, text ++ "\n", records, none⟩
        | none =>
            ⟨1, Console.print width ("Cannot dump tree as JSON: " ++ Expr.dumpFault), records, none⟩
      else ⟨0, Console.print width tree.render, records, none⟩

def bytecodeCommand (width : Nat) (expression : String) : Report :=
  let records := Log.compiling expression
  match compile expression with
  | .error failure => ⟨1, Console.print width failure.message, records, none⟩
  | .ok program => ⟨0, Console.print width program.listing, records, none⟩

def replCommand (host : Host) (manner : Session.Manner) (verbose : Bool) : Report :=
  let (pieces, records) := Session.command host.width manner verbose false host.input
  ⟨0, String.join pieces, records, none⟩

def Command.run (host : Host) (settings : Settings) : Command → Report
  | .repl verbose => replCommand host settings.manner verbose
  | .eval expression => evalCommand host.width expression
  | .tokens expression => tokensCommand host.width expression
  | .ast json expression => astCommand host.width json expression
  | .bytecode expression => bytecodeCommand host.width expression

-- A misuse is explained elsewhere; nothing is shown.
def misused : Report := ⟨2, "", [], none⟩

def versionText (platform : String) : String :=
  Version.programName ++ " " ++ Version.current ++ "\n" ++ platform ++ "\n"

def versionReport (host : Host) : Report := ⟨0, versionText host.platform, [], none⟩

def globalOptions : List Opt := [versionOption, configOption]

def settingsFor (host : Host) (options : Arguments) : Except Settings.Failure Settings :=
  match options.value? configOption with
  | some path => Settings.load host.files (.ofString path)
  | none => Settings.find host.files (.ofString "")

inductive Request where
  | done (report : Report)
  | perform (settings : Settings) (level : Log.Level) (command : Command)

-- The level of the log is set before the arguments of the command are read.
def requestCommand (host : Host) (options : Arguments)
    (command : List String → Except Misuse Command) (arguments : List String) :
    Except Settings.Failure Request :=
  match settingsFor host options with
  | .error failure =>
      if failure.isReported then
        .ok (.done ⟨2, Console.print host.width failure.message, [], none⟩)
      else .error failure
  | .ok settings =>
      let level := settings.effectiveLevel host.level
      match command arguments with
      | .ok command => .ok (.perform settings level command)
      | .error _ => .ok (.done { misused with level := some level })

/-- Where no command has the name, the arguments are read for options once more, so that the version
is shown also if it is asked for behind two dashes. -/
def unknownCommand (host : Host) (arguments : List String) : Report :=
  match Arguments.read globalOptions false arguments with
  | .ok options => if options.has versionOption then versionReport host else misused
  | .error _ => misused

def request (host : Host) (arguments : List String) : Except Settings.Failure Request :=
  match Arguments.read globalOptions false arguments with
  | .error _ => .ok (.done misused)
  | .ok options =>
      if options.has versionOption then .ok (.done (versionReport host))
      else match options.others with
      | [] => .ok (.done misused)
      | name :: rest =>
          match command? name with
          | none => .ok (.done (unknownCommand host options.others))
          | some command => requestCommand host options command rest

def Request.answer (host : Host) : Request → Report
  | .done report => report
  | .perform settings level command =>
      let report := command.run host settings
      { report with records := Log.atLeast level report.records, level := some level }

def run (host : Host) (arguments : List String) : Except Settings.Failure Report :=
  (request host arguments).map (·.answer host)

end Reckon.CommandLine
