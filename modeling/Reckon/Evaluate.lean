import Reckon.Expr.Compile
import Reckon.Expr.Render
import Reckon.Log
import Reckon.Parse.Basic
import Reckon.Program.Run

set_option autoImplicit false

namespace Reckon

inductive EvalError where
  | parse (failure : Parse.Failure)
  | machine (fault : Program.Fault)
deriving DecidableEq

namespace EvalError

def short : EvalError → String
  | .parse failure => failure.short
  | .machine fault => fault.message

def message : EvalError → String
  | .parse failure => failure.message
  | .machine fault => fault.message

end EvalError

def compile (source : String) : Except Parse.Failure Program :=
  (Parse.parse source).map Expr.compile

def evaluateWith (ops : Arithmetic) (source : String) : Except EvalError Binary64 :=
  match compile source with
  | .error failure => .error (.parse failure)
  | .ok program =>
      match program.execute ops with
      | .ok value => .ok value
      | .error fault => .error (.machine fault)

def evaluate (source : String) : Except EvalError Binary64 :=
  evaluateWith Arithmetic.ieee source

namespace Log

def debug (channel : Channel) (message : String) : Record := ⟨channel, .debug, message⟩

def parsed (tokens : Nat) (tree : Expr) : Record :=
  debug .parsing ("Parsed " ++ tokens.repr ++ " tokens into " ++ tree.render)

def compiled (source : String) (program : Program) : Record :=
  debug .evaluation ("Compiled " ++ Text.quoted source ++ " to " ++ program.length.repr ++
    " instructions")

def executed (program : Program) (value : Binary64) : Record :=
  debug .machine ("Executed " ++ program.length.repr ++ " instructions: " ++
    Layout.log.write value)

def failed (source : String) (error : EvalError) : Record :=
  debug .evaluation ("Evaluation of " ++ Text.quoted source ++ " failed: " ++ error.short)

def parsing (source : String) : List Record :=
  match Parse.parse source with
  | .error _ => []
  | .ok tree => [parsed ((Token.scan source).length - 1) tree]

def compiling (source : String) : List Record :=
  match compile source with
  | .error _ => []
  | .ok program => parsing source ++ [compiled source program]

-- What evaluating a text logs: the stages that it passes, and the failure if one does not.
def evaluation (source : String) : List Record :=
  compiling source ++
    match compile source with
    | .error failure => [failed source (.parse failure)]
    | .ok program =>
        match program.execute Arithmetic.ieee with
        | .ok value => [executed program value]
        | .error fault => [failed source (.machine fault)]

end Log

end Reckon
