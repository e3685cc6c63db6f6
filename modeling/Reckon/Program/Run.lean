import Reckon.Binary64.Arith
import Reckon.Program.Basic

set_option autoImplicit false

namespace Reckon

structure Arithmetic where
  negate : Binary64 → Binary64
  apply : Operator → Binary64 → Binary64 → Binary64

-- Division by zero gives infinities and NaN, and the remainder has the sign of the dividend.
def Arithmetic.ieee : Arithmetic where
  negate := Binary64.neg
  apply
    | .add => Binary64.add
    | .sub => Binary64.sub
    | .mul => Binary64.mul
    | .div => Binary64.div
    | .mod => Binary64.rem

namespace Program

inductive Fault where
  | underflow (index : Nat) (instr : Instr)
  | noResult
  | residue (depth : Nat)
deriving DecidableEq

def Fault.message : Fault → String
  | .underflow index instr =>
      "Stack underflow at instruction " ++ index.repr ++ " (" ++ instr.display ++ ")"
  | .noResult => "Stack underflow: no result left on the stack"
  | .residue depth => "Stack had " ++ depth.repr ++ " residual values after execution"

-- The right operand is on top; `none` if the stack holds too few values.
def step (ops : Arithmetic) : Instr → List Binary64 → Option (List Binary64)
  | .push value, stack => some (value :: stack)
  | .negate, value :: stack => some (ops.negate value :: stack)
  | .operate op, right :: left :: stack => some (ops.apply op left right :: stack)
  | _, _ => none

def runFrom (ops : Arithmetic) (index : Nat) :
    Program → List Binary64 → Except Fault (List Binary64)
  | [], stack => .ok stack
  | instr :: program, stack =>
      match step ops instr stack with
      | some stack => runFrom ops (index + 1) program stack
      | none => .error (.underflow index instr)

def result : List Binary64 → Except Fault Binary64
  | [value] => .ok value
  | [] => .error .noResult
  | stack => .error (.residue stack.length)

def execute (ops : Arithmetic) (program : Program) : Except Fault Binary64 :=
  match runFrom ops 0 program [] with
  | .ok stack => result stack
  | .error fault => .error fault

end Program

end Reckon
