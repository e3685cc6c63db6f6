import Reckon.Decimal.Layout
import Reckon.Expr.Basic

set_option autoImplicit false

namespace Reckon

inductive Instr where
  | push (value : Binary64)
  | negate
  | operate (op : Operator)
deriving DecidableEq

abbrev Program := List Instr

namespace Instr

def operatorName : Operator → String
  | .add => "add"
  | .sub => "subtract"
  | .mul => "multiply"
  | .div => "divide"
  | .mod => "modulo"

def name : Instr → String
  | .push _ => "push_const"
  | .negate => "negate"
  | .operate op => operatorName op

def arity : Instr → Nat
  | .push _ => 0
  | .negate => 1
  | .operate _ => 2

def display : Instr → String
  | .push value => (Instr.push value).name ++ " " ++ value.format
  | instr => instr.name

def numericEq : Instr → Instr → Bool
  | .push a, .push b => a.numericEq b
  | .negate, .negate => true
  | .operate a, .operate b => a == b
  | _, _ => false

end Instr

namespace Program

def numericEq : Program → Program → Bool
  | [], [] => true
  | a :: as, b :: bs => a.numericEq b && numericEq as bs
  | _, _ => false

def listingLine (index : Nat) (instr : Instr) : String :=
  let number := index.repr
  String.ofList (List.replicate (4 - number.length) ' ') ++ number ++ "  " ++ instr.display

def listingLines (program : Program) : List String :=
  program.mapIdx listingLine

def listing (program : Program) : String := "\n".intercalate program.listingLines

end Program

end Reckon
