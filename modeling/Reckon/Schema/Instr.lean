import Reckon.Program.Basic
import Reckon.Schema.Issue

set_option autoImplicit false

namespace Reckon.Schema

-- The names of instructions, with the constant of a push still open.
inductive Opcode where
  | push
  | negate
  | operate (op : Operator)

def Opcode.all : List Opcode := .push :: .negate :: Operator.all.map .operate

def Opcode.name : Opcode → String
  | .push => (Instr.push .zero).name
  | .negate => Instr.negate.name
  | .operate op => (Instr.operate op).name

def optionalNumber : Json → Checked (Option Binary64)
  | .null => .ok none
  | json => (number json).map some

def operand (members : List (String × Json)) : Checked (Option Binary64) :=
  match Json.member? members "operand" with
  | some json => under "operand" (optionalNumber json)
  | none => .ok none

def instr (members : List (String × Json)) : Checked Instr :=
  match both (field members "op" (choice Opcode.all Opcode.name)) (operand members) with
  | .error issues => .error issues
  | .ok (.push, some value) => .ok (.push value)
  | .ok (.negate, none) => .ok .negate
  | .ok (.operate op, none) => .ok (.operate op)
  | .ok (.push, none) => fail (.inconsistent (Opcode.push.name ++ " requires an operand"))
  | .ok (opcode, some _) => fail (.inconsistent (opcode.name ++ " takes no operand"))

end Reckon.Schema
