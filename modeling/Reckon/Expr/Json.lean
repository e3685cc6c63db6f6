import Reckon.Expr.Basic
import Reckon.Json.Printer

set_option autoImplicit false

namespace Reckon.Expr

def maxJsonHeight : Nat := 253

def toJson : Expr → Json
  | .literal value => .obj [("value", .float value)]
  | .unary sign operand => .obj [("op", .str sign.symbol), ("operand", operand.toJson)]
  | .binary op left right =>
      .obj [("op", .str op.symbol), ("left", left.toJson), ("right", right.toJson)]

def dump? (style : Json.Style) (tree : Expr) : Option String :=
  if tree.height ≤ maxJsonHeight then some (tree.toJson.print style) else none

def dumpFault : String :=
  "Error serializing to JSON: ValueError: Maximum serialization depth exceeded"

end Reckon.Expr
