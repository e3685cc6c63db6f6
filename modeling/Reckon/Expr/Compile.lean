import Reckon.Expr.Walk
import Reckon.Program.Basic

set_option autoImplicit false

namespace Reckon.Expr

-- The code so far is kept in reverse. A plus sign has no instruction.
def emitNode : Expr → Program → Program
  | .literal value, code => .push value :: code
  | .unary .plus _, code => code
  | .unary .minus _, code => .negate :: code
  | .binary op .., code => .operate op :: code

def compile (tree : Expr) : Program := (postorder emitNode tree []).reverse

end Reckon.Expr
