import Reckon.Binary64.Basic

set_option autoImplicit false

namespace Reckon

inductive Sign where
  | plus
  | minus
deriving DecidableEq

inductive Operator where
  | add
  | sub
  | mul
  | div
  | mod
deriving DecidableEq

inductive Expr where
  | literal (value : Binary64)
  | unary (sign : Sign) (operand : Expr)
  | binary (op : Operator) (left right : Expr)
deriving DecidableEq

-- Classes of binding strength, tightest first.
inductive Precedence where
  | primary
  | unary
  | multiplicative
  | additive
deriving DecidableEq

namespace Precedence

def looseness : Precedence → Nat
  | .primary => 0
  | .unary => 1
  | .multiplicative => 2
  | .additive => 3

end Precedence

namespace Sign

def symbol : Sign → String
  | .plus => "+"
  | .minus => "-"

def all : List Sign := [.plus, .minus]

def ofSymbol? (symbol : String) : Option Sign := all.find? (·.symbol == symbol)

end Sign

namespace Operator

def symbol : Operator → String
  | .add => "+"
  | .sub => "-"
  | .mul => "*"
  | .div => "/"
  | .mod => "%"

def all : List Operator := [.add, .sub, .mul, .div, .mod]

def ofSymbol? (symbol : String) : Option Operator := all.find? (·.symbol == symbol)

def precedence : Operator → Precedence
  | .add | .sub => .additive
  | .mul | .div | .mod => .multiplicative

end Operator

namespace Expr

def precedence : Expr → Precedence
  | .literal _ => .primary
  | .unary .. => .unary
  | .binary op .. => op.precedence

def size : Expr → Nat
  | .literal _ => 1
  | .unary _ operand => operand.size + 1
  | .binary _ left right => left.size + right.size + 1

def height : Expr → Nat
  | .literal _ => 0
  | .unary _ operand => operand.height + 1
  | .binary _ left right => max left.height right.height + 1

end Expr

end Reckon
