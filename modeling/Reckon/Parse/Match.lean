import Reckon.Decimal.Numeral
import Reckon.Expr.Basic
import Reckon.Parse.Error

set_option autoImplicit false

namespace Reckon.Parse

structure Mishap where
  rest : List Token
  cause : Cause
deriving DecidableEq

structure State where
  depth : Nat
  furthest : Option Mishap
deriving DecidableEq

-- The furthest mishap is kept, and of two at one point the first.
def State.note (state : State) (rest : List Token) (cause : Cause) : State :=
  match state.furthest with
  | none => ⟨state.depth, some ⟨rest, cause⟩⟩
  | some mishap =>
      if rest.length < mishap.rest.length then ⟨state.depth, some ⟨rest, cause⟩⟩ else state

def State.enter (state : State) : State := ⟨state.depth + 1, state.furthest⟩

def State.leave (state : State) : State := ⟨state.depth - 1, state.furthest⟩

inductive Abort where
  | tooDeep (rest : List Token)
  | notANumber (text : String)
deriving DecidableEq

-- What is left is shorter than `bound`.
inductive Outcome (bound : Nat) where
  | matched (tree : Expr) (rest : List Token) (shorter : rest.length < bound) (state : State)
  | unmatched (state : State)
  | aborted (reason : Abort)

inductive Level where
  | additive
  | multiplicative
deriving DecidableEq

def Level.operators : Level → List Operator
  | .additive => [.add, .sub]
  | .multiplicative => [.mul, .div, .mod]

def Level.operator? (level : Level) (token : Token) : Option Operator :=
  level.operators.find? fun op => token.isOperator op.symbol

def sign? (token : Token) : Option Sign :=
  Sign.all.find? fun sign => token.isOperator sign.symbol

def Level.rank : Level → Nat
  | .additive => 4
  | .multiplicative => 2

-- additive       = multiplicative (("+" | "-") multiplicative)*
-- multiplicative = signed (("*" | "/" | "%") signed)*
-- signed         = ("+" | "-") signed | primary
-- primary        = number | "(" additive ")"
-- A chain ends at the first operator whose right operand does not match, and leaves it unread.
mutual

def chain (limit : Nat) (level : Level) (tokens : List Token) (state : State) : Outcome tokens.length :=
  match operand limit level tokens state with
  | .matched left rest shorter state => chainTail limit level tokens.length left rest shorter state
  | .unmatched state => .unmatched state
  | .aborted reason => .aborted reason
termination_by (tokens.length, level.rank + 1)

def chainTail (limit : Nat) (level : Level) (bound : Nat) (left : Expr) (tokens : List Token)
    (shorter : tokens.length < bound) (state : State) : Outcome bound :=
  match tokens, shorter with
  | [], shorter => .matched left [] shorter state
  | token :: tail, shorter =>
      match level.operator? token with
      | none => .matched left (token :: tail) shorter state
      | some op =>
          match operand limit level tail state with
          | .matched right rest less state =>
              chainTail limit level bound (.binary op left right) rest
                (Nat.lt_trans less (Nat.lt_of_succ_lt shorter)) state
          | .unmatched state => .matched left (token :: tail) shorter state
          | .aborted reason => .aborted reason
termination_by (tokens.length, level.rank + 1)

def operand (limit : Nat) (level : Level) (tokens : List Token) (state : State) :
    Outcome tokens.length :=
  match level with
  | .additive => chain limit .multiplicative tokens state
  | .multiplicative => signed limit tokens state
termination_by (tokens.length, level.rank)
decreasing_by
  · exact Prod.Lex.right _ (by decide)
  · exact Prod.Lex.right _ (by decide)

def signed (limit : Nat) (tokens : List Token) (state : State) : Outcome tokens.length :=
  match tokens with
  | [] => primary limit [] state
  | token :: tail =>
      match sign? token with
      | none => primary limit (token :: tail) state
      | some sign =>
          if limit ≤ state.depth then .aborted (.tooDeep (token :: tail))
          else
            match signed limit tail state.enter with
            | .matched tree rest less state =>
                .matched (.unary sign tree) rest (Nat.lt_succ_of_lt less) state.leave
            | .unmatched state => .unmatched state.leave
            | .aborted reason => .aborted reason
termination_by (tokens.length, 1)

def primary (limit : Nat) (tokens : List Token) (state : State) : Outcome tokens.length :=
  match tokens with
  | [] => .unmatched (state.note [] .noExpression)
  | token :: tail =>
      if token.isLiteral then
        match Numeral.read? token.text with
        | some value => .matched (.literal value) tail (Nat.lt_succ_self _) state
        | none => .aborted (.notANumber token.text)
      else if token.isOperator "(" then
        if limit ≤ state.depth then .aborted (.tooDeep (token :: tail))
        else
          match chain limit .additive tail state.enter with
          | .matched tree (close :: rest) less state =>
              if close.isOperator ")" then
                .matched tree rest (Nat.lt_succ_of_lt (Nat.lt_of_succ_lt less)) state.leave
              else .unmatched (state.leave.note (close :: rest) (.unclosed token.pos))
          | .matched _ [] _ state => .unmatched (state.leave.note [] (.unclosed token.pos))
          | .unmatched state => .unmatched (state.leave.note tail (.emptyGroup token.pos))
          | .aborted reason => .aborted reason
      else if token.kind = .malformed then
        .unmatched (state.note (token :: tail) .invalidToken)
      else .unmatched (state.note (token :: tail) .noExpression)
termination_by (tokens.length, 0)

end

end Reckon.Parse
