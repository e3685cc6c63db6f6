import Reckon.Proofs.Grammar

set_option autoImplicit false

namespace Reckon.Parse

def matcher (limit : Nat) (category : Category) (tokens : List Token) (state : State) :
    Outcome tokens.length :=
  match category with
  | .primary => primary limit tokens state
  | .signed => signed limit tokens state
  | .chain level => chain limit level tokens state

theorem operand_matcher (limit : Nat) (level : Level) (tokens : List Token) (state : State) :
    operand limit level tokens state = matcher limit level.operands tokens state := by
  cases level <;> rw [operand] <;> rfl

theorem enter_leave (state : State) : state.enter.leave = state := rfl

theorem chain_tail_ends (limit : Nat) (level : Level) (bound : Nat) (left : Expr)
    (rest : List Token) (shorter : rest.length < bound) (state : State)
    (absent : ∀ token tail, rest = token :: tail → level.operator? token = none) :
    chainTail limit level bound left rest shorter state = .matched left rest shorter state := by
  cases rest with
  | nil => rw [chainTail]
  | cons token tail => rw [chainTail, absent token tail rfl]

theorem chain_tail_stops (limit : Nat) (level : Level) (bound : Nat) (left : Expr)
    (rest : List Token) (shorter : rest.length < bound) (state : State)
    (stops : Stops (.chain level) rest) :
    chainTail limit level bound left rest shorter state = .matched left rest shorter state := by
  apply chain_tail_ends
  intro token tail split
  rw [split] at stops
  exact ((chain_stops level token tail).mp stops).1

theorem chain_tail_step (limit : Nat) (level : Level) (bound : Nat) (left right : Expr)
    (op : Operator) (token : Token) (tail rest : List Token)
    (shorter : (token :: tail).length < bound) (less : rest.length < tail.length) (state after : State)
    (found : level.operator? token = some op)
    (operandMatched : operand limit level tail state = .matched right rest less after) :
    chainTail limit level bound left (token :: tail) shorter state =
      chainTail limit level bound (.binary op left right) rest
        (Nat.lt_trans less (Nat.lt_of_succ_lt shorter)) after := by
  rw [chainTail, found]
  simp only [operandMatched]

-- A chain is only said to reach its tail: the tokens after it may be operators of its level, and
-- this is what the derivations of a left fold need of each other.
def Recognized (limit : Nat) (category : Category) (tokens : List Token) (tree : Expr)
    (nesting : Nat) : Prop :=
  ∀ (rest : List Token) (state : State), state.depth + nesting ≤ limit →
    match category with
    | .chain level => Stops level.operands rest → ∃ shorter,
        chain limit level (tokens ++ rest) state =
          chainTail limit level (tokens ++ rest).length tree rest shorter state
    | category => ∃ shorter,
        matcher limit category (tokens ++ rest) state = .matched tree rest shorter state

theorem recognized_matched (limit : Nat) (category : Category) (tokens rest : List Token)
    (tree : Expr) (nesting : Nat) (state : State)
    (recognized : Recognized limit category tokens tree nesting)
    (room : state.depth + nesting ≤ limit) (stops : Stops category rest) :
    ∃ shorter, matcher limit category (tokens ++ rest) state = .matched tree rest shorter state := by
  cases category with
  | primary => exact recognized rest state room
  | signed => exact recognized rest state room
  | chain level =>
      have operandStops : Stops level.operands rest := by
        cases rest with
        | nil => trivial
        | cons token tail => exact ((chain_stops level token tail).mp stops).2
      obtain ⟨shorter, reached⟩ := recognized rest state room operandStops
      refine ⟨shorter, ?_⟩
      rw [matcher, reached, chain_tail_stops limit level _ tree rest shorter state stops]

theorem literal_recognized (limit : Nat) (token : Token) (value : Binary64)
    (isLiteral : token.isLiteral) (reads : Numeral.read? token.text = some value) :
    Recognized limit .primary [token] (.literal value) 0 := by
  intro rest state room
  rw [List.singleton_append]
  refine ⟨Nat.lt_succ_self _, ?_⟩
  rw [matcher, primary, if_pos isLiteral]
  simp only [reads]

theorem group_recognized (limit : Nat) (opening closing : Token) (tokens : List Token) (tree : Expr)
    (nesting : Nat) (opens : opening.isOperator "(") (closes : closing.isOperator ")")
    (inner : Recognized limit (.chain .additive) tokens tree nesting) :
    Recognized limit .primary (opening :: (tokens ++ [closing])) tree (nesting + 1) := by
  intro rest state room
  have notLiteral := operator_not_literal opening "(" opens
  have shallow : ¬ limit ≤ state.depth := by omega
  have innerRoom : state.enter.depth + nesting ≤ limit := by
    simp only [State.enter]
    omega
  obtain ⟨innerShorter, matched⟩ := recognized_matched limit _ tokens (closing :: rest) tree nesting
    state.enter inner innerRoom (closing_stops _ closing rest closes)
  have tokensEq : opening :: (tokens ++ [closing]) ++ rest = opening :: (tokens ++ closing :: rest) := by
    simp
  rw [tokensEq]
  refine ⟨by simp; omega, ?_⟩
  rw [matcher] at matched
  rw [matcher, primary, notLiteral, if_neg Bool.false_ne_true, if_pos opens, if_neg shallow]
  simp only [matched, closes, if_true, enter_leave]

theorem unsigned_recognized (limit : Nat) (tokens : List Token) (tree : Expr) (nesting : Nat)
    (derived : Derives .primary tokens tree nesting)
    (inner : Recognized limit .primary tokens tree nesting) :
    Recognized limit .signed tokens tree nesting := by
  intro rest state room
  obtain ⟨shorter, matched⟩ := inner rest state room
  refine ⟨shorter, ?_⟩
  have primaryFirst : matcher limit .signed (tokens ++ rest) state =
      matcher limit .primary (tokens ++ rest) state := by
    cases derived with
    | literal isLiteral reads =>
        have absent := no_sign _ (fun sign => literal_not_operator _ sign.symbol isLiteral)
        simp only [matcher, List.singleton_append, signed, absent]
    | group opens closes inner =>
        have absent := no_sign _ (fun sign =>
          operator_other _ "(" sign.symbol opens (by cases sign <;> decide))
        simp only [matcher, List.cons_append, signed, absent]
  rw [primaryFirst, matched]

theorem signed_recognized (limit : Nat) (token : Token) (sign : Sign) (tokens : List Token)
    (tree : Expr) (nesting : Nat) (spelled : token.isOperator sign.symbol)
    (inner : Recognized limit .signed tokens tree nesting) :
    Recognized limit .signed (token :: tokens) (.unary sign tree) (nesting + 1) := by
  intro rest state room
  have shallow : ¬ limit ≤ state.depth := by omega
  have innerRoom : state.enter.depth + nesting ≤ limit := by
    simp only [State.enter]
    omega
  obtain ⟨innerShorter, matched⟩ := inner rest state.enter innerRoom
  rw [matcher] at matched
  rw [List.cons_append]
  refine ⟨Nat.lt_succ_of_lt innerShorter, ?_⟩
  rw [matcher, signed, (sign_found token sign).mpr spelled]
  simp only [if_neg shallow, matched, enter_leave]

theorem first_recognized (limit : Nat) (level : Level) (tokens : List Token) (tree : Expr)
    (nesting : Nat) (inner : Recognized limit level.operands tokens tree nesting) :
    Recognized limit (.chain level) tokens tree nesting := by
  intro rest state room stops
  obtain ⟨shorter, matched⟩ := recognized_matched limit _ tokens rest tree nesting state inner room stops
  refine ⟨shorter, ?_⟩
  rw [chain, operand_matcher, matched]

theorem more_recognized (limit : Nat) (level : Level) (op : Operator) (token : Token)
    (before after : List Token) (left right : Expr) (m n : Nat) (member : op ∈ level.operators)
    (spelled : token.isOperator op.symbol)
    (chained : Recognized limit (.chain level) before left m)
    (last : Recognized limit level.operands after right n) :
    Recognized limit (.chain level) (before ++ token :: after) (.binary op left right) (max m n) := by
  intro rest state room stops
  have found := (operator_found level token op).mpr ⟨member, spelled⟩
  obtain ⟨shorter, reached⟩ := chained (token :: (after ++ rest)) state (by omega)
    (operator_stops_operand level op token _ member spelled)
  obtain ⟨less, matched⟩ := recognized_matched limit _ after rest right n state last (by omega) stops
  rw [← operand_matcher] at matched
  rw [List.append_assoc, List.cons_append]
  exact ⟨_, reached.trans (chain_tail_step limit level _ left right op token (after ++ rest) rest shorter
    less state state found matched)⟩

theorem derives_recognized (limit : Nat) (category : Category) (tokens : List Token) (tree : Expr)
    (nesting : Nat) (derived : Derives category tokens tree nesting) :
    Recognized limit category tokens tree nesting := by
  induction derived with
  | literal isLiteral reads => exact literal_recognized limit _ _ isLiteral reads
  | group opens closes _ ih => exact group_recognized limit _ _ _ _ _ opens closes ih
  | unsigned inner ih => exact unsigned_recognized limit _ _ _ inner ih
  | signed spelled _ ih => exact signed_recognized limit _ _ _ _ _ spelled ih
  | first _ ih => exact first_recognized limit _ _ _ _ ih
  | more member spelled _ _ ihChained ihLast =>
      exact more_recognized limit _ _ _ _ _ _ _ _ _ member spelled ihChained ihLast

-- Both trees are what the matchers find under a limit that lets both derivations through.
theorem derives_unique (tokens : List Token) (tree other : Expr) (m n : Nat)
    (derived : Derives (.chain .additive) tokens tree m)
    (otherDerived : Derives (.chain .additive) tokens other n) : tree = other := by
  obtain ⟨shorter, matched⟩ := recognized_matched (max m n) _ tokens [] tree m ⟨0, none⟩
    (derives_recognized _ _ _ _ _ derived) (by simp only; omega) trivial
  obtain ⟨_, otherMatched⟩ := recognized_matched (max m n) _ tokens [] other n ⟨0, none⟩
    (derives_recognized _ _ _ _ _ otherDerived) (by simp only; omega) trivial
  rw [matched] at otherMatched
  injection otherMatched

end Reckon.Parse
