import Reckon.Proofs.Grammar

set_option autoImplicit false

namespace Reckon.Parse

-- As long as the furthest position is negative, no failure needs to be on record.
structure Ledger where
  depth : Nat
  furthest : Int
  failure : Option Error

namespace Ledger

def Noted (ledger : Ledger) : Prop := 0 ≤ ledger.furthest → ledger.failure.isSome

def enter (ledger : Ledger) : Ledger := ⟨ledger.depth + 1, ledger.furthest, ledger.failure⟩

def leave (ledger : Ledger) : Ledger := ⟨ledger.depth - 1, ledger.furthest, ledger.failure⟩

def fail (source : Option String) (ledger : Ledger) (pos : Nat) (token : Token) (cause : Cause) :
    Ledger :=
  if ledger.furthest < pos then ⟨ledger.depth, pos, some ⟨cause, pos, token, source⟩⟩ else ledger

end Ledger

inductive Ending where
  | matched (tree : Expr) (stop : Nat) (ledger : Ledger)
  | unmatched (ledger : Ledger)
  | tooDeep (pos : Nat)

-- What a sign makes of the ending of its operand.
def Ending.signed (sign : Sign) : Ending → Ending
  | .matched tree stop ledger => .matched (.unary sign tree) stop ledger.leave
  | .unmatched ledger => .unmatched ledger.leave
  | .tooDeep pos => .tooDeep pos

-- The tail of a chain has its operands so far as the tree on the left.
inductive Call where
  | rule (category : Category) (pos : Nat)
  | tail (level : Level) (left : Expr) (pos : Nat)

def misfit (token : Token) : Cause :=
  if token.kind = .malformed then .invalidToken else .noExpression

section

variable (limit : Nat) (tokens : List Token) (source : Option String)

-- Each look at the tokens is a lookup, and no rule goes on from one that misses.
inductive Runs : Call → Ledger → Ending → Prop where
  | chain {level : Level} {pos next : Nat} {left : Expr} {ledger middle : Ledger} {ending : Ending}
      (first : Runs (.rule level.operands pos) ledger (.matched left next middle))
      (others : Runs (.tail level left next) middle ending) :
      Runs (.rule (.chain level) pos) ledger ending
  | chainFails {level : Level} {pos : Nat} {ledger after : Ledger}
      (first : Runs (.rule level.operands pos) ledger (.unmatched after)) :
      Runs (.rule (.chain level) pos) ledger (.unmatched after)
  | chainDeep {level : Level} {pos deep : Nat} {ledger : Ledger}
      (first : Runs (.rule level.operands pos) ledger (.tooDeep deep)) :
      Runs (.rule (.chain level) pos) ledger (.tooDeep deep)
  | tailEnds {level : Level} {pos : Nat} {left : Expr} {ledger : Ledger} {token : Token}
      (here : tokens[pos]? = some token) (absent : level.operator? token = none) :
      Runs (.tail level left pos) ledger (.matched left pos ledger)
  | tailMore {level : Level} {pos next : Nat} {left right : Expr} {op : Operator}
      {ledger middle : Ledger} {token : Token} {ending : Ending}
      (here : tokens[pos]? = some token) (found : level.operator? token = some op)
      (operand : Runs (.rule level.operands (pos + 1)) ledger (.matched right next middle))
      (others : Runs (.tail level (.binary op left right) next) middle ending) :
      Runs (.tail level left pos) ledger ending
  -- The operator without an operand is left where it stands, but the failure stays on record.
  | tailBreaks {level : Level} {pos : Nat} {left : Expr} {op : Operator} {ledger after : Ledger}
      {token : Token} (here : tokens[pos]? = some token) (found : level.operator? token = some op)
      (operand : Runs (.rule level.operands (pos + 1)) ledger (.unmatched after)) :
      Runs (.tail level left pos) ledger (.matched left pos after)
  | tailDeep {level : Level} {pos deep : Nat} {left : Expr} {op : Operator} {ledger : Ledger}
      {token : Token} (here : tokens[pos]? = some token) (found : level.operator? token = some op)
      (operand : Runs (.rule level.operands (pos + 1)) ledger (.tooDeep deep)) :
      Runs (.tail level left pos) ledger (.tooDeep deep)
  | unsigned {pos : Nat} {ledger : Ledger} {token : Token} {ending : Ending}
      (here : tokens[pos]? = some token) (absent : sign? token = none)
      (inner : Runs (.rule .primary pos) ledger ending) : Runs (.rule .signed pos) ledger ending
  | signed {pos : Nat} {sign : Sign} {ledger : Ledger} {token : Token} {inner : Ending}
      (here : tokens[pos]? = some token) (found : sign? token = some sign)
      (room : ledger.depth < limit) (operand : Runs (.rule .signed (pos + 1)) ledger.enter inner) :
      Runs (.rule .signed pos) ledger (inner.signed sign)
  | signDeep {pos : Nat} {sign : Sign} {ledger : Ledger} {token : Token}
      (here : tokens[pos]? = some token) (found : sign? token = some sign)
      (full : limit ≤ ledger.depth) : Runs (.rule .signed pos) ledger (.tooDeep pos)
  | literal {pos : Nat} {ledger : Ledger} {token : Token} {value : Binary64}
      (here : tokens[pos]? = some token) (isLiteral : token.isLiteral)
      (reads : Numeral.read? token.text = some value) :
      Runs (.rule .primary pos) ledger (.matched (.literal value) (pos + 1) ledger)
  | group {pos stop : Nat} {tree : Expr} {ledger after : Ledger} {token closing : Token}
      (here : tokens[pos]? = some token) (opens : token.isOperator "(") (room : ledger.depth < limit)
      (inner : Runs (.rule (.chain .additive) (pos + 1)) ledger.enter (.matched tree stop after))
      (there : tokens[stop]? = some closing) (closes : closing.isOperator ")") :
      Runs (.rule .primary pos) ledger (.matched tree (stop + 1) after.leave)
  | groupUnclosed {pos stop : Nat} {tree : Expr} {ledger after : Ledger} {token other : Token}
      (here : tokens[pos]? = some token) (opens : token.isOperator "(") (room : ledger.depth < limit)
      (inner : Runs (.rule (.chain .additive) (pos + 1)) ledger.enter (.matched tree stop after))
      (there : tokens[stop]? = some other) (unclosed : ¬ other.isOperator ")") :
      Runs (.rule .primary pos) ledger
        (.unmatched (after.leave.fail source stop other (.unclosed token.pos)))
  | groupEmpty {pos : Nat} {ledger after : Ledger} {token next : Token}
      (here : tokens[pos]? = some token) (opens : token.isOperator "(") (room : ledger.depth < limit)
      (inner : Runs (.rule (.chain .additive) (pos + 1)) ledger.enter (.unmatched after))
      (there : tokens[pos + 1]? = some next) :
      Runs (.rule .primary pos) ledger
        (.unmatched (after.leave.fail source (pos + 1) next (.emptyGroup token.pos)))
  | groupInnerDeep {pos deep : Nat} {ledger : Ledger} {token : Token}
      (here : tokens[pos]? = some token) (opens : token.isOperator "(") (room : ledger.depth < limit)
      (inner : Runs (.rule (.chain .additive) (pos + 1)) ledger.enter (.tooDeep deep)) :
      Runs (.rule .primary pos) ledger (.tooDeep deep)
  | groupDeep {pos : Nat} {ledger : Ledger} {token : Token}
      (here : tokens[pos]? = some token) (opens : token.isOperator "(") (full : limit ≤ ledger.depth) :
      Runs (.rule .primary pos) ledger (.tooDeep pos)
  | misfit {pos : Nat} {ledger : Ledger} {token : Token} (here : tokens[pos]? = some token)
      (notLiteral : ¬ token.isLiteral) (notOpening : ¬ token.isOperator "(") :
      Runs (.rule .primary pos) ledger (.unmatched (ledger.fail source pos token (misfit token)))

end

-- A second run goes by the same rule: the token at the position, the depth and the endings of the
-- calls inside exclude the other rules.
theorem runs_unique (limit : Nat) (tokens : List Token) (source : Option String) (call : Call)
    (ledger : Ledger) (ending other : Ending) (run : Runs limit tokens source call ledger ending)
    (otherRun : Runs limit tokens source call ledger other) : ending = other := by
  induction run generalizing other with
  | chain first others ihFirst ihOthers =>
      cases otherRun with
      | chain otherFirst otherOthers =>
          cases ihFirst _ otherFirst
          exact ihOthers _ otherOthers
      | chainFails otherFirst => cases ihFirst _ otherFirst
      | chainDeep otherFirst => cases ihFirst _ otherFirst
  | chainFails first ih =>
      cases otherRun with
      | chain otherFirst otherOthers => cases ih _ otherFirst
      | chainFails otherFirst => exact ih _ otherFirst
      | chainDeep otherFirst => cases ih _ otherFirst
  | chainDeep first ih =>
      cases otherRun with
      | chain otherFirst otherOthers => cases ih _ otherFirst
      | chainFails otherFirst => cases ih _ otherFirst
      | chainDeep otherFirst => exact ih _ otherFirst
  | tailEnds here absent =>
      cases otherRun with
      | tailEnds => rfl
      | _ => grind
  | tailMore here found operand others ihOperand ihOthers =>
      cases otherRun with
      | tailMore there otherFound otherOperand otherOthers =>
          cases here.symm.trans there
          cases found.symm.trans otherFound
          cases ihOperand _ otherOperand
          exact ihOthers _ otherOthers
      | tailBreaks there otherFound otherOperand => cases ihOperand _ otherOperand
      | tailDeep there otherFound otherOperand => cases ihOperand _ otherOperand
      | tailEnds there absent => grind
  | tailBreaks here found operand ih =>
      cases otherRun with
      | tailBreaks there otherFound otherOperand =>
          cases ih _ otherOperand
          rfl
      | tailMore there otherFound otherOperand otherOthers => cases ih _ otherOperand
      | tailDeep there otherFound otherOperand => cases ih _ otherOperand
      | tailEnds there absent => grind
  | tailDeep here found operand ih =>
      cases otherRun with
      | tailDeep there otherFound otherOperand => exact ih _ otherOperand
      | tailMore there otherFound otherOperand otherOthers => cases ih _ otherOperand
      | tailBreaks there otherFound otherOperand => cases ih _ otherOperand
      | tailEnds there absent => grind
  | unsigned here absent inner ih =>
      cases otherRun with
      | unsigned there otherAbsent otherInner => exact ih _ otherInner
      | _ => grind
  | signed here found room operand ih =>
      cases otherRun with
      | signed there otherFound otherRoom otherOperand =>
          cases here.symm.trans there
          cases found.symm.trans otherFound
          rw [ih _ otherOperand]
      | _ => grind
  | signDeep here found full =>
      cases otherRun with
      | signDeep => rfl
      | _ => grind
  | literal here isLiteral reads =>
      cases otherRun with
      | literal there otherLiteral otherReads =>
          cases here.symm.trans there
          cases reads.symm.trans otherReads
          rfl
      | _ => grind [literal_not_operator]
  | group here opens room inner there closes ih =>
      cases otherRun with
      | group otherHere otherOpens otherRoom otherInner otherThere otherCloses =>
          cases ih _ otherInner
          rfl
      | _ => grind [literal_not_operator]
  | groupUnclosed here opens room inner there unclosed ih =>
      cases otherRun with
      | groupUnclosed otherHere otherOpens otherRoom otherInner otherThere otherUnclosed =>
          cases ih _ otherInner
          cases here.symm.trans otherHere
          cases there.symm.trans otherThere
          rfl
      | _ => grind [literal_not_operator]
  | groupEmpty here opens room inner there ih =>
      cases otherRun with
      | groupEmpty otherHere otherOpens otherRoom otherInner otherThere =>
          cases ih _ otherInner
          cases here.symm.trans otherHere
          cases there.symm.trans otherThere
          rfl
      | _ => grind [literal_not_operator]
  | groupInnerDeep here opens room inner ih =>
      cases otherRun with
      | groupInnerDeep otherHere otherOpens otherRoom otherInner => exact ih _ otherInner
      | _ => grind [literal_not_operator]
  | groupDeep here opens full =>
      cases otherRun with
      | groupDeep => rfl
      | _ => grind [literal_not_operator]
  | misfit here notLiteral notOpening =>
      cases otherRun with
      | misfit there =>
          cases here.symm.trans there
          rfl
      | _ => grind

structure Follows (before after : Ledger) : Prop where
  depth : after.depth = before.depth
  furthest : before.furthest ≤ after.furthest
  noted : after.Noted

def Call.pos : Call → Nat
  | .rule _ pos | .tail _ _ pos => pos

-- Where a call stops at the earliest: the tail of a chain where it starts, a rule behind that.
def Call.least : Call → Nat
  | .rule _ pos => pos + 1
  | .tail _ _ pos => pos

-- The end mark stands at `last`. Where the nesting is too deep there is no ledger to speak of.
def Framed (last : Nat) (call : Call) (ledger : Ledger) : Ending → Prop
  | .matched _ stop after => Follows ledger after ∧ call.least ≤ stop ∧ stop ≤ last
  | .unmatched after => Follows ledger after ∧ call.pos ≤ after.furthest ∧ after.failure.isSome
  | .tooDeep _ => True

theorem follows_self (ledger : Ledger) (noted : ledger.Noted) : Follows ledger ledger :=
  ⟨rfl, Int.le_refl _, noted⟩

theorem follows_trans (first second third : Ledger) (one : Follows first second)
    (two : Follows second third) : Follows first third :=
  ⟨two.depth.trans one.depth, Int.le_trans one.furthest two.furthest, two.noted⟩

theorem follows_leave (before after : Ledger) (inner : Follows before.enter after) :
    Follows before after.leave := by
  refine ⟨?_, inner.furthest, inner.noted⟩
  have depth : after.depth = before.depth + 1 := inner.depth
  rw [Ledger.leave, depth, Nat.add_sub_cancel]

theorem fail_further (source : Option String) (ledger : Ledger) (pos : Nat) (token : Token)
    (cause : Cause) (further : ledger.furthest < pos) :
    ledger.fail source pos token cause = ⟨ledger.depth, pos, some ⟨cause, pos, token, source⟩⟩ :=
  if_pos further

theorem fail_nearer (source : Option String) (ledger : Ledger) (pos : Nat) (token : Token)
    (cause : Cause) (nearer : ¬ ledger.furthest < pos) : ledger.fail source pos token cause = ledger :=
  if_neg nearer

theorem fail_noted (source : Option String) (ledger : Ledger) (pos : Nat) (token : Token)
    (cause : Cause) (noted : ledger.Noted) :
    Follows ledger (ledger.fail source pos token cause) ∧
      pos ≤ (ledger.fail source pos token cause).furthest ∧
      (ledger.fail source pos token cause).failure.isSome := by
  by_cases further : ledger.furthest < pos
  · rw [fail_further source ledger pos token cause further]
    exact ⟨⟨rfl, Int.le_of_lt further, fun _ => rfl⟩, Int.le_refl _, rfl⟩
  · rw [fail_nearer source ledger pos token cause further]
    have reached : (pos : Int) ≤ ledger.furthest := Int.not_lt.mp further
    exact ⟨follows_self ledger noted, reached, noted (by omega)⟩

theorem framed_fail (last : Nat) (source : Option String) (call : Call) (before ledger : Ledger)
    (pos : Nat) (token : Token) (cause : Cause) (follows : Follows before ledger)
    (later : call.pos ≤ pos) :
    Framed last call before (.unmatched (ledger.fail source pos token cause)) := by
  obtain ⟨failed, reached, recorded⟩ := fail_noted source ledger pos token cause follows.noted
  exact ⟨follows_trans _ _ _ follows failed, by omega, recorded⟩

-- A call that goes over into a later one may end as that one does.
theorem framed_later (last : Nat) (call later : Call) (ledger middle : Ledger) (ending : Ending)
    (follows : Follows ledger middle) (pos : call.pos ≤ later.pos) (least : call.least ≤ later.least)
    (framed : Framed last later middle ending) : Framed last call ledger ending := by
  cases ending with
  | matched tree stop after =>
      obtain ⟨rest, started, stopped⟩ := framed
      exact ⟨follows_trans _ _ _ follows rest, Nat.le_trans least started, stopped⟩
  | unmatched after =>
      obtain ⟨rest, reached, recorded⟩ := framed
      exact ⟨follows_trans _ _ _ follows rest, by omega, recorded⟩
  | tooDeep deep => trivial

theorem framed_signed (last : Nat) (sign : Sign) (pos : Nat) (ledger : Ledger) (inner : Ending)
    (framed : Framed last (.rule .signed (pos + 1)) ledger.enter inner) :
    Framed last (.rule .signed pos) ledger (inner.signed sign) := by
  cases inner with
  | matched tree stop after =>
      obtain ⟨follows, started, stopped⟩ := framed
      exact ⟨follows_leave _ _ follows, Nat.le_of_succ_le started, stopped⟩
  | unmatched after =>
      obtain ⟨follows, reached, recorded⟩ := framed
      have behind : ((pos + 1 : Nat) : Int) ≤ after.leave.furthest := reached
      have passed : (pos : Int) ≤ after.leave.furthest := by omega
      exact ⟨follows_leave _ _ follows, passed, recorded⟩
  | tooDeep deep => trivial

section

variable (limit : Nat) (body : List Token) (endMark : Token) (source : Option String)

theorem lookup_within (pos : Nat) (token : Token) (here : (body ++ [endMark])[pos]? = some token) :
    pos ≤ body.length := by
  have bound := (List.getElem?_eq_some_iff.mp here).1
  rw [List.length_append, List.length_singleton] at bound
  exact Nat.le_of_lt_succ bound

theorem lookup_found (pos : Nat) (within : pos ≤ body.length) :
    ∃ token, (body ++ [endMark])[pos]? = some token := by
  have bound : pos < (body ++ [endMark]).length := by
    rw [List.length_append, List.length_singleton]
    exact Nat.lt_succ_of_le within
  exact ⟨_, List.getElem?_eq_getElem bound⟩

-- Behind the body there is only the mark.
theorem lookup_inside (ends : endMark.kind = .eof) (pos : Nat) (token : Token)
    (here : (body ++ [endMark])[pos]? = some token) (other : token.kind ≠ .eof) :
    pos < body.length := by
  by_cases inside : pos < body.length
  · exact inside
  · have atEnd : pos = body.length :=
      Nat.le_antisymm (lookup_within body endMark pos token here) (Nat.not_lt.mp inside)
    rw [atEnd, List.getElem?_concat_length] at here
    cases here
    exact absurd ends other

theorem spelled_not_end (token : Token) (spelling : String) (spelled : token.isOperator spelling) :
    token.kind ≠ .eof := by
  rw [((operator_token token spelling).mp spelled).1]
  decide

theorem literal_not_end (token : Token) (isLiteral : token.isLiteral) : token.kind ≠ .eof := by
  intro ends
  rw [Token.isLiteral, ends] at isLiteral
  cases isLiteral

-- The calls that a call makes one after the other hand the ledger on; a sign and a parenthesis take
-- back what they entered.
theorem runs_framed (ends : endMark.kind = .eof) (call : Call) (ledger : Ledger) (ending : Ending)
    (run : Runs limit (body ++ [endMark]) source call ledger ending) (noted : ledger.Noted) :
    Framed body.length call ledger ending := by
  induction run with
  | @chain level pos next left ledger middle ending _ _ ihFirst ihOthers =>
      obtain ⟨follows, started, _⟩ := ihFirst noted
      exact framed_later _ _ (.tail level left next) _ _ _ follows (Nat.le_of_succ_le started) started
        (ihOthers follows.noted)
  | chainFails _ ih => exact ih noted
  | chainDeep => trivial
  | tailEnds here =>
      exact ⟨follows_self _ noted, Nat.le_refl _, lookup_within body endMark _ _ here⟩
  | @tailMore level pos next left right op ledger middle token ending _ _ _ _ ihOperand ihOthers =>
      obtain ⟨follows, started, _⟩ := ihOperand noted
      have later : pos ≤ next := Nat.le_of_succ_le (Nat.le_of_succ_le started)
      exact framed_later _ _ (.tail level (.binary op left right) next) _ _ _ follows later later
        (ihOthers follows.noted)
  | tailBreaks here _ _ ih =>
      obtain ⟨follows, _, _⟩ := ih noted
      exact ⟨follows, Nat.le_refl _, lookup_within body endMark _ _ here⟩
  | tailDeep => trivial
  | unsigned _ _ _ ih => exact ih noted
  | signed _ _ _ _ ih => exact framed_signed _ _ _ _ _ (ih noted)
  | signDeep => trivial
  | literal here isLiteral =>
      exact ⟨follows_self _ noted, Nat.le_refl _,
        lookup_inside body endMark ends _ _ here (literal_not_end _ isLiteral)⟩
  | group _ _ _ _ there closes ih =>
      obtain ⟨follows, started, _⟩ := ih noted
      have inside := lookup_inside body endMark ends _ _ there (spelled_not_end _ _ closes)
      exact ⟨follows_leave _ _ follows, Nat.le_succ_of_le (Nat.le_of_succ_le started), inside⟩
  | groupUnclosed _ _ _ _ _ _ ih =>
      obtain ⟨follows, started, _⟩ := ih noted
      exact framed_fail _ _ _ _ _ _ _ _ (follows_leave _ _ follows)
        (Nat.le_of_succ_le (Nat.le_of_succ_le started))
  | groupEmpty _ _ _ _ _ ih =>
      obtain ⟨follows, _, _⟩ := ih noted
      exact framed_fail _ _ _ _ _ _ _ _ (follows_leave _ _ follows) (Nat.le_succ _)
  | groupInnerDeep => trivial
  | groupDeep => trivial
  | misfit => exact framed_fail _ _ _ _ _ _ _ _ (follows_self _ noted) (Nat.le_refl _)

end

end Reckon.Parse
