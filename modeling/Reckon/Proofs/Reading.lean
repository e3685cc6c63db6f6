import Reckon.Proofs.Grammar

set_option autoImplicit false

namespace Reckon.Parse

-- Reading keeps no tree and never goes back: all it knows is whether an operand comes next and what
-- encloses the point.
inductive Enclosure where
  | group (pos : Int)
  | sign
deriving DecidableEq

-- The levels that enclose the point stand innermost first.
structure Progress where
  levels : List Enclosure
  operandNext : Bool
deriving DecidableEq

def Progress.start : Progress := ⟨[], true⟩

-- A sign ends with its operand.
def closeSigns : List Enclosure → List Enclosure
  | .sign :: levels => closeSigns levels
  | levels => levels

def opened? (token : Token) : Option Enclosure :=
  if token.isOperator "(" then some (.group token.pos) else (sign? token).map fun _ => .sign

inductive Halt where
  | rejected (cause : Cause)
  | notANumber (text : String)
deriving DecidableEq

def Progress.step (limit : Nat) (token : Token) : Progress → Except Halt Progress
  | ⟨levels, true⟩ =>
      if token.isLiteral then
        match Numeral.read? token.text with
        | some _ => .ok ⟨closeSigns levels, false⟩
        | none => .error (.notANumber token.text)
      else
        match opened? token with
        | some enclosure =>
            if limit ≤ levels.length then .error (.rejected .tooDeep)
            else .ok ⟨enclosure :: levels, true⟩
        | none =>
            .error (.rejected (if token.kind = .malformed then .invalidToken else .noExpression))
  | ⟨levels, false⟩ =>
      if (Category.chain .additive).continues token then .ok ⟨levels, true⟩
      else
        match levels with
        | .group pos :: outer =>
            if token.isOperator ")" then .ok ⟨closeSigns outer, false⟩
            else .error (.rejected (.unclosed pos))
        | _ => .error (.rejected .leftover)

inductive Verdict where
  | complete
  | rejected (rest : List Token) (cause : Cause)
  | notANumber (text : String)
deriving DecidableEq

def Progress.finish : Progress → Verdict
  | ⟨_, true⟩ => .rejected [] .noExpression
  | ⟨.group pos :: _, false⟩ => .rejected [] (.unclosed pos)
  | ⟨_, false⟩ => .complete

def reading (limit : Nat) (progress : Progress) : List Token → Verdict
  | [] => progress.finish
  | token :: rest =>
      match progress.step limit token with
      | .ok next => reading limit next rest
      | .error (.rejected cause) => .rejected (token :: rest) cause
      | .error (.notANumber text) => .notANumber text

theorem reading_step (limit : Nat) (progress next : Progress) (token : Token) (rest : List Token)
    (step : progress.step limit token = .ok next) :
    reading limit progress (token :: rest) = reading limit next rest := by
  rw [reading, step]

theorem reading_rejected (limit : Nat) (progress : Progress) (token : Token) (rest : List Token)
    (cause : Cause) (step : progress.step limit token = .error (.rejected cause)) :
    reading limit progress (token :: rest) = .rejected (token :: rest) cause := by
  rw [reading, step]

-- The progress after all of the tokens, unless reading stops at one of them.
def advance (limit : Nat) (progress : Progress) : List Token → Option Progress
  | [] => some progress
  | token :: rest =>
      match progress.step limit token with
      | .ok next => advance limit next rest
      | .error _ => none

theorem advance_step (limit : Nat) (progress next : Progress) (token : Token) (rest : List Token)
    (step : progress.step limit token = .ok next) :
    advance limit progress (token :: rest) = advance limit next rest := by
  rw [advance, step]

theorem advance_append (limit : Nat) (progress : Progress) (before after : List Token) :
    advance limit progress (before ++ after) =
      (advance limit progress before).bind fun next => advance limit next after := by
  induction before generalizing progress with
  | nil => rfl
  | cons token before ih =>
      rw [List.cons_append, advance, advance]
      cases progress.step limit token with
      | error halt => rfl
      | ok next => exact ih next

theorem reading_advance (limit : Nat) (progress next : Progress) (before rest : List Token)
    (passed : advance limit progress before = some next) :
    reading limit progress (before ++ rest) = reading limit next rest := by
  induction before generalizing progress with
  | nil =>
      cases passed
      rfl
  | cons token before ih =>
      rw [advance] at passed
      rw [List.cons_append, reading]
      cases step : progress.step limit token with
      | error halt =>
          rw [step] at passed
          cases passed
      | ok reached =>
          rw [step] at passed
          exact ih reached passed

theorem opened_group (token : Token) (opens : token.isOperator "(") :
    opened? token = some (.group token.pos) := by
  rw [opened?, if_pos opens]

theorem opened_sign (token : Token) (sign : Sign) (spelled : token.isOperator sign.symbol) :
    opened? token = some .sign := by
  have other := operator_other token sign.symbol "(" spelled (by cases sign <;> decide)
  rw [opened?, other, if_neg Bool.false_ne_true, (sign_found token sign).mpr spelled]
  rfl

theorem unspelled_unopened (token : Token) (absent : ∀ spelling, token.isOperator spelling = false) :
    opened? token = none := by
  rw [opened?, absent, if_neg Bool.false_ne_true, no_sign token (fun sign => absent _)]
  rfl

theorem opened_not_literal (token : Token) (enclosure : Enclosure)
    (opened : opened? token = some enclosure) : token.isLiteral = false := by
  cases isLiteral : token.isLiteral with
  | false => rfl
  | true =>
      rw [unspelled_unopened token (fun spelling => literal_not_operator token spelling isLiteral)] at opened
      cases opened

theorem step_literal (limit : Nat) (levels : List Enclosure) (token : Token) (value : Binary64)
    (isLiteral : token.isLiteral) (reads : Numeral.read? token.text = some value) :
    Progress.step limit token ⟨levels, true⟩ = .ok ⟨closeSigns levels, false⟩ := by
  simp only [Progress.step, if_pos isLiteral, reads]

theorem step_opened (limit : Nat) (levels : List Enclosure) (token : Token) (enclosure : Enclosure)
    (opened : opened? token = some enclosure) (room : levels.length < limit) :
    Progress.step limit token ⟨levels, true⟩ = .ok ⟨enclosure :: levels, true⟩ := by
  have notLiteral := opened_not_literal token enclosure opened
  simp only [Progress.step, notLiteral, Bool.false_eq_true, if_false, opened, if_neg (Nat.not_le.mpr room)]

theorem step_deep (limit : Nat) (levels : List Enclosure) (token : Token) (enclosure : Enclosure)
    (opened : opened? token = some enclosure) (full : limit ≤ levels.length) :
    Progress.step limit token ⟨levels, true⟩ = .error (.rejected .tooDeep) := by
  have notLiteral := opened_not_literal token enclosure opened
  simp only [Progress.step, notLiteral, Bool.false_eq_true, if_false, opened, if_pos full]

theorem step_malformed (limit : Nat) (levels : List Enclosure) (token : Token)
    (malformed : token.kind = .malformed) :
    Progress.step limit token ⟨levels, true⟩ = .error (.rejected .invalidToken) := by
  have absent : ∀ spelling, token.isOperator spelling = false := by
    simp [Token.isOperator, malformed]
  have notLiteral : token.isLiteral = false := by simp [Token.isLiteral, malformed]
  have unopened := unspelled_unopened token absent
  simp only [Progress.step, notLiteral, Bool.false_eq_true, if_false, unopened, if_pos malformed]

theorem step_operator (limit : Nat) (levels : List Enclosure) (level : Level) (op : Operator)
    (token : Token) (found : level.operator? token = some op) :
    Progress.step limit token ⟨levels, false⟩ = .ok ⟨levels, true⟩ := by
  have continues : (Category.chain .additive).continues token = true := by
    cases level <;> simp [Category.continues, found]
  simp only [Progress.step, if_pos continues]

theorem step_closing (limit : Nat) (outer : List Enclosure) (pos : Int) (token : Token)
    (closes : token.isOperator ")") :
    Progress.step limit token ⟨.group pos :: outer, false⟩ = .ok ⟨closeSigns outer, false⟩ := by
  have stops : (Category.chain .additive).continues token = false := closing_stops _ token [] closes
  simp only [Progress.step, stops, Bool.false_eq_true, if_false, if_pos closes]

-- No sign is open around a chain: an operand may end in it, and a sign goes no further than that.
def Settled : Category → List Enclosure → Prop
  | .chain _, levels => closeSigns levels = levels
  | _, _ => True

theorem settled_operand (level : Level) (levels : List Enclosure)
    (settled : Settled (.chain level) levels) : Settled level.operands levels := by
  cases level with
  | additive => exact settled
  | multiplicative => trivial

theorem derives_advance (limit : Nat) (category : Category) (tokens : List Token) (tree : Expr)
    (nesting : Nat) (levels : List Enclosure) (derived : Derives category tokens tree nesting)
    (room : levels.length + nesting ≤ limit) (settled : Settled category levels) :
    advance limit ⟨levels, true⟩ tokens = some ⟨closeSigns levels, false⟩ := by
  induction derived generalizing levels with
  | literal isLiteral reads =>
      exact advance_step limit _ _ _ [] (step_literal limit levels _ _ isLiteral reads)
  | @group opening closing tokens tree nesting opens closes _ ih =>
      rw [advance_step limit _ _ opening _
        (step_opened limit levels opening _ (opened_group opening opens) (by omega)), advance_append]
      rw [ih (.group opening.pos :: levels) (by rw [List.length_cons]; omega) rfl]
      exact advance_step limit _ _ closing [] (step_closing limit levels _ closing closes)
  | unsigned _ ih => exact ih levels room trivial
  | @signed token sign tokens tree nesting spelled _ ih =>
      rw [advance_step limit _ _ token _
        (step_opened limit levels token _ (opened_sign token sign spelled) (by omega))]
      exact ih (.sign :: levels) (by rw [List.length_cons]; omega) trivial
  | first _ ih => exact ih levels room (settled_operand _ levels settled)
  | @more level op token before after left right m n member spelled _ _ ihChained ihLast =>
      have found := (operator_found level token op).mpr ⟨member, spelled⟩
      have closed : closeSigns levels = levels := settled
      have chained := ihChained levels (by omega) settled
      have last := ihLast levels (by omega) (settled_operand level levels settled)
      rw [closed] at chained last ⊢
      rw [advance_append, chained, Option.bind_some,
        advance_step limit _ _ token _ (step_operator limit levels level op token found), last]

theorem derives_reading (limit : Nat) (category : Category) (tokens rest : List Token) (tree : Expr)
    (nesting : Nat) (levels : List Enclosure) (derived : Derives category tokens tree nesting)
    (room : levels.length + nesting ≤ limit) (settled : Settled category levels) :
    reading limit ⟨levels, true⟩ (tokens ++ rest) = reading limit ⟨closeSigns levels, false⟩ rest :=
  reading_advance limit _ _ tokens rest
    (derives_advance limit category tokens tree nesting levels derived room settled)

-- The first opening beyond the limit stops the reading, wherever in the derivation it stands.
theorem derives_too_deep (limit : Nat) (category : Category) (tokens rest : List Token) (tree : Expr)
    (nesting : Nat) (levels : List Enclosure) (derived : Derives category tokens tree nesting)
    (within : levels.length ≤ limit) (deep : limit < levels.length + nesting)
    (settled : Settled category levels) :
    ∃ after, reading limit ⟨levels, true⟩ (tokens ++ rest) = .rejected after .tooDeep := by
  induction derived generalizing levels rest with
  | literal => omega
  | @group opening closing tokens tree nesting opens closes _ ih =>
      rw [List.cons_append, List.append_assoc]
      have opened := opened_group opening opens
      by_cases full : limit ≤ levels.length
      · exact ⟨_, reading_rejected limit _ opening _ _ (step_deep limit levels opening _ opened full)⟩
      · rw [reading_step limit _ _ opening _ (step_opened limit levels opening _ opened (by omega))]
        exact ih _ (.group opening.pos :: levels) (by rw [List.length_cons]; omega)
          (by rw [List.length_cons]; omega) rfl
  | unsigned _ ih => exact ih rest levels within deep trivial
  | @signed token sign tokens tree nesting spelled _ ih =>
      rw [List.cons_append]
      have opened := opened_sign token sign spelled
      by_cases full : limit ≤ levels.length
      · exact ⟨_, reading_rejected limit _ token _ _ (step_deep limit levels token _ opened full)⟩
      · rw [reading_step limit _ _ token _ (step_opened limit levels token _ opened (by omega))]
        exact ih rest (.sign :: levels) (by rw [List.length_cons]; omega)
          (by rw [List.length_cons]; omega) trivial
  | first _ ih => exact ih rest levels within deep (settled_operand _ levels settled)
  | @more level op token before after left right m n member spelled chained _ ihChained ihLast =>
      have found := (operator_found level token op).mpr ⟨member, spelled⟩
      have closed : closeSigns levels = levels := settled
      rw [List.append_assoc, List.cons_append]
      by_cases early : limit < levels.length + m
      · exact ihChained _ levels within early settled
      · rw [derives_reading limit _ before _ left m levels chained (by omega) settled, closed,
          reading_step limit _ _ token _ (step_operator limit levels level op token found)]
        exact ihLast rest levels within (by omega) (settled_operand level levels settled)

end Reckon.Parse
