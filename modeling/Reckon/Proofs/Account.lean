import Reckon.Proofs.Reading
import Reckon.Proofs.Recognition

set_option autoImplicit false

namespace Reckon.Parse

variable (limit : Nat)

-- A derivation of the tokens consumed, or the point where reading stops. After the first mishap the
-- matchers only unwind, so the furthest mishap is the first one.
inductive Accounted (category : Category) (levels : List Enclosure) (tokens : List Token)
    {bound : Nat} : Outcome bound → Prop where
  | matched {tree : Expr} {before rest : List Token} {nesting : Nat}
      (shorter : rest.length < bound) (split : tokens = before ++ rest)
      (derived : Derives category before tree nesting) (room : levels.length + nesting ≤ limit)
      (stops : Stops category rest) :
      Accounted category levels tokens (.matched tree rest shorter ⟨levels.length, none⟩)
  -- An operand failed: the tree stands for the tokens before its operator, which heads the rest.
  | interrupted {tree : Expr} {rest : List Token} {mishap : Mishap} (shorter : rest.length < bound)
      (goesOn : ¬ Stops category rest) (further : mishap.rest.length < rest.length)
      (stuck : reading limit ⟨levels, true⟩ tokens = .rejected mishap.rest mishap.cause) :
      Accounted category levels tokens (.matched tree rest shorter ⟨levels.length, some mishap⟩)
  | unmatched {mishap : Mishap} (further : mishap.rest.length ≤ tokens.length)
      (stuck : reading limit ⟨levels, true⟩ tokens = .rejected mishap.rest mishap.cause) :
      Accounted category levels tokens (.unmatched ⟨levels.length, some mishap⟩)
  | tooDeep {rest : List Token}
      (stuck : reading limit ⟨levels, true⟩ tokens = .rejected rest .tooDeep) :
      Accounted category levels tokens (.aborted (.tooDeep rest))
  | notANumber {text : String} (stuck : reading limit ⟨levels, true⟩ tokens = .notANumber text) :
      Accounted category levels tokens (.aborted (.notANumber text))

-- What is said of the matchers on shorter lists while one of them is looked at. Primaries are left
-- out: on a sign, their matcher fails where reading goes on.
def AccountedBelow (size : Nat) : Prop :=
  ∀ (category : Category) (levels : List Enclosure) (tokens : List Token), tokens.length < size →
    category ≠ .primary → levels.length ≤ limit → Settled category levels →
    Accounted limit category levels tokens (matcher limit category tokens ⟨levels.length, none⟩)

theorem note_kept (depth : Nat) (mishap : Mishap) (rest : List Token) (cause : Cause)
    (further : mishap.rest.length ≤ rest.length) :
    State.note ⟨depth, some mishap⟩ rest cause = ⟨depth, some mishap⟩ := by
  simp only [State.note, if_neg (Nat.not_lt.mpr further)]

theorem reading_unclosed (levels : List Enclosure) (pos : Int) (rest : List Token)
    (stops : Stops (.chain .additive) rest)
    (unclosed : ∀ token tail, rest = token :: tail → token.isOperator ")" = false) :
    reading limit ⟨.group pos :: levels, false⟩ rest = .rejected rest (.unclosed pos) := by
  cases rest with
  | nil => rfl
  | cons token tail =>
      apply reading_rejected
      have continues : (Category.chain .additive).continues token = false := stops
      simp only [Progress.step, continues, unclosed token tail rfl, Bool.false_eq_true, if_false]

theorem group_accounted (levels : List Enclosure) (token : Token) (tail : List Token)
    (opens : token.isOperator "(") (below : AccountedBelow limit (tail.length + 1)) :
    Accounted limit .primary levels (token :: tail)
      (primary limit (token :: tail) ⟨levels.length, none⟩) := by
  have notLiteral := operator_not_literal token "(" opens
  have opened := opened_group token opens
  rw [primary, notLiteral, if_neg Bool.false_ne_true, if_pos opens]
  by_cases full : limit ≤ levels.length
  · rw [if_pos full]
    exact .tooDeep (reading_rejected limit _ token tail _ (step_deep limit levels token _ opened full))
  · rw [if_neg full]
    have step := reading_step limit _ _ token tail
      (step_opened limit levels token _ opened (Nat.not_le.mp full))
    have inner := below (.chain .additive) (.group token.pos :: levels) tail (Nat.lt_succ_self _)
      (by decide) (Nat.not_le.mp full) rfl
    simp only [matcher, List.length_cons] at inner
    simp only [State.enter]
    generalize chain limit .additive tail ⟨levels.length + 1, none⟩ = outcome at inner
    cases inner with
    | @matched tree before rest nesting shorter split derived room stops =>
        have read := derives_reading limit _ before rest tree nesting _ derived room rfl
        rw [← split, ← step] at read
        cases rest with
        | nil =>
            refine .unmatched (Nat.zero_le _) (read.trans ?_)
            apply reading_unclosed limit levels token.pos [] trivial
            intro _ _ absent
            cases absent
        | cons close rest =>
            by_cases closes : close.isOperator ")"
            · simp only [if_pos closes]
              have outerRoom : levels.length + (nesting + 1) ≤ limit := by
                rw [List.length_cons] at room
                omega
              refine .matched _ ?_ (.group opens closes derived) outerRoom (primary_stops rest)
              simp [split]
            · simp only [if_neg closes]
              refine .unmatched (Nat.le_of_lt (Nat.lt_succ_of_lt shorter)) (read.trans ?_)
              apply reading_unclosed limit levels token.pos (close :: rest) stops
              rintro _ _ ⟨rfl, rfl⟩
              simpa using closes
    | @interrupted tree rest mishap shorter goesOn further stuck =>
        cases rest with
        | nil => exact absurd trivial goesOn
        | cons close rest =>
            have notClosing : ¬ close.isOperator ")" := fun closes =>
              goesOn (closing_stops _ close rest closes)
            simp only [if_neg notClosing, State.leave]
            rw [note_kept _ _ _ _ (Nat.le_of_lt further)]
            have within : mishap.rest.length ≤ (token :: tail).length := by
              rw [List.length_cons]
              omega
            exact .unmatched within (step.trans stuck)
    | @unmatched mishap further stuck =>
        simp only [State.leave]
        rw [note_kept _ _ _ _ further]
        exact .unmatched (Nat.le_succ_of_le further) (step.trans stuck)
    | tooDeep stuck => exact .tooDeep (step.trans stuck)
    | notANumber stuck => exact .notANumber (step.trans stuck)

theorem primary_accounted (levels : List Enclosure) (tokens : List Token)
    (within : levels.length ≤ limit) (below : AccountedBelow limit tokens.length)
    (unsigned : ∀ token tail, tokens = token :: tail → sign? token = none) :
    Accounted limit .primary levels tokens (primary limit tokens ⟨levels.length, none⟩) := by
  cases tokens with
  | nil =>
      rw [primary]
      exact .unmatched (Nat.le_refl _) rfl
  | cons token tail =>
      by_cases opens : token.isOperator "("
      · exact group_accounted limit levels token tail opens below
      · have closed : opened? token = none := by
          rw [opened?, if_neg opens, unsigned token tail rfl, Option.map_none]
        by_cases isLiteral : token.isLiteral
        · rw [primary, if_pos isLiteral]
          cases reads : Numeral.read? token.text with
          | some value =>
              exact .matched _ (rfl : token :: tail = [token] ++ tail) (.literal isLiteral reads) within
                (primary_stops tail)
          | none =>
              refine .notANumber ?_
              rw [reading]
              simp only [Progress.step, if_pos isLiteral, reads]
        · rw [primary, if_neg isLiteral, if_neg opens]
          by_cases malformed : token.kind = .malformed
          · rw [if_pos malformed]
            exact .unmatched (Nat.le_refl _)
              (reading_rejected limit _ token tail _ (step_malformed limit levels token malformed))
          · rw [if_neg malformed]
            refine .unmatched (Nat.le_refl _) (reading_rejected limit _ token tail _ ?_)
            simp only [Progress.step, if_neg isLiteral, closed, if_neg malformed]

theorem unsigned_accounted (levels : List Enclosure) (tokens : List Token)
    (outcome : Outcome tokens.length) (accounted : Accounted limit .primary levels tokens outcome) :
    Accounted limit .signed levels tokens outcome := by
  cases accounted with
  | matched shorter split derived room stops =>
      exact .matched shorter split (.unsigned derived) room (signed_stops _)
  | interrupted shorter goesOn => exact absurd (primary_stops _) goesOn
  | unmatched further stuck => exact .unmatched further stuck
  | tooDeep stuck => exact .tooDeep stuck
  | notANumber stuck => exact .notANumber stuck

theorem signed_accounted (levels : List Enclosure) (tokens : List Token)
    (within : levels.length ≤ limit) (below : AccountedBelow limit tokens.length) :
    Accounted limit .signed levels tokens (signed limit tokens ⟨levels.length, none⟩) := by
  cases tokens with
  | nil =>
      rw [signed]
      refine unsigned_accounted limit levels [] _ (primary_accounted limit levels [] within below ?_)
      intro _ _ absent
      cases absent
  | cons token tail =>
      rw [signed]
      cases found : sign? token with
      | none =>
          refine unsigned_accounted limit levels (token :: tail) _
            (primary_accounted limit levels (token :: tail) within below ?_)
          rintro _ _ ⟨rfl, rfl⟩
          exact found
      | some sign =>
          have spelled := (sign_found token sign).mp found
          have opened := opened_sign token sign spelled
          by_cases full : limit ≤ levels.length
          · simp only [if_pos full]
            exact .tooDeep (reading_rejected limit _ token tail _ (step_deep limit levels token _ opened full))
          · simp only [if_neg full, State.enter]
            have step := reading_step limit _ _ token tail
              (step_opened limit levels token _ opened (Nat.not_le.mp full))
            have inner := below .signed (.sign :: levels) tail (Nat.lt_succ_self _) (by decide)
              (Nat.not_le.mp full) trivial
            simp only [matcher, List.length_cons] at inner
            generalize signed limit tail ⟨levels.length + 1, none⟩ = outcome at inner
            cases inner with
            | @matched tree before rest nesting shorter split derived room stops =>
                have outerRoom : levels.length + (nesting + 1) ≤ limit := by
                  rw [List.length_cons] at room
                  omega
                refine .matched _ ?_ (.signed spelled derived) outerRoom (signed_stops rest)
                rw [split, List.cons_append]
            | interrupted shorter goesOn => exact absurd (signed_stops _) goesOn
            | unmatched further stuck =>
                exact .unmatched (Nat.le_succ_of_le further) (step.trans stuck)
            | tooDeep stuck => exact .tooDeep (step.trans stuck)
            | notANumber stuck => exact .notANumber (step.trans stuck)

theorem interrupted_operand (level : Level) (token : Token) (tail : List Token)
    (goesOn : ¬ Stops level.operands (token :: tail)) : level.operator? token = none := by
  cases found : level.operator? token with
  | none => rfl
  | some op =>
      obtain ⟨member, spelled⟩ := (operator_found level token op).mp found
      exact absurd (operator_stops_operand level op token tail member spelled) goesOn

-- After a mishap a chain takes no further operand.
theorem chain_tail_interrupted (level : Level) (levels : List Enclosure) (tokens rest : List Token)
    (bound : Nat) (left : Expr) (mishap : Mishap) (shorter : rest.length < bound)
    (goesOn : ¬ Stops level.operands rest) (further : mishap.rest.length < rest.length)
    (stuck : reading limit ⟨levels, true⟩ tokens = .rejected mishap.rest mishap.cause) :
    Accounted limit (.chain level) levels tokens
      (chainTail limit level bound left rest shorter ⟨levels.length, some mishap⟩) := by
  cases rest with
  | nil => exact absurd trivial goesOn
  | cons token tail =>
      rw [chainTail, interrupted_operand level token tail goesOn]
      exact .interrupted shorter (fun stops => goesOn ((chain_stops level token tail).mp stops).2) further stuck

theorem chain_tail_accounted (level : Level) (levels : List Enclosure) (before tokens : List Token)
    (bound : Nat) (left : Expr) (nesting : Nat) (shorter : tokens.length < bound)
    (derived : Derives (.chain level) before left nesting) (room : levels.length + nesting ≤ limit)
    (settled : Settled (.chain level) levels) (stops : Stops level.operands tokens)
    (below : AccountedBelow limit tokens.length) :
    Accounted limit (.chain level) levels (before ++ tokens)
      (chainTail limit level bound left tokens shorter ⟨levels.length, none⟩) := by
  cases tokens with
  | nil =>
      rw [chainTail]
      exact .matched shorter rfl derived room trivial
  | cons token tail =>
      rw [chainTail]
      cases found : level.operator? token with
      | none =>
          exact .matched shorter rfl derived room ((chain_stops level token tail).mpr ⟨found, stops⟩)
      | some op =>
          obtain ⟨member, spelled⟩ := (operator_found level token op).mp found
          have goesOn : ¬ Stops (.chain level) (token :: tail) := by
            rw [chain_stops, found]
            simp
          have closed : closeSigns levels = levels := settled
          have read : reading limit ⟨levels, true⟩ (before ++ token :: tail) =
              reading limit ⟨levels, true⟩ tail := by
            rw [derives_reading limit _ before _ left nesting levels derived room settled, closed,
              reading_step limit _ _ token tail (step_operator limit levels level op token found)]
          have last := below level.operands levels tail (Nat.lt_succ_self _)
            (by cases level <;> decide) (by omega) (settled_operand level levels settled)
          simp only [operand_matcher]
          generalize matcher limit level.operands tail ⟨levels.length, none⟩ = outcome at last
          cases last with
          | @matched right after rest lastNesting less split lastDerived lastRoom lastStops =>
              have tokensEq : before ++ token :: tail = (before ++ token :: after) ++ rest := by
                simp [split]
              rw [tokensEq]
              refine chain_tail_accounted level levels _ rest bound _ _ _
                (.more member spelled derived lastDerived) (by omega) settled lastStops ?_
              intro category inner tokens size
              exact below category inner tokens (by rw [List.length_cons]; omega)
          | interrupted less lastGoesOn further stuck =>
              exact chain_tail_interrupted limit level levels _ _ bound _ _ _ lastGoesOn further
                (read.trans stuck)
          | unmatched further stuck =>
              exact .interrupted shorter goesOn (Nat.lt_succ_of_le further) (read.trans stuck)
          | tooDeep stuck => exact .tooDeep (read.trans stuck)
          | notANumber stuck => exact .notANumber (read.trans stuck)
termination_by tokens.length

theorem chain_accounted (level : Level) (levels : List Enclosure) (tokens : List Token)
    (settled : Settled (.chain level) levels) (below : AccountedBelow limit tokens.length)
    (operands : Accounted limit level.operands levels tokens
      (matcher limit level.operands tokens ⟨levels.length, none⟩)) :
    Accounted limit (.chain level) levels tokens (chain limit level tokens ⟨levels.length, none⟩) := by
  rw [chain, operand_matcher]
  generalize matcher limit level.operands tokens ⟨levels.length, none⟩ = outcome at operands
  cases operands with
  | @matched tree before rest nesting shorter split derived room stops =>
      have tail := chain_tail_accounted limit level levels before rest tokens.length tree nesting shorter
        (.first derived) room settled stops
        (fun category inner tokens size => below category inner tokens (Nat.lt_trans size shorter))
      rw [← split] at tail
      exact tail
  | interrupted shorter goesOn further stuck =>
      exact chain_tail_interrupted limit level levels tokens _ _ _ _ _ goesOn further stuck
  | unmatched further stuck => exact .unmatched further stuck
  | tooDeep stuck => exact .tooDeep stuck
  | notANumber stuck => exact .notANumber stuck

-- The induction is on the number of tokens; matchers of one length are taken from the tightest up.
theorem matchers_accounted (size : Nat) : AccountedBelow limit size := by
  induction size with
  | zero =>
      intro category levels tokens short
      exact absurd short (Nat.not_lt_zero _)
  | succ size ih =>
      intro category levels tokens short notPrimary within settled
      have below : AccountedBelow limit tokens.length := fun category inner tokens less =>
        ih category inner tokens (Nat.lt_of_lt_of_le less (Nat.le_of_lt_succ short))
      have signs := signed_accounted limit levels tokens within below
      cases category with
      | primary => exact absurd rfl notPrimary
      | signed => exact signs
      | chain level =>
          have products := chain_accounted limit .multiplicative levels tokens settled below signs
          cases level with
          | multiplicative => exact products
          | additive => exact chain_accounted limit .additive levels tokens settled below products

end Reckon.Parse
