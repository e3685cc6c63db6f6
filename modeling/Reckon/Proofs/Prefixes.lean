import Reckon.Proofs.Account

set_option autoImplicit false

namespace Reckon.Parse

def Phrase (category : Category) (tokens : List Token) : Prop :=
  ∃ tree nesting, Derives category tokens tree nesting

-- Tokens that the grammar derives at any nesting.
def Sentence (tokens : List Token) : Prop := Phrase (.chain .additive) tokens

-- Tokens that begin a sentence.
def Viable (tokens : List Token) : Prop := ∃ rest, Sentence (tokens ++ rest)

-- All that one token can do to the progress.
inductive Step (limit : Nat) (token : Token) : Progress → Progress → Prop where
  | literal {levels : List Enclosure} {value : Binary64} (isLiteral : token.isLiteral)
      (reads : Numeral.read? token.text = some value) :
      Step limit token ⟨levels, true⟩ ⟨closeSigns levels, false⟩
  | opened {levels : List Enclosure} {enclosure : Enclosure} (opened : opened? token = some enclosure)
      (room : levels.length < limit) : Step limit token ⟨levels, true⟩ ⟨enclosure :: levels, true⟩
  | operator {levels : List Enclosure} (continues : (Category.chain .additive).continues token) :
      Step limit token ⟨levels, false⟩ ⟨levels, true⟩
  | closing {outer : List Enclosure} {pos : Int} (closes : token.isOperator ")") :
      Step limit token ⟨.group pos :: outer, false⟩ ⟨closeSigns outer, false⟩

-- All the reasons for which a token is refused.
inductive Refused (limit : Nat) (token : Token) : Progress → Cause → Prop where
  | malformed {levels : List Enclosure} (notLiteral : token.isLiteral = false)
      (unopened : opened? token = none) (malformed : token.kind = .malformed) :
      Refused limit token ⟨levels, true⟩ .invalidToken
  | noOperand {levels : List Enclosure} (notLiteral : token.isLiteral = false)
      (unopened : opened? token = none) (wellFormed : token.kind ≠ .malformed) :
      Refused limit token ⟨levels, true⟩ .noExpression
  | tooDeep {levels : List Enclosure} {enclosure : Enclosure} (opened : opened? token = some enclosure)
      (full : limit ≤ levels.length) : Refused limit token ⟨levels, true⟩ .tooDeep
  | unclosed {outer : List Enclosure} {pos : Int}
      (stops : (Category.chain .additive).continues token = false)
      (notClosing : token.isOperator ")" = false) :
      Refused limit token ⟨.group pos :: outer, false⟩ (.unclosed pos)
  | leftover {levels : List Enclosure} (stops : (Category.chain .additive).continues token = false)
      (ungrouped : ∀ pos outer, levels ≠ .group pos :: outer) :
      Refused limit token ⟨levels, false⟩ .leftover

theorem step_outcome (limit : Nat) (token : Token) (progress : Progress) :
    match progress.step limit token with
    | .ok next => Step limit token progress next
    | .error (.rejected cause) => Refused limit token progress cause
    | .error (.notANumber _) => token.isLiteral ∧ Numeral.read? token.text = none := by
  obtain ⟨levels, operandNext⟩ := progress
  cases operandNext with
  | true =>
      by_cases isLiteral : token.isLiteral
      · cases reads : Numeral.read? token.text with
        | none =>
            simp only [Progress.step, if_pos isLiteral, reads]
            exact ⟨isLiteral, trivial⟩
        | some value =>
            rw [step_literal limit levels token value isLiteral reads]
            exact .literal isLiteral reads
      · cases opened : opened? token with
        | none =>
            simp only [Progress.step, if_neg isLiteral, opened]
            have notLiteral : token.isLiteral = false := Bool.eq_false_iff.mpr isLiteral
            by_cases malformed : token.kind = .malformed
            · rw [if_pos malformed]
              exact .malformed notLiteral opened malformed
            · rw [if_neg malformed]
              exact .noOperand notLiteral opened malformed
        | some enclosure =>
            by_cases full : limit ≤ levels.length
            · rw [step_deep limit levels token enclosure opened full]
              exact .tooDeep opened full
            · rw [step_opened limit levels token enclosure opened (Nat.not_le.mp full)]
              exact .opened opened (Nat.not_le.mp full)
  | false =>
      cases continues : (Category.chain .additive).continues token with
      | true =>
          simp only [Progress.step, if_pos continues]
          exact .operator continues
      | false =>
          cases levels with
          | nil =>
              simp only [Progress.step, continues, Bool.false_eq_true, if_false]
              exact .leftover continues (fun _ _ grouped => by cases grouped)
          | cons enclosure outer =>
              cases enclosure with
              | sign =>
                  simp only [Progress.step, continues, Bool.false_eq_true, if_false]
                  exact .leftover continues (fun _ _ grouped => by cases grouped)
              | group pos =>
                  cases closes : token.isOperator ")" with
                  | true =>
                      rw [step_closing limit outer pos token closes]
                      exact .closing closes
                  | false =>
                      simp only [Progress.step, continues, closes, Bool.false_eq_true, if_false]
                      exact .unclosed continues closes

theorem step_iff (limit : Nat) (token : Token) (progress next : Progress) :
    progress.step limit token = .ok next ↔ Step limit token progress next := by
  constructor
  · intro taken
    have outcome := step_outcome limit token progress
    rw [taken] at outcome
    exact outcome
  · intro stepped
    cases stepped with
    | literal isLiteral reads => exact step_literal limit _ token _ isLiteral reads
    | opened opened room => exact step_opened limit _ token _ opened room
    | operator continues => simp only [Progress.step, if_pos continues]
    | closing closes => exact step_closing limit _ _ token closes

-- Only the limit can refuse a token that another limit lets pass.
theorem refused_step (limit wider : Nat) (token : Token) (progress next : Progress) (cause : Cause)
    (refused : Refused limit token progress cause) (shallow : cause ≠ .tooDeep)
    (stepped : Step wider token progress next) : False := by
  have noOperand : token.isLiteral = false → opened? token = none → progress.operandNext = true → False := by
    intro notLiteral unopened due
    cases stepped with
    | literal isLiteral => simp [notLiteral] at isLiteral
    | opened opened => simp [unopened] at opened
    | operator => cases due
    | closing => cases due
  cases refused with
  | malformed notLiteral unopened => exact noOperand notLiteral unopened rfl
  | noOperand notLiteral unopened => exact noOperand notLiteral unopened rfl
  | tooDeep => exact shallow rfl
  | unclosed stops notClosing =>
      cases stepped with
      | operator continues => simp [stops] at continues
      | closing closes => simp [notClosing] at closes
  | leftover stops ungrouped =>
      cases stepped with
      | operator continues => simp [stops] at continues
      | closing => exact ungrouped _ _ rfl

theorem advance_snoc (limit : Nat) (origin next : Progress) (before : List Token) (token : Token) :
    advance limit origin (before ++ [token]) = some next ↔
      ∃ progress, advance limit origin before = some progress ∧ Step limit token progress next := by
  rw [advance_append]
  cases advance limit origin before with
  | none => simp
  | some progress =>
      rw [Option.bind_some, advance]
      simp only [Option.some.injEq, exists_eq_left', ← step_iff]
      cases progress.step limit token with
      | error halt => simp
      | ok reached => simp [advance]

theorem advance_cons (limit : Nat) (origin progress : Progress) (token : Token) (rest : List Token) :
    advance limit origin (token :: rest) = some progress ↔
      ∃ next, Step limit token origin next ∧ advance limit next rest = some progress := by
  rw [advance]
  simp only [← step_iff]
  cases origin.step limit token with
  | error halt => simp
  | ok next => simp

theorem advance_split (limit : Nat) (origin progress : Progress) (tokens : List Token) (place : Nat)
    (passed : advance limit origin tokens = some progress) :
    ∃ reached, advance limit origin (tokens.take place) = some reached ∧
      advance limit reached (tokens.drop place) = some progress := by
  rw [← List.take_append_drop place tokens, advance_append, Option.bind_eq_some_iff] at passed
  exact passed

-- Invariants of reading are shown for one more token at the end.
theorem advance_induction {limit : Nat} {origin : Progress}
    {motive : (tokens : List Token) → (progress : Progress) →
      advance limit origin tokens = some progress → Prop}
    (start : motive [] origin rfl)
    (step : ∀ before reached token next (here : advance limit origin before = some reached)
      (stepped : Step limit token reached next), motive before reached here →
      motive (before ++ [token]) next
        ((advance_snoc limit origin next before token).mpr ⟨reached, here, stepped⟩))
    (tokens : List Token) (progress : Progress) (passed : advance limit origin tokens = some progress) :
    motive tokens progress passed := by
  rcases List.eq_nil_or_concat tokens with rfl | ⟨before, token, split⟩
  · cases passed
    exact start
  · rw [List.concat_eq_append] at split
    subst split
    obtain ⟨reached, here, stepped⟩ := (advance_snoc limit origin progress before token).mp passed
    exact step before reached token progress here stepped
      (advance_induction start step before reached here)
termination_by tokens.length

theorem step_widen (limit wider : Nat) (token : Token) (progress next : Progress)
    (order : limit ≤ wider) (stepped : Step limit token progress next) :
    Step wider token progress next := by
  cases stepped with
  | literal isLiteral reads => exact .literal isLiteral reads
  | opened opened room => exact .opened opened (Nat.lt_of_lt_of_le room order)
  | operator continues => exact .operator continues
  | closing closes => exact .closing closes

theorem advance_widen (limit wider : Nat) (origin progress : Progress) (tokens : List Token)
    (order : limit ≤ wider) (passed : advance limit origin tokens = some progress) :
    advance wider origin tokens = some progress := by
  induction tokens, progress, passed using advance_induction with
  | start => rfl
  | step before reached token next here stepped ih =>
      exact (advance_snoc wider origin next before token).mpr
        ⟨reached, ih, step_widen limit wider token reached next order stepped⟩

-- Limits that let the same tokens through make no difference.
theorem advance_agree (limit other : Nat) (origin progress reached : Progress) (tokens : List Token)
    (passed : advance limit origin tokens = some progress)
    (again : advance other origin tokens = some reached) : progress = reached := by
  have widened := advance_widen limit (max limit other) _ _ _ (Nat.le_max_left _ _) passed
  have widenedAgain := advance_widen other (max limit other) _ _ _ (Nat.le_max_right _ _) again
  exact Option.some.inj (widened.symm.trans widenedAgain)

theorem close_signs_idem (levels : List Enclosure) : closeSigns (closeSigns levels) = closeSigns levels := by
  induction levels with
  | nil => rfl
  | cons enclosure levels ih =>
      cases enclosure with
      | group pos => rfl
      | sign => exact ih

theorem close_signs_length (levels : List Enclosure) : (closeSigns levels).length ≤ levels.length := by
  induction levels with
  | nil => exact Nat.le_refl _
  | cons enclosure levels ih =>
      cases enclosure with
      | group pos => exact Nat.le_refl _
      | sign => exact Nat.le_succ_of_le ih

theorem advance_within (limit : Nat) (tokens : List Token) (progress : Progress)
    (passed : advance limit .start tokens = some progress) : progress.levels.length ≤ limit := by
  induction tokens, progress, passed using advance_induction with
  | start => exact Nat.zero_le _
  | step before reached token next here stepped ih =>
      cases stepped with
      | literal => exact Nat.le_trans (close_signs_length _) ih
      | opened opened room => exact room
      | operator => exact ih
      | closing => exact Nat.le_trans (close_signs_length _) (Nat.le_of_succ_le ih)

-- A sign is closed with its operand, so none is open after an operand.
theorem advance_settled (limit : Nat) (tokens : List Token) (progress : Progress)
    (passed : advance limit .start tokens = some progress) (done : progress.operandNext = false) :
    closeSigns progress.levels = progress.levels := by
  induction tokens, progress, passed using advance_induction with
  | start => cases done
  | step before reached token next here stepped ih =>
      cases stepped with
      | literal => exact close_signs_idem _
      | opened => cases done
      | operator => cases done
      | closing => exact close_signs_idem _

-- The first phrase of a category in tokens that are read to the end.
theorem complete_begins (limit : Nat) (category : Category) (levels : List Enclosure) (tokens : List Token)
    (notPrimary : category ≠ .primary) (within : levels.length ≤ limit) (settled : Settled category levels)
    (complete : reading limit ⟨levels, true⟩ tokens = .complete) :
    ∃ before rest tree nesting, tokens = before ++ rest ∧ Derives category before tree nesting ∧
      levels.length + nesting ≤ limit ∧ Stops category rest := by
  have outcome := matchers_accounted limit (tokens.length + 1) category levels tokens (Nat.lt_succ_self _)
    notPrimary within settled
  generalize matcher limit category tokens ⟨levels.length, none⟩ = result at outcome
  cases outcome with
  | @matched tree before rest nesting shorter split derived room stops =>
      exact ⟨before, rest, tree, nesting, split, derived, room, stops⟩
  | interrupted shorter goesOn further stuck => cases complete.symm.trans stuck
  | unmatched further stuck => cases complete.symm.trans stuck
  | tooDeep stuck => cases complete.symm.trans stuck
  | notANumber stuck => cases complete.symm.trans stuck

theorem complete_sentence (limit : Nat) (tokens : List Token)
    (complete : reading limit .start tokens = .complete) : Sentence tokens := by
  obtain ⟨before, rest, tree, nesting, split, derived, room, stops⟩ :=
    complete_begins limit (.chain .additive) [] tokens (by decide) (Nat.zero_le _) rfl complete
  have read := derives_reading limit _ before rest tree nesting [] derived room rfl
  rw [← split, ← Progress.start, complete] at read
  cases rest with
  | nil =>
      rw [List.append_nil] at split
      exact ⟨tree, nesting, split ▸ derived⟩
  | cons token rest =>
      have continues : (Category.chain .additive).continues token = false := stops
      rw [reading] at read
      simp only [closeSigns, Progress.step, continues, Bool.false_eq_true, if_false] at read
      cases read

-- Closing parentheses alone complete what is open after an operand.
theorem closable (limit : Nat) (levels : List Enclosure) :
    ∃ rest, reading limit ⟨closeSigns levels, false⟩ rest = .complete := by
  induction levels with
  | nil => exact ⟨[], rfl⟩
  | cons enclosure levels ih =>
      obtain ⟨rest, complete⟩ := ih
      cases enclosure with
      | sign => exact ⟨rest, complete⟩
      | group pos =>
          refine ⟨⟨.operator, ")", 0⟩ :: rest, ?_⟩
          rw [closeSigns, reading_step limit _ _ _ rest (step_closing limit levels pos _ rfl)]
          · exact complete
          · intro _ absurdity
            cases absurdity

theorem advance_closable (limit : Nat) (tokens : List Token) (progress : Progress)
    (passed : advance limit .start tokens = some progress) :
    ∃ rest, reading limit progress rest = .complete := by
  obtain ⟨levels, operandNext⟩ := progress
  obtain ⟨rest, complete⟩ := closable limit levels
  cases operandNext with
  | true =>
      obtain ⟨value, reads⟩ := Option.isSome_iff_exists.mp
        (by decide +kernel : (Numeral.read? "0").isSome = true)
      have step := step_literal limit levels ⟨.integer, "0", 0⟩ value rfl reads
      exact ⟨_ :: rest, (reading_step limit _ _ _ rest step).trans complete⟩
  | false =>
      have settled : closeSigns levels = levels := advance_settled limit tokens _ passed rfl
      rw [settled] at complete
      exact ⟨rest, complete⟩

theorem complete_advance (limit : Nat) (origin : Progress) (before rest : List Token)
    (complete : reading limit origin (before ++ rest) = .complete) :
    ∃ progress, advance limit origin before = some progress := by
  induction before generalizing origin with
  | nil => exact ⟨origin, rfl⟩
  | cons token before ih =>
      rw [List.cons_append, reading] at complete
      rw [advance]
      cases taken : origin.step limit token with
      | ok next =>
          rw [taken] at complete
          exact ih next complete
      | error halt =>
          rw [taken] at complete
          cases halt with
          | rejected cause => cases complete
          | notANumber text => cases complete

theorem viable_iff_advance (tokens : List Token) :
    Viable tokens ↔ ∃ limit progress, advance limit .start tokens = some progress := by
  constructor
  · rintro ⟨rest, tree, nesting, derived⟩
    have read := derives_reading nesting _ _ [] tree nesting [] derived (by simp) rfl
    rw [List.append_nil] at read
    exact ⟨nesting, complete_advance nesting .start tokens rest read⟩
  · rintro ⟨limit, progress, passed⟩
    obtain ⟨rest, complete⟩ := advance_closable limit tokens progress passed
    exact ⟨rest, complete_sentence limit _
      ((reading_advance limit .start progress tokens rest passed).trans complete)⟩

end Reckon.Parse
