import Reckon.Proofs.Positions
import Reckon.Proofs.Recognition

set_option autoImplicit false

namespace Reckon.Parse

section

variable (limit : Nat) (body : List Token) (endMark : Token) (source : Option String)

-- A failure beyond the end mark stands for one at the mark: neither gives way to another.
def Ledger.state (ledger : Ledger) : State :=
  match ledger.furthest, ledger.failure with
  | .ofNat furthest, some error => ⟨ledger.depth, some ⟨body.drop furthest, error.cause⟩⟩
  | _, _ => ⟨ledger.depth, none⟩

inductive Shows {bound : Nat} : Outcome bound → Ending → Prop where
  | matched {tree : Expr} {stop : Nat} {ledger : Ledger} (shorter : (body.drop stop).length < bound) :
      Shows (.matched tree (body.drop stop) shorter (ledger.state body)) (.matched tree stop ledger)
  | unmatched {ledger : Ledger} : Shows (.unmatched (ledger.state body)) (.unmatched ledger)
  | tooDeep {deep : Nat} : Shows (.aborted (.tooDeep (body.drop deep))) (.tooDeep deep)

theorem state_depth (ledger : Ledger) : (ledger.state body).depth = ledger.depth := by
  rw [Ledger.state]
  split <;> rfl

theorem state_enter (ledger : Ledger) : (ledger.state body).enter = ledger.enter.state body := by
  simp only [Ledger.state, Ledger.enter]
  split <;> rfl

theorem state_leave (ledger : Ledger) : (ledger.state body).leave = ledger.leave.state body := by
  simp only [Ledger.state, Ledger.leave]
  split <;> rfl

-- Positions grow where what is left gets shorter.
theorem state_fail (ledger : Ledger) (pos : Nat) (token : Token) (cause : Cause)
    (within : pos ≤ body.length) (noted : ledger.Noted) :
    (ledger.state body).note (body.drop pos) cause =
      (ledger.fail source pos token cause).state body := by
  obtain ⟨depth, furthest, failure⟩ := ledger
  cases furthest with
  | negSucc below =>
      rw [fail_further source _ pos token cause
        (Int.lt_of_lt_of_le (Int.negSucc_lt_zero below) (Int.natCast_nonneg pos))]
      rfl
  | ofNat furthest =>
      cases failure with
      | none => exact absurd (noted (Int.natCast_nonneg furthest)) Bool.false_ne_true
      | some error =>
          by_cases further : furthest < pos
          · have shorter : (body.drop pos).length < (body.drop furthest).length := by
              simp only [List.length_drop]
              omega
            rw [fail_further source _ pos token cause (Int.ofNat_lt.mpr further)]
            simp only [Ledger.state, State.note, if_pos shorter]
          · have longer : ¬ (body.drop pos).length < (body.drop furthest).length := by
              simp only [List.length_drop]
              omega
            rw [fail_nearer source _ pos token cause (fun less => further (Int.ofNat_lt.mp less))]
            simp only [Ledger.state, State.note, if_neg longer]

theorem shows_fail (bound : Nat) (ledger : Ledger) (pos : Nat) (token : Token) (cause : Cause)
    (within : pos ≤ body.length) (noted : ledger.Noted) :
    Shows body (.unmatched ((ledger.state body).note (body.drop pos) cause) : Outcome bound)
      (.unmatched (ledger.fail source pos token cause)) := by
  rw [state_fail body source ledger pos token cause within noted]
  exact .unmatched

theorem front_cases (pos : Nat) (within : pos ≤ body.length) :
    (body.drop pos = [] ∧ (body ++ [endMark])[pos]? = some endMark) ∨
    ∃ token, body.drop pos = token :: body.drop (pos + 1) ∧
      (body ++ [endMark])[pos]? = some token ∧ token ∈ body ∧ pos < body.length := by
  by_cases inside : pos < body.length
  · refine .inr ⟨body[pos], List.drop_eq_getElem_cons inside, ?_, List.getElem_mem inside, inside⟩
    rw [List.getElem?_append_left inside, List.getElem?_eq_getElem inside]
  · have atEnd : pos = body.length := Nat.le_antisymm within (Nat.not_lt.mp inside)
    rw [atEnd]
    exact .inl ⟨List.drop_length, List.getElem?_concat_length⟩

def Traced (category : Category) (pos : Nat) (ledger : Ledger) : Prop :=
  ∃ ending, Runs limit (body ++ [endMark]) source (.rule category pos) ledger ending ∧
    Shows body (matcher limit category (body.drop pos) (ledger.state body)) ending

-- What is said of later positions while the matchers at one position are looked at.
def TracedBelow (size : Nat) : Prop :=
  ∀ (category : Category) (pos : Nat) (ledger : Ledger), pos ≤ body.length →
    (body.drop pos).length < size → ledger.Noted →
    Traced limit body endMark source category pos ledger

theorem group_traced (ends : endMark.kind = .eof) (pos : Nat) (ledger : Ledger) (token : Token)
    (front : body.drop pos = token :: body.drop (pos + 1))
    (here : (body ++ [endMark])[pos]? = some token) (inside : pos < body.length)
    (opens : token.isOperator "(") (noted : ledger.Noted)
    (below : TracedBelow limit body endMark source (body.drop pos).length) :
    Traced limit body endMark source .primary pos ledger := by
  rw [Traced, matcher, front, primary, operator_not_literal token "(" opens,
    if_neg Bool.false_ne_true, if_pos opens, state_depth]
  by_cases full : limit ≤ ledger.depth
  · rw [if_pos full, ← front]
    exact ⟨_, .groupDeep here opens full, .tooDeep⟩
  · have room := Nat.not_le.mp full
    rw [if_neg full, state_enter]
    obtain ⟨inner, run, shows⟩ := below (.chain .additive) (pos + 1) ledger.enter inside
      (by rw [front]; exact Nat.lt_succ_self _) noted
    have framed := runs_framed limit body endMark source ends _ _ inner run noted
    rw [matcher] at shows
    generalize chain limit .additive (body.drop (pos + 1)) (ledger.enter.state body) = outcome at shows
    cases shows with
    | @matched tree stop after shorter =>
        obtain ⟨follows, _, stopped⟩ := framed
        have failed := fun found => shows_fail body source (token :: body.drop (pos + 1)).length
          after.leave stop found (.unclosed token.pos) stopped follows.noted
        -- The bound on what is left speaks of the same tokens, so it is rewritten along with them.
        revert shorter
        rcases front_cases body endMark stop stopped with ⟨rest, there⟩ | ⟨other, rest, there, _, _⟩
        · have unclosed : ¬ endMark.isOperator ")" := fun spelled => spelled_not_end _ _ spelled ends
          rw [rest] at failed ⊢
          intro shorter
          simp only [state_leave]
          exact ⟨_, .groupUnclosed here opens room run there unclosed, failed endMark⟩
        · rw [rest] at failed ⊢
          intro shorter
          by_cases closes : other.isOperator ")"
          · simp only [if_pos closes, state_leave]
            exact ⟨_, .group here opens room run there closes, .matched _⟩
          · simp only [if_neg closes, state_leave]
            exact ⟨_, .groupUnclosed here opens room run there closes, failed other⟩
    | @unmatched after =>
        obtain ⟨next, there⟩ := lookup_found body endMark (pos + 1) inside
        simp only [state_leave]
        exact ⟨_, .groupEmpty here opens room run there,
          shows_fail body source _ after.leave _ _ _ inside framed.1.noted⟩
    | tooDeep => exact ⟨_, .groupInnerDeep here opens room run, .tooDeep⟩

theorem primary_traced (ends : endMark.kind = .eof)
    (numerals : ∀ token ∈ body, token.isLiteral → (Numeral.read? token.text).isSome)
    (pos : Nat) (ledger : Ledger) (within : pos ≤ body.length) (noted : ledger.Noted)
    (below : TracedBelow limit body endMark source (body.drop pos).length) :
    Traced limit body endMark source .primary pos ledger := by
  have failed := fun bound token cause =>
    shows_fail body source bound ledger pos token cause within noted
  rcases front_cases body endMark pos within with ⟨front, here⟩ | ⟨token, front, here, member, inside⟩
  · have notLiteral : ¬ endMark.isLiteral := fun isLiteral => literal_not_end _ isLiteral ends
    have notOpening : ¬ endMark.isOperator "(" := fun spelled => spelled_not_end _ _ spelled ends
    refine ⟨_, .misfit here notLiteral notOpening, ?_⟩
    rw [front] at failed
    rw [matcher, front, primary, misfit, ends]
    exact failed _ endMark .noExpression
  · by_cases opens : token.isOperator "("
    · exact group_traced limit body endMark source ends pos ledger token front here inside opens noted
        below
    · by_cases isLiteral : token.isLiteral
      · obtain ⟨value, reads⟩ := Option.isSome_iff_exists.mp (numerals token member isLiteral)
        refine ⟨_, .literal here isLiteral reads, ?_⟩
        rw [matcher, front, primary, if_pos isLiteral]
        simp only [reads]
        exact .matched _
      · refine ⟨_, .misfit here isLiteral opens, ?_⟩
        rw [front] at failed
        rw [matcher, front, primary, if_neg isLiteral, if_neg opens, misfit]
        by_cases malformed : token.kind = .malformed
        · rw [if_pos malformed, if_pos malformed]
          exact failed _ token .invalidToken
        · rw [if_neg malformed, if_neg malformed]
          exact failed _ token .noExpression

theorem signed_traced (ends : endMark.kind = .eof) (pos : Nat) (ledger : Ledger)
    (within : pos ≤ body.length) (noted : ledger.Noted)
    (below : TracedBelow limit body endMark source (body.drop pos).length)
    (primaries : Traced limit body endMark source .primary pos ledger) :
    Traced limit body endMark source .signed pos ledger := by
  obtain ⟨ending, run, shows⟩ := primaries
  rw [matcher] at shows
  rcases front_cases body endMark pos within with ⟨front, here⟩ | ⟨token, front, here, _, inside⟩
  · have absent : sign? endMark = none := no_sign endMark (fun sign =>
      Bool.eq_false_iff.mpr (fun spelled => spelled_not_end _ _ spelled ends))
    refine ⟨ending, .unsigned here absent run, ?_⟩
    rw [front] at shows
    rw [matcher, front, signed]
    exact shows
  · cases found : sign? token with
    | none =>
        refine ⟨ending, .unsigned here found run, ?_⟩
        rw [front] at shows
        rw [matcher, front, signed, found]
        exact shows
    | some sign =>
        rw [Traced, matcher, front, signed, found]
        by_cases full : limit ≤ ledger.depth
        · simp only [state_depth, if_pos full]
          rw [← front]
          exact ⟨_, .signDeep here found full, .tooDeep⟩
        · simp only [state_depth, if_neg full, state_enter]
          obtain ⟨inner, operand, shown⟩ := below .signed (pos + 1) ledger.enter inside
            (by rw [front]; exact Nat.lt_succ_self _) noted
          rw [matcher] at shown
          refine ⟨_, .signed here found (Nat.not_le.mp full) operand, ?_⟩
          generalize signed limit (body.drop (pos + 1)) (ledger.enter.state body) = outcome at shown
          cases shown with
          | matched shorter =>
              simp only [state_leave]
              exact .matched _
          | unmatched =>
              simp only [state_leave]
              exact .unmatched
          | tooDeep => exact .tooDeep

-- Each operand of a chain moves the position on, which is what the recursion is on.
theorem tail_traced (ends : endMark.kind = .eof) (level : Level) (left : Expr) (pos bound : Nat)
    (ledger : Ledger) (within : pos ≤ body.length) (shorter : (body.drop pos).length < bound)
    (noted : ledger.Noted) (below : TracedBelow limit body endMark source (body.drop pos).length) :
    ∃ ending, Runs limit (body ++ [endMark]) source (.tail level left pos) ledger ending ∧
      Shows body (chainTail limit level bound left (body.drop pos) shorter (ledger.state body))
        ending := by
  have stops := chain_tail_ends limit level bound left (body.drop pos) shorter (ledger.state body)
  rcases front_cases body endMark pos within with ⟨front, here⟩ | ⟨token, front, here, _, inside⟩
  · have absent : level.operator? endMark = none := by
      cases found : level.operator? endMark with
      | none => rfl
      | some op =>
          exact absurd ends (spelled_not_end _ _ ((operator_found level endMark op).mp found).2)
    refine ⟨_, .tailEnds here absent, ?_⟩
    have empty : ∀ token tail, body.drop pos = token :: tail → level.operator? token = none := by
      intro token tail split
      cases front.symm.trans split
    rw [stops empty]
    exact .matched shorter
  · cases found : level.operator? token with
    | none =>
        refine ⟨_, .tailEnds here found, ?_⟩
        have absent : ∀ other tail, body.drop pos = other :: tail → level.operator? other = none := by
          intro other tail split
          cases front.symm.trans split
          exact found
        rw [stops absent]
        exact .matched shorter
    | some op =>
        have less : (body.drop (pos + 1)).length < (body.drop pos).length := by
          rw [front]
          exact Nat.lt_succ_self _
        obtain ⟨inner, operand, shows⟩ := below level.operands (pos + 1) ledger inside less noted
        have framed := runs_framed limit body endMark source ends _ _ inner operand noted
        clear stops
        revert shorter
        rw [front]
        intro shorter
        rw [chainTail, found]
        simp only [operand_matcher]
        generalize matcher limit level.operands (body.drop (pos + 1)) (ledger.state body) = outcome at shows
        cases shows with
        | @matched right stop after closer =>
            obtain ⟨follows, started, stopped⟩ := framed
            have further : pos < stop := Nat.le_of_succ_le started
            obtain ⟨ending, others, shown⟩ := tail_traced ends level (.binary op left right) stop bound
              after stopped (Nat.lt_trans closer (Nat.lt_of_succ_lt shorter)) follows.noted
              (fun category later inner reached size =>
                below category later inner reached (Nat.lt_trans size (Nat.lt_trans closer less)))
            exact ⟨ending, .tailMore here found operand others, shown⟩
        | unmatched =>
            simp only [← front]
            exact ⟨_, .tailBreaks here found operand, .matched _⟩
        | tooDeep => exact ⟨_, .tailDeep here found operand, .tooDeep⟩
termination_by body.length - pos

theorem chain_traced (ends : endMark.kind = .eof) (level : Level) (pos : Nat) (ledger : Ledger)
    (noted : ledger.Noted) (below : TracedBelow limit body endMark source (body.drop pos).length)
    (operands : Traced limit body endMark source level.operands pos ledger) :
    Traced limit body endMark source (.chain level) pos ledger := by
  obtain ⟨inner, first, shows⟩ := operands
  have framed := runs_framed limit body endMark source ends _ _ inner first noted
  rw [Traced, matcher, chain, operand_matcher]
  generalize matcher limit level.operands (body.drop pos) (ledger.state body) = outcome at shows
  cases shows with
  | @matched left next middle shorter =>
      obtain ⟨follows, _, stopped⟩ := framed
      obtain ⟨ending, others, shown⟩ := tail_traced limit body endMark source ends level left next _
        middle stopped shorter follows.noted (fun category later inner reached size =>
          below category later inner reached (Nat.lt_trans size shorter))
      exact ⟨ending, .chain first others, shown⟩
  | unmatched => exact ⟨_, .chainFails first, .unmatched⟩
  | tooDeep => exact ⟨_, .chainDeep first, .tooDeep⟩

-- The induction is on the number of tokens left; matchers at one position are taken from the
-- tightest up.
theorem matchers_traced (ends : endMark.kind = .eof)
    (numerals : ∀ token ∈ body, token.isLiteral → (Numeral.read? token.text).isSome) (size : Nat) :
    TracedBelow limit body endMark source size := by
  induction size with
  | zero =>
      intro category pos ledger within short
      exact absurd short (Nat.not_lt_zero _)
  | succ size ih =>
      intro category pos ledger within short noted
      have below : TracedBelow limit body endMark source (body.drop pos).length :=
        fun category later inner reached less =>
          ih category later inner reached (Nat.lt_of_lt_of_le less (Nat.le_of_lt_succ short))
      have primaries := primary_traced limit body endMark source ends numerals pos ledger within noted
        below
      have signs := signed_traced limit body endMark source ends pos ledger within noted below primaries
      have products := chain_traced limit body endMark source ends .multiplicative pos ledger noted
        below signs
      cases category with
      | primary => exact primaries
      | signed => exact signs
      | chain level =>
          cases level with
          | multiplicative => exact products
          | additive =>
              exact chain_traced limit body endMark source ends .additive pos ledger noted below products

end

-- The matcher's outcome shows the one ending that the rules have for the call.
theorem matchers_keep_frame (limit : Nat) (body : List Token) (endMark : Token)
    (source : Option String) (ends : endMark.kind = .eof)
    (numerals : ∀ token ∈ body, token.isLiteral → (Numeral.read? token.text).isSome)
    (category : Category) (pos : Nat) (within : pos ≤ body.length) (ledger : Ledger)
    (noted : ledger.Noted) :
    ∃ ending, Shows body (matcher limit category (body.drop pos) (ledger.state body)) ending ∧
      (∀ other, Runs limit (body ++ [endMark]) source (.rule category pos) ledger other ↔
        other = ending) ∧
      Framed body.length (.rule category pos) ledger ending := by
  obtain ⟨ending, run, shows⟩ := matchers_traced limit body endMark source ends numerals
    ((body.drop pos).length + 1) category pos ledger within (Nat.lt_succ_self _) noted
  refine ⟨ending, shows, fun other => ⟨fun otherRun => ?_, fun same => same ▸ run⟩, ?_⟩
  · exact runs_unique limit _ source _ ledger other ending otherRun run
  · exact runs_framed limit body endMark source ends _ ledger ending run noted

-- The operand after the plus is missing, so the parenthesis is not closed either.
theorem frame_of_unfinished_group :
    ∃ ending, Runs maxDepth [⟨.operator, "(", 0⟩, ⟨.integer, "1", 1⟩, ⟨.operator, "+", 2⟩,
        ⟨.operator, ")", 3⟩, ⟨.eof, "", 4⟩] none (.rule .primary 0) ⟨2, -1, none⟩ ending ∧
      Framed 4 (.rule .primary 0) ⟨2, -1, none⟩ ending := by
  obtain ⟨ending, _, runs, framed⟩ := matchers_keep_frame maxDepth [⟨.operator, "(", 0⟩,
    ⟨.integer, "1", 1⟩, ⟨.operator, "+", 2⟩, ⟨.operator, ")", 3⟩] ⟨.eof, "", 4⟩ none rfl
    (by decide +kernel) .primary 0 (Nat.zero_le _) ⟨2, -1, none⟩ (fun noted => absurd noted (by decide))
  exact ⟨ending, (runs ending).mpr rfl, framed⟩

end Reckon.Parse
