import Reckon.Proofs.Diagnosis

set_option autoImplicit false

namespace Reckon.Parse

def Opens (token : Token) : Prop :=
  token.isOperator "(" ∨ ∃ sign : Sign, token.isOperator sign.symbol

-- The token at `place` opens a level where an operand is due, and the phrase from there on, up to
-- the closing parenthesis or the end of the operand of the sign, is not complete.
def OpenAt (tokens : List Token) (place : Nat) : Prop :=
  (∃ token, tokens[place]? = some token ∧ Opens token) ∧ OperandDue (tokens.take place) ∧
    ∀ phrase, phrase <+: tokens.drop place → ¬ Phrase .signed phrase

open Classical in
noncomputable def openLevels (tokens : List Token) : Nat :=
  (List.range tokens.length).countP fun place => OpenAt tokens place

theorem opens_iff (token : Token) : Opens token ↔ ∃ enclosure, opened? token = some enclosure := by
  constructor
  · rintro (opens | ⟨sign, spelled⟩)
    · exact ⟨_, opened_group token opens⟩
    · exact ⟨_, opened_sign token sign spelled⟩
  · rintro ⟨enclosure, opened⟩
    rcases (opened_iff token enclosure).mp opened with ⟨opens, _⟩ | ⟨signed, _⟩
    · exact .inl opens
    · exact .inr signed

theorem opens_not_literal (token : Token) (opens : Opens token) : token.isLiteral = false := by
  obtain ⟨enclosure, opened⟩ := (opens_iff token).mp opens
  exact opened_not_literal token enclosure opened

theorem advance_due (limit : Nat) (tokens : List Token) (progress : Progress)
    (passed : advance limit .start tokens = some progress) :
    OperandDue tokens ↔ progress.operandNext = true := by
  have position := advance_position limit tokens progress passed
  obtain ⟨levels, operandNext⟩ := progress
  cases operandNext with
  | true => exact ⟨fun _ => rfl, fun _ => position⟩
  | false => exact ⟨fun due => (due_not_done tokens due position).elim, fun absurdity => by cases absurdity⟩

theorem close_signs_above (above outer : List Enclosure) :
    closeSigns above ≠ [] ∧ closeSigns (above ++ outer) = closeSigns above ++ outer ∨
      closeSigns above = [] := by
  induction above with
  | nil => exact .inr rfl
  | cons enclosure above ih =>
      cases enclosure with
      | group pos => exact .inl ⟨by simp [closeSigns], rfl⟩
      | sign => exact ih

-- A step looks at no level below those that it closes.
theorem step_above (limit : Nat) (token : Token) (above outer : List Enclosure) (operandNext : Bool)
    (next : Progress) (nonempty : above ≠ [])
    (stepped : Step limit token ⟨above ++ outer, operandNext⟩ next) :
    ∃ after, Step limit token ⟨above, operandNext⟩ ⟨after, next.operandNext⟩ ∧
      (after ≠ [] ∧ next.levels = after ++ outer ∨ after = [] ∧ next.operandNext = false) := by
  generalize split : above ++ outer = levels at stepped
  cases stepped with
  | literal isLiteral reads =>
      refine ⟨closeSigns above, .literal isLiteral reads, ?_⟩
      rw [← split]
      exact (close_signs_above above outer).imp id (fun emptied => ⟨emptied, rfl⟩)
  | @opened _ enclosure opened room =>
      have innerRoom : above.length < limit := by
        rw [← split, List.length_append] at room
        omega
      exact ⟨enclosure :: above, .opened opened innerRoom, .inl ⟨by simp, by rw [← split]; rfl⟩⟩
  | operator continues => exact ⟨above, .operator continues, .inl ⟨nonempty, split.symm⟩⟩
  | closing closes =>
      cases above with
      | nil => exact absurd rfl nonempty
      | cons enclosure above =>
          rw [List.cons_append, List.cons.injEq] at split
          obtain ⟨rfl, rest⟩ := split
          refine ⟨closeSigns above, .closing closes, ?_⟩
          rw [← rest]
          exact (close_signs_above above outer).imp id (fun emptied => ⟨emptied, rfl⟩)

theorem advance_above (limit : Nat) (stack outer : List Enclosure) (operandNext : Bool)
    (tokens : List Token) (progress : Progress) (nonempty : stack ≠ [])
    (passed : advance limit ⟨stack ++ outer, operandNext⟩ tokens = some progress) :
    (∃ above, above ≠ [] ∧ progress.levels = above ++ outer ∧
      advance limit ⟨stack, operandNext⟩ tokens = some ⟨above, progress.operandNext⟩) ∨
    ∃ front, front <+: tokens ∧ advance limit ⟨stack, operandNext⟩ front = some ⟨[], false⟩ := by
  induction tokens, progress, passed using advance_induction with
  | start => exact .inl ⟨stack, nonempty, rfl, rfl⟩
  | step before reached token next here stepped ih =>
      obtain ⟨levels, flag⟩ := reached
      rcases ih with ⟨above, remains, rfl, inner⟩ | ⟨front, begins, closed⟩
      · obtain ⟨after, innerStep, outcome⟩ := step_above limit token above outer flag next remains stepped
        have there := (advance_snoc limit _ _ before token).mpr ⟨_, inner, innerStep⟩
        rcases outcome with ⟨stays, split⟩ | ⟨rfl, done⟩
        · exact .inl ⟨after, stays, split, there⟩
        · rw [done] at there
          exact .inr ⟨_, List.prefix_refl _, there⟩
      · exact .inr ⟨front, begins.trans (List.prefix_append _ _), closed⟩

-- A stack that one opening began is closed only by the end of its phrase.
theorem opening_completed (limit : Nat) (token : Token) (enclosure : Enclosure) (front : List Token)
    (opened : opened? token = some enclosure) (room : 0 < limit)
    (closed : advance limit ⟨[enclosure], true⟩ front = some ⟨[], false⟩) :
    ∃ phrase, phrase <+: token :: front ∧ Phrase .signed phrase := by
  have complete : reading limit ⟨[], true⟩ (token :: front) = .complete := by
    have read := reading_advance limit _ _ front [] closed
    rw [List.append_nil] at read
    rw [reading_step limit _ _ token front (step_opened limit [] token enclosure opened room), read]
    rfl
  obtain ⟨phrase, rest, tree, nesting, split, derived, _⟩ :=
    complete_begins limit .signed [] (token :: front) (by decide) (Nat.zero_le _) trivial complete
  exact ⟨phrase, ⟨rest, split.symm⟩, tree, nesting, derived⟩

-- While its phrase is not complete, an opening keeps its level.
theorem open_deeper (limit : Nat) (tokens : List Token) (place : Nat) (reached progress : Progress)
    (passed : advance limit .start tokens = some progress) (isOpen : OpenAt tokens place)
    (here : advance limit .start (tokens.take place) = some reached) :
    reached.levels.length < progress.levels.length := by
  obtain ⟨⟨token, found, opens⟩, due, incomplete⟩ := isOpen
  obtain ⟨levels, operandNext⟩ := reached
  cases (advance_due limit _ _ here).mp due
  obtain ⟨_, again, onwards⟩ := advance_split limit .start progress tokens place passed
  cases here.symm.trans again
  obtain ⟨inside, rfl⟩ := List.getElem?_eq_some_iff.mp found
  rw [List.drop_eq_getElem_cons inside] at onwards incomplete
  obtain ⟨next, stepped, onwards⟩ := (advance_cons limit _ _ _ _).mp onwards
  cases stepped with
  | literal isLiteral =>
      rw [opens_not_literal _ opens] at isLiteral
      cases isLiteral
  | @opened _ enclosure opened room =>
      rcases advance_above limit [enclosure] levels true _ progress (by simp) onwards with
        ⟨above, remains, split, _⟩ | ⟨front, begins, closed⟩
      · have positive := List.length_pos_iff.mpr remains
        rw [split, List.length_append]
        exact Nat.lt_add_of_pos_left positive
      · obtain ⟨phrase, shorter, complete⟩ := opening_completed limit _ enclosure front opened
          (Nat.lt_of_le_of_lt (Nat.zero_le _) room) closed
        have within : phrase <+: tokens[place] :: tokens.drop (place + 1) :=
          shorter.trans ((List.prefix_cons_inj _).mpr begins)
        exact absurd complete (incomplete phrase within)

theorem phrase_advance (limit : Nat) (levels : List Enclosure) (tokens : List Token) (progress : Progress)
    (phrase : Phrase .signed tokens) (passed : advance limit ⟨levels, true⟩ tokens = some progress) :
    progress = ⟨closeSigns levels, false⟩ := by
  obtain ⟨tree, nesting, derived⟩ := phrase
  have through := derives_advance (levels.length + nesting) _ tokens tree nesting levels derived
    (Nat.le_refl _) trivial
  exact advance_agree limit _ _ _ _ tokens passed through

theorem open_snoc (before : List Token) (token : Token) (place : Nat) (inside : place < before.length) :
    OpenAt (before ++ [token]) place ↔
      OpenAt before place ∧ ¬ Phrase .signed (before.drop place ++ [token]) := by
  have order := Nat.le_of_lt inside
  simp only [OpenAt, List.getElem?_append_left inside, List.take_append_of_le_length order,
    List.drop_append_of_le_length order, List.prefix_concat_iff]
  constructor
  · rintro ⟨opens, due, incomplete⟩
    exact ⟨⟨opens, due, fun phrase begins => incomplete phrase (.inr begins)⟩, incomplete _ (.inl rfl)⟩
  · rintro ⟨⟨opens, due, incomplete⟩, unfinished⟩
    refine ⟨opens, due, ?_⟩
    rintro phrase (rfl | begins)
    · exact unfinished
    · exact incomplete phrase begins

-- One more token closes just the levels that the depth falls to.
theorem open_step (limit : Nat) (before : List Token) (token : Token) (place : Nat)
    (reached next : Progress) (inside : place < before.length)
    (passed : advance limit .start (before ++ [token]) = some next)
    (here : advance limit .start (before.take place) = some reached) :
    OpenAt (before ++ [token]) place ↔
      OpenAt before place ∧ reached.levels.length < next.levels.length := by
  have order := Nat.le_of_lt inside
  have taken : (before ++ [token]).take place = before.take place := List.take_append_of_le_length order
  constructor
  · intro isOpen
    exact ⟨((open_snoc before token place inside).mp isOpen).1,
      open_deeper limit _ place reached next passed isOpen (taken ▸ here)⟩
  · rintro ⟨isOpen, deeper⟩
    refine (open_snoc before token place inside).mpr ⟨isOpen, fun phrase => ?_⟩
    obtain ⟨levels, operandNext⟩ := reached
    cases (advance_due limit _ _ here).mp isOpen.2.1
    obtain ⟨_, again, onwards⟩ := advance_split limit .start next _ place passed
    rw [taken] at again
    cases here.symm.trans again
    rw [List.drop_append_of_le_length order] at onwards
    have closed := phrase_advance limit levels _ next phrase onwards
    rw [closed] at deeper
    exact absurd (close_signs_length levels) (Nat.not_le.mpr deeper)

theorem open_last (before : List Token) (token : Token) :
    OpenAt (before ++ [token]) before.length ↔ Opens token ∧ OperandDue before := by
  rw [OpenAt, List.getElem?_concat_length, List.take_left, List.drop_left]
  constructor
  · rintro ⟨⟨_, same, opens⟩, due, _⟩
    cases same
    exact ⟨opens, due⟩
  · rintro ⟨opens, due⟩
    obtain ⟨enclosure, opened⟩ := (opens_iff token).mp opens
    refine ⟨⟨token, rfl, opens⟩, due, fun phrase begins complete => ?_⟩
    rcases List.prefix_cons_iff.mp begins with rfl | ⟨rest, rfl, nothing⟩
    · cases phrase_advance 0 [] [] _ complete rfl
    · rw [List.prefix_nil.mp nothing] at complete
      have step := step_opened 1 [] token enclosure opened (Nat.zero_lt_one)
      cases phrase_advance 1 [] [token] _ complete (advance_step 1 _ _ token [] step)

-- The openings are counted by the depth at which they stand: a token that ends a phrase closes
-- those from some depth on, and no others.
def OpenBelow (limit : Nat) (tokens : List Token) (bound place : Nat) : Prop :=
  OpenAt tokens place ∧ ∃ reached, advance limit .start (tokens.take place) = some reached ∧
    reached.levels.length < bound

theorem open_below_step (limit : Nat) (before : List Token) (token : Token) (bound place : Nat)
    (next : Progress) (inside : place < before.length)
    (passed : advance limit .start (before ++ [token]) = some next) :
    OpenBelow limit (before ++ [token]) bound place ↔
      OpenBelow limit before (min bound next.levels.length) place := by
  have taken : (before ++ [token]).take place = before.take place :=
    List.take_append_of_le_length (Nat.le_of_lt inside)
  obtain ⟨reached, here, _⟩ := advance_split limit .start next _ place passed
  rw [taken] at here
  have step := open_step limit before token place reached next inside passed here
  simp only [OpenBelow, taken, here, Option.some.injEq, exists_eq_left', step, Nat.lt_min]
  constructor
  · rintro ⟨⟨isOpen, deeper⟩, below⟩
    exact ⟨isOpen, below, deeper⟩
  · rintro ⟨isOpen, below, deeper⟩
    exact ⟨⟨isOpen, deeper⟩, below⟩

theorem open_below_last (limit : Nat) (before : List Token) (token : Token) (bound : Nat)
    (reached : Progress) (here : advance limit .start before = some reached) :
    OpenBelow limit (before ++ [token]) bound before.length ↔
      (Opens token ∧ reached.operandNext = true) ∧ reached.levels.length < bound := by
  simp only [OpenBelow, open_last, List.take_left, here, Option.some.injEq, exists_eq_left',
    advance_due limit before reached here]

theorem step_depth (limit : Nat) (token : Token) (progress next : Progress)
    (stepped : Step limit token progress next) :
    (Opens token ∧ progress.operandNext = true) ∧ next.levels.length = progress.levels.length + 1 ∨
      ¬ (Opens token ∧ progress.operandNext = true) ∧ next.levels.length ≤ progress.levels.length := by
  cases stepped with
  | literal isLiteral =>
      refine .inr ⟨fun opening => ?_, close_signs_length _⟩
      rw [opens_not_literal token opening.1] at isLiteral
      cases isLiteral
  | opened opened room => exact .inl ⟨⟨(opens_iff token).mpr ⟨_, opened⟩, rfl⟩, rfl⟩
  | operator => exact .inr ⟨fun opening => Bool.false_ne_true opening.2, Nat.le_refl _⟩
  | closing =>
      exact .inr ⟨fun opening => Bool.false_ne_true opening.2, Nat.le_succ_of_le (close_signs_length _)⟩

open Classical in
theorem count_open_below (limit : Nat) (tokens : List Token) (progress : Progress)
    (passed : advance limit .start tokens = some progress) (bound : Nat) :
    ((List.range tokens.length).countP fun place => OpenBelow limit tokens bound place) =
      min bound progress.levels.length := by
  induction tokens, progress, passed using advance_induction generalizing bound with
  | start => exact (Nat.min_zero bound).symm
  | step before reached token next here stepped ih =>
      have there := (advance_snoc limit .start next before token).mpr ⟨reached, here, stepped⟩
      have earlier : ((List.range before.length).countP fun place =>
            OpenBelow limit (before ++ [token]) bound place) =
          (List.range before.length).countP fun place =>
            OpenBelow limit before (min bound next.levels.length) place := by
        apply List.countP_congr
        intro place inside
        simp only [decide_eq_true_eq]
        exact open_below_step limit before token bound place next (List.mem_range.mp inside) there
      have last := open_below_last limit before token bound reached here
      rw [List.length_append, List.length_singleton, List.range_succ, List.countP_append, earlier, ih,
        List.countP_singleton]
      simp only [last, decide_eq_true_eq]
      rcases step_depth limit token reached next stepped with ⟨opening, deeper⟩ | ⟨other, flat⟩
      · by_cases below : reached.levels.length < bound
        · rw [if_pos ⟨opening, below⟩]
          omega
        · rw [if_neg (fun both => below both.2)]
          omega
      · rw [if_neg (fun both => other both.1)]
        omega

theorem open_levels_depth (limit : Nat) (tokens : List Token) (progress : Progress)
    (passed : advance limit .start tokens = some progress) :
    openLevels tokens = progress.levels.length := by
  classical
  have count := count_open_below limit tokens progress passed progress.levels.length
  rw [Nat.min_self] at count
  rw [openLevels, ← count]
  apply List.countP_congr
  intro place _
  simp only [decide_eq_true_eq]
  obtain ⟨reached, here, _⟩ := advance_split limit .start progress tokens place passed
  constructor
  · intro isOpen
    exact ⟨isOpen, reached, here, open_deeper limit tokens place reached progress passed isOpen here⟩
  · intro below
    exact below.1

theorem open_levels_within (limit : Nat) (tokens : List Token) (progress : Progress) (place : Nat)
    (passed : advance limit .start tokens = some progress) : openLevels (tokens.take place) ≤ limit := by
  obtain ⟨reached, here, _⟩ := advance_split limit .start progress tokens place passed
  rw [open_levels_depth limit _ reached here]
  exact advance_within limit _ reached here

theorem step_narrow (limit bound : Nat) (token : Token) (progress next : Progress)
    (within : next.levels.length ≤ bound) (stepped : Step limit token progress next) :
    Step bound token progress next := by
  cases stepped with
  | literal isLiteral reads => exact .literal isLiteral reads
  | opened opened room => exact .opened opened within
  | operator continues => exact .operator continues
  | closing closes => exact .closing closes

-- The limit of a reading matters only through the depths that it gets to.
theorem advance_narrow (limit bound : Nat) (tokens : List Token) (progress : Progress)
    (passed : advance limit .start tokens = some progress)
    (shallow : ∀ earlier, earlier <+: tokens → openLevels earlier ≤ bound) :
    advance bound .start tokens = some progress := by
  induction tokens, progress, passed using advance_induction with
  | start => rfl
  | step before reached token next here stepped ih =>
      have there := (advance_snoc limit .start next before token).mpr ⟨reached, here, stepped⟩
      have within := shallow _ (List.prefix_refl _)
      rw [open_levels_depth limit _ next there] at within
      have narrowed := ih (fun earlier begins => shallow earlier (begins.trans (List.prefix_append _ _)))
      exact (advance_snoc bound .start next before token).mpr
        ⟨reached, narrowed, step_narrow limit bound token reached next within stepped⟩

theorem shallow_prefixes (tokens : List Token) (k : Nat) (full : openLevels (tokens.take k) = maxDepth)
    (shallow : ∀ j < k, openLevels (tokens.take j) ≤ maxDepth) (earlier : List Token)
    (begins : earlier <+: tokens.take k) : openLevels earlier ≤ maxDepth := by
  rw [List.prefix_iff_eq_take.mp begins, List.take_take]
  rcases Nat.lt_or_ge earlier.length k with less | more
  · rw [Nat.min_eq_left (Nat.le_of_lt less)]
    exact shallow _ less
  · rw [Nat.min_eq_right more]
    exact Nat.le_of_eq full

theorem refused_deep (limit : Nat) (token : Token) (progress : Progress)
    (refused : Refused limit token progress .tooDeep) :
    ∃ levels enclosure, progress = ⟨levels, true⟩ ∧ opened? token = some enclosure ∧
      limit ≤ levels.length := by
  cases refused with
  | @tooDeep levels enclosure opened full => exact ⟨levels, enclosure, rfl, opened, full⟩

-- An opening at full depth, with any tokens after it.
theorem parse_too_deep (before after : List Token) (token endMark : Token) (source : Option String)
    (levels : List Enclosure) (enclosure : Enclosure) (ends : endMark.kind = .eof)
    (passed : advance maxDepth .start before = some ⟨levels, true⟩)
    (opened : opened? token = some enclosure) (full : maxDepth ≤ levels.length) :
    parseTokens (before ++ token :: after ++ [endMark]) source =
      .error (.rejected ⟨.tooDeep, before.length, token, source⟩) := by
  have stuck := reading_rejected maxDepth ⟨levels, true⟩ token after .tooDeep
    (step_deep maxDepth levels token enclosure opened full)
  rw [← reading_advance maxDepth _ _ before (token :: after) passed] at stuck
  rw [parse_tokens_rejected _ _ endMark source .tooDeep ends stuck]
  simp [errorAt]

-- Where an operand is due, one more level can be opened under a greater limit.
theorem opened_viable (limit : Nat) (before : List Token) (token : Token) (levels : List Enclosure)
    (enclosure : Enclosure) (passed : advance limit .start before = some ⟨levels, true⟩)
    (opened : opened? token = some enclosure) : Viable (before ++ [token]) := by
  have wider := advance_widen limit (limit + 1) _ _ _ (Nat.le_succ _) passed
  have room : levels.length < limit + 1 := Nat.lt_succ_of_le (advance_within limit before _ passed)
  exact (viable_iff_advance _).mpr ⟨limit + 1, _, (advance_snoc _ _ _ _ _).mpr
    ⟨_, wider, .opened opened room⟩⟩

-- The end mark opens nothing, so an opening stands before it.
theorem opening_split (body : List Token) (token endMark : Token) (k : Nat) (enclosure : Enclosure)
    (ends : endMark.kind = .eof) (found : (body ++ [endMark])[k]? = some token)
    (opened : opened? token = some enclosure) :
    k < body.length ∧ body = body.take k ++ token :: body.drop (k + 1) := by
  have bound := (List.getElem?_eq_some_iff.mp found).1
  rw [List.length_append, List.length_singleton] at bound
  have inside : k < body.length := by
    refine Nat.lt_of_le_of_ne (Nat.le_of_lt_succ bound) (fun atEnd => ?_)
    rw [atEnd, List.getElem?_concat_length] at found
    cases found
    have kind := (opened_due token enclosure opened).1
    rw [ends] at kind
    cases kind
  rw [List.getElem?_append_left inside] at found
  have later := List.drop_eq_getElem_cons inside
  rw [(List.getElem?_eq_some_iff.mp found).2] at later
  exact ⟨inside, by rw [← later, List.take_append_drop]⟩

-- The levels that are open after a prefix are the depth that reading has there.
theorem nesting_limit_exact (tokens : List Token) (source : Option String) (k : Nat) (token : Token)
    (ends : ∃ endMark, tokens.getLast? = some endMark ∧ endMark.kind = .eof) :
    (∃ error, parseTokens tokens source = .error (.rejected error) ∧ error.cause = .tooDeep ∧
        error.index = k ∧ error.token = token) ↔
      tokens[k]? = some token ∧ Viable (tokens.take (k + 1)) ∧ Opens token ∧
        OperandDue (tokens.take k) ∧ openLevels (tokens.take k) = maxDepth ∧
        ∀ j < k, openLevels (tokens.take j) ≤ maxDepth := by
  constructor
  · rintro ⟨error, failed, deep, rfl, rfl⟩
    obtain ⟨found, progress, passed, refused⟩ := parse_refused tokens source error failed
    rw [deep] at refused
    obtain ⟨levels, enclosure, rfl, opened, full⟩ := refused_deep maxDepth error.token progress refused
    refine ⟨found, ?_, (opens_iff _).mpr ⟨enclosure, opened⟩, (advance_due maxDepth _ _ passed).mpr rfl, ?_, ?_⟩
    · rw [List.take_add_one, found, Option.toList_some]
      exact opened_viable maxDepth _ error.token levels enclosure passed opened
    · rw [open_levels_depth maxDepth _ _ passed]
      exact Nat.le_antisymm (advance_within maxDepth _ _ passed) full
    · intro j earlier
      have within := open_levels_within maxDepth _ _ j passed
      rw [List.take_take, Nat.min_eq_left (Nat.le_of_lt earlier)] at within
      exact within
  · rintro ⟨found, viable, opens, due, full, shallow⟩
    obtain ⟨enclosure, opened⟩ := (opens_iff token).mp opens
    obtain ⟨limit, next, passed⟩ := (viable_iff_advance _).mp viable
    rw [List.take_add_one, found, Option.toList_some, advance_snoc] at passed
    obtain ⟨⟨levels, operandNext⟩, here, _⟩ := passed
    cases (advance_due limit _ _ here).mp due
    have narrow := advance_narrow limit maxDepth _ _ here (shallow_prefixes tokens k full shallow)
    rw [open_levels_depth limit _ _ here] at full
    obtain ⟨endMark, last, ended⟩ := ends
    obtain ⟨body, rfl⟩ := List.getLast?_eq_some_iff.mp last
    obtain ⟨inside, split⟩ := opening_split body token endMark k enclosure ended found opened
    rw [List.take_append_of_le_length (Nat.le_of_lt inside)] at narrow
    have rejected := parse_too_deep (body.take k) (body.drop (k + 1)) token endMark source levels enclosure
      ended narrow opened (Nat.le_of_eq full.symm)
    rw [← split, List.length_take_of_le (Nat.le_of_lt inside)] at rejected
    exact ⟨_, rejected, rfl, rfl, rfl⟩

-- The group before the signs is closed and does not count; of the signs, the last is one too many.
theorem nesting_limit_after_group :
    let before : List Token := [⟨.operator, "(", 0⟩, ⟨.integer, "1", 1⟩, ⟨.operator, ")", 2⟩,
      ⟨.operator, "+", 3⟩] ++ List.replicate 100 ⟨.operator, "-", 4⟩
    let tokens : List Token := before ++ [⟨.operator, "-", 5⟩] ++ [⟨.eof, "", 6⟩]
    parseTokens tokens none = .error (.rejected ⟨.tooDeep, 104, ⟨.operator, "-", 5⟩, none⟩) ∧
      Viable (tokens.take 105) ∧ openLevels (tokens.take 104) = 100 := by
  intro before tokens
  have failed : parseTokens tokens none = .error (.rejected ⟨.tooDeep, 104, ⟨.operator, "-", 5⟩, none⟩) :=
    parse_too_deep before [] ⟨.operator, "-", 5⟩ ⟨.eof, "", 6⟩ none (List.replicate 100 .sign) .sign rfl
      (by decide +kernel) (by decide) (by decide)
  obtain ⟨_, viable, _, _, full, _⟩ := (nesting_limit_exact tokens none 104 ⟨.operator, "-", 5⟩
    ⟨⟨.eof, "", 6⟩, List.getLast?_concat, rfl⟩).mp ⟨_, failed, rfl, rfl, rfl⟩
  exact ⟨failed, viable, full⟩

end Reckon.Parse
