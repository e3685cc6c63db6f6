import Reckon.Proofs.Prefixes
import Reckon.Proofs.Sentences

set_option autoImplicit false

namespace Reckon.Parse

theorem end_mark_refused (limit : Nat) (endMark : Token) (progress : Progress) (rest : List Token)
    (cause : Cause) (ends : endMark.kind = .eof) (stuck : progress.finish = .rejected rest cause) :
    rest = [] ∧ Refused limit endMark progress cause := by
  have absent : ∀ spelling, endMark.isOperator spelling = false := by
    simp [Token.isOperator, ends]
  have notLiteral : endMark.isLiteral = false := by
    simp [Token.isLiteral, ends]
  obtain ⟨levels, operandNext⟩ := progress
  cases operandNext with
  | true =>
      cases stuck
      have wellFormed : endMark.kind ≠ .malformed := by simp [ends]
      exact ⟨rfl, .noOperand notLiteral (unspelled_unopened endMark absent) wellFormed⟩
  | false =>
      cases levels with
      | nil => cases stuck
      | cons enclosure outer =>
          cases enclosure with
          | sign => cases stuck
          | group pos =>
              cases stuck
              have stops : (Category.chain .additive).continues endMark = false := by
                simp [Category.continues, Level.operator?, absent]
              exact ⟨rfl, .unclosed stops (absent _)⟩

theorem reading_refused (limit : Nat) (origin : Progress) (tokens rest : List Token) (endMark : Token)
    (cause : Cause) (ends : endMark.kind = .eof)
    (stuck : reading limit origin tokens = .rejected rest cause) :
    ∃ before progress, tokens = before ++ rest ∧ advance limit origin before = some progress ∧
      Refused limit (rest.head?.getD endMark) progress cause := by
  induction tokens generalizing origin with
  | nil =>
      obtain ⟨rfl, refused⟩ := end_mark_refused limit endMark origin rest cause ends stuck
      exact ⟨[], origin, rfl, rfl, refused⟩
  | cons token tokens ih =>
      have outcome := step_outcome limit token origin
      rw [reading] at stuck
      cases taken : origin.step limit token with
      | ok next =>
          rw [taken] at stuck
          obtain ⟨before, progress, split, passed, refused⟩ := ih next stuck
          refine ⟨token :: before, progress, by rw [split]; rfl, ?_, refused⟩
          rw [advance_step limit origin next token before taken]
          exact passed
      | error halt =>
          rw [taken] at stuck outcome
          cases halt with
          | notANumber text => cases stuck
          | rejected found =>
              cases stuck
              exact ⟨[], origin, rfl, rfl, outcome⟩

theorem parse_tokens_rejected (body rest : List Token) (endMark : Token) (source : Option String)
    (cause : Cause) (ends : endMark.kind = .eof)
    (stuck : reading maxDepth .start body = .rejected rest cause) :
    parseTokens (body ++ [endMark]) source =
      .error (.rejected (errorAt body endMark source rest cause)) := by
  have verdict := parse_body_verdict body endMark source
  rw [stuck] at verdict
  rw [parse_tokens_body body endMark source ends]
  exact verdict

-- The three ways in which parsing ends, each with the reading that leads to it.
theorem parse_tokens_outcome (body : List Token) (endMark : Token) (source : Option String)
    (ends : endMark.kind = .eof) :
    (∃ tree, parseTokens (body ++ [endMark]) source = .ok tree) ∨
    (∃ rest cause, reading maxDepth .start body = .rejected rest cause ∧
      parseTokens (body ++ [endMark]) source =
        .error (.rejected (errorAt body endMark source rest cause))) ∨
    ∃ text, reading maxDepth .start body = .notANumber text ∧
      parseTokens (body ++ [endMark]) source = .error (.notANumber text) := by
  have verdict := parse_body_verdict body endMark source
  cases read : reading maxDepth .start body with
  | complete =>
      rw [read] at verdict
      obtain ⟨tree, _, _, _, parsed⟩ := verdict
      exact .inl ⟨tree, (parse_tokens_body body endMark source ends).trans parsed⟩
  | rejected rest cause =>
      exact .inr (.inl ⟨rest, cause, rfl, parse_tokens_rejected body rest endMark source cause ends read⟩)
  | notANumber text =>
      rw [read] at verdict
      exact .inr (.inr ⟨text, rfl, (parse_tokens_body body endMark source ends).trans verdict⟩)

theorem rejected_marked (tokens : List Token) (source : Option String) (error : Error)
    (failed : parseTokens tokens source = .error (.rejected error)) :
    ∃ body endMark, tokens = body ++ [endMark] ∧ endMark.kind = .eof := by
  apply parse_tokens_marked tokens source
  rw [failed]
  intro absurdity
  cases absurdity

-- The error of a rejected list, read token by token.
theorem parse_refused (tokens : List Token) (source : Option String) (error : Error)
    (failed : parseTokens tokens source = .error (.rejected error)) :
    tokens[error.index]? = some error.token ∧
      ∃ progress, advance maxDepth .start (tokens.take error.index) = some progress ∧
        Refused maxDepth error.token progress error.cause := by
  obtain ⟨body, endMark, rfl, ends⟩ := rejected_marked tokens source error failed
  rcases parse_tokens_outcome body endMark source ends with
    ⟨tree, parsed⟩ | ⟨rest, cause, read, parsed⟩ | ⟨text, _, parsed⟩
  · cases failed.symm.trans parsed
  · cases failed.symm.trans parsed
    obtain ⟨before, progress, rfl, passed, refused⟩ :=
      reading_refused maxDepth .start body rest endMark cause ends read
    have index : (before ++ rest).length - rest.length = before.length := by simp
    simp only [errorAt, index, List.append_assoc]
    refine ⟨?_, progress, ?_, refused⟩
    · cases rest <;> simp
    · rw [List.take_left]
      exact passed
  · cases failed.symm.trans parsed

-- A sentence is rejected only for its nesting.
theorem sentence_rejected (body : List Token) (endMark : Token) (source : Option String) (error : Error)
    (ends : endMark.kind = .eof) (sentence : Sentence body)
    (failed : parseTokens (body ++ [endMark]) source = .error (.rejected error)) :
    error.cause = .tooDeep := by
  obtain ⟨tree, nesting, derived⟩ := sentence
  by_cases within : nesting ≤ maxDepth
  · have parsed := (parse_body_iff body endMark source tree).mpr ⟨nesting, within, derived⟩
    rw [parse_tokens_body body endMark source ends, parsed] at failed
    cases failed
  · obtain ⟨after, stuck⟩ := derives_too_deep maxDepth _ body [] tree nesting [] derived
      (Nat.zero_le _) (by simpa using within) rfl
    rw [List.append_nil] at stuck
    rw [parse_tokens_rejected body after endMark source .tooDeep ends stuck] at failed
    cases failed
    rfl

theorem error_at_first_misfit (tokens : List Token) (source : Option String) (error : Error)
    (failed : parseTokens tokens source = .error (.rejected error)) (shallow : error.cause ≠ .tooDeep) :
    tokens[error.index]? = some error.token ∧ Viable (tokens.take error.index) ∧
      ¬ Viable (tokens.take (error.index + 1)) ∧
      (error.index + 1 = tokens.length → ¬ Sentence (tokens.take error.index)) := by
  obtain ⟨found, progress, passed, refused⟩ := parse_refused tokens source error failed
  refine ⟨found, (viable_iff_advance _).mpr ⟨maxDepth, progress, passed⟩, ?_, ?_⟩
  · intro viable
    obtain ⟨limit, next, further⟩ := (viable_iff_advance _).mp viable
    rw [List.take_add_one, found, Option.toList_some, advance_snoc] at further
    obtain ⟨reached, here, stepped⟩ := further
    cases advance_agree maxDepth limit _ _ _ _ passed here
    exact refused_step maxDepth limit error.token progress next error.cause refused shallow stepped
  · intro atEnd sentence
    obtain ⟨body, endMark, rfl, ends⟩ := rejected_marked tokens source error failed
    have whole : error.index = body.length := by simpa using atEnd
    rw [whole, List.take_left] at sentence
    exact shallow (sentence_rejected body endMark source error ends sentence failed)

-- Two groups are open at the end mark, and neither of them is what is missing first.
theorem error_at_missing_operand :
    let tokens : List Token := [⟨.operator, "(", 0⟩, ⟨.integer, "1", 1⟩, ⟨.operator, "+", 3⟩,
      ⟨.operator, "(", 5⟩, ⟨.integer, "2", 6⟩, ⟨.operator, "*", 8⟩, ⟨.eof, "", 9⟩]
    parseTokens tokens none = .error (.rejected ⟨.noExpression, 6, ⟨.eof, "", 9⟩, none⟩) ∧
      Viable (tokens.take 6) ∧ ¬ Viable (tokens.take 7) ∧ ¬ Sentence (tokens.take 6) := by
  intro tokens
  have failed : parseTokens tokens none = .error (.rejected ⟨.noExpression, 6, ⟨.eof, "", 9⟩, none⟩) :=
    parse_tokens_rejected tokens.dropLast [] ⟨.eof, "", 9⟩ none .noExpression rfl (by decide +kernel)
  obtain ⟨_, viable, misfit, unfinished⟩ := error_at_first_misfit tokens none _ failed (by decide)
  exact ⟨failed, viable, misfit, unfinished rfl⟩

-- The last token is an operator other than a closing parenthesis, or there is none.
def OperandDue (before : List Token) : Prop :=
  ∀ last, before.getLast? = some last → last.kind = .operator ∧ last.text ≠ ")"

-- The last token is a literal or a closing parenthesis.
def OperandDone (before : List Token) : Prop :=
  ∃ last, before.getLast? = some last ∧ (last.isLiteral ∨ last.isOperator ")")

-- The opening parentheses that no later one closes, innermost first.
def unclosed (tokens : List Token) : List Token :=
  tokens.foldl (fun pending token =>
    if token.isOperator "(" then token :: pending
    else if token.isOperator ")" then pending.tail
    else pending) []

theorem due_not_done (before : List Token) (due : OperandDue before) (done : OperandDone before) : False := by
  obtain ⟨last, found, ended⟩ := done
  obtain ⟨operator, notClosing⟩ := due last found
  rcases ended with isLiteral | closes
  · simp [Token.isLiteral, operator] at isLiteral
  · exact notClosing ((operator_token last ")").mp closes).2

theorem opened_iff (token : Token) (enclosure : Enclosure) :
    opened? token = some enclosure ↔ token.isOperator "(" ∧ enclosure = .group token.pos ∨
      (∃ sign : Sign, token.isOperator sign.symbol) ∧ enclosure = .sign := by
  constructor
  · intro opened
    by_cases opens : token.isOperator "("
    · rw [opened_group token opens] at opened
      exact .inl ⟨opens, (Option.some.inj opened).symm⟩
    · rw [opened?, if_neg opens, Option.map_eq_some_iff] at opened
      obtain ⟨sign, found, rfl⟩ := opened
      exact .inr ⟨⟨sign, (sign_found token sign).mp found⟩, rfl⟩
  · rintro (⟨opens, rfl⟩ | ⟨⟨sign, spelled⟩, rfl⟩)
    · exact opened_group token opens
    · exact opened_sign token sign spelled

theorem opened_due (token : Token) (enclosure : Enclosure) (opened : opened? token = some enclosure) :
    token.kind = .operator ∧ token.text ≠ ")" := by
  rcases (opened_iff token enclosure).mp opened with ⟨opens, _⟩ | ⟨⟨sign, spelled⟩, _⟩
  · obtain ⟨kind, text⟩ := (operator_token token _).mp opens
    exact ⟨kind, by rw [text]; decide⟩
  · obtain ⟨kind, text⟩ := (operator_token token _).mp spelled
    exact ⟨kind, by rw [text]; cases sign <;> decide⟩

theorem continues_operator (token : Token) (continues : (Category.chain .additive).continues token) :
    ∃ op : Operator, token.isOperator op.symbol := by
  rw [Category.continues, Bool.or_eq_true, Option.isSome_iff_exists, Option.isSome_iff_exists] at continues
  rcases continues with ⟨op, found⟩ | ⟨op, found⟩
  · exact ⟨op, ((operator_found _ token op).mp found).2⟩
  · exact ⟨op, ((operator_found _ token op).mp found).2⟩

def Progress.Positioned (tokens : List Token) : Progress → Prop
  | ⟨_, true⟩ => OperandDue tokens
  | ⟨_, false⟩ => OperandDone tokens

theorem advance_position (limit : Nat) (tokens : List Token) (progress : Progress)
    (passed : advance limit .start tokens = some progress) : progress.Positioned tokens := by
  induction tokens, progress, passed using advance_induction with
  | start =>
      intro last absurdity
      cases absurdity
  | step before reached token next here stepped _ =>
      have last : (before ++ [token]).getLast? = some token := List.getLast?_concat
      cases stepped with
      | literal isLiteral => exact ⟨token, last, .inl isLiteral⟩
      | closing closes => exact ⟨token, last, .inr closes⟩
      | @opened levels enclosure opened =>
          intro found same
          cases last.symm.trans same
          exact opened_due token enclosure opened
      | operator continues =>
          intro found same
          cases last.symm.trans same
          obtain ⟨op, spelled⟩ := continues_operator token continues
          obtain ⟨kind, text⟩ := (operator_token token _).mp spelled
          exact ⟨kind, by rw [text]; cases op <;> decide⟩

def groups : List Enclosure → List Int
  | [] => []
  | .group pos :: levels => pos :: groups levels
  | .sign :: levels => groups levels

theorem groups_close_signs (levels : List Enclosure) : groups (closeSigns levels) = groups levels := by
  induction levels with
  | nil => rfl
  | cons enclosure levels ih =>
      cases enclosure with
      | group pos => rfl
      | sign => exact ih

theorem unclosed_snoc (before : List Token) (token : Token) :
    unclosed (before ++ [token]) =
      if token.isOperator "(" then token :: unclosed before
      else if token.isOperator ")" then (unclosed before).tail
      else unclosed before := by
  simp [unclosed]

theorem unclosed_other (before : List Token) (token : Token) (notOpening : token.isOperator "(" = false)
    (notClosing : token.isOperator ")" = false) : unclosed (before ++ [token]) = unclosed before := by
  simp [unclosed_snoc, notOpening, notClosing]

-- The groups among the levels are the parentheses that stand unclosed in the tokens.
theorem advance_unclosed (limit : Nat) (tokens : List Token) (progress : Progress)
    (passed : advance limit .start tokens = some progress) :
    groups progress.levels = (unclosed tokens).map Token.pos := by
  induction tokens, progress, passed using advance_induction with
  | start => rfl
  | step before reached token next here stepped ih =>
      cases stepped with
      | literal isLiteral =>
          rw [unclosed_other before token (literal_not_operator token _ isLiteral)
            (literal_not_operator token _ isLiteral), groups_close_signs]
          exact ih
      | @opened levels enclosure opened =>
          rcases (opened_iff token enclosure).mp opened with ⟨opens, rfl⟩ | ⟨⟨sign, spelled⟩, rfl⟩
          · rw [unclosed_snoc, if_pos opens, groups, List.map_cons]
            exact congrArg _ ih
          · rw [unclosed_other before token
              (operator_other token sign.symbol "(" spelled (by cases sign <;> decide))
              (operator_other token sign.symbol ")" spelled (by cases sign <;> decide))]
            exact ih
      | operator continues =>
          obtain ⟨op, spelled⟩ := continues_operator token continues
          rw [unclosed_other before token
            (operator_other token op.symbol "(" spelled (by cases op <;> decide))
            (operator_other token op.symbol ")" spelled (by cases op <;> decide))]
          exact ih
      | @closing outer pos closes =>
          have notOpening := operator_other token ")" "(" closes (by decide)
          rw [unclosed_snoc, notOpening, if_neg Bool.false_ne_true, if_pos closes, groups_close_signs,
            List.map_tail, ← ih]
          rfl

-- Only the message for an empty group starts in this way, and each other one differs in its head.
theorem message_head (cause : Cause) (token : Token) (reported : ∀ opened, cause ≠ .emptyGroup opened) :
    ¬ "Expected an expression after '('".toList <+: (cause.message token).toList := by
  have differs : ∀ head rest : String,
      ¬ ("Expected an expression after '('".toList <+: head.toList ∨
        head.toList <+: "Expected an expression after '('".toList) →
      ¬ "Expected an expression after '('".toList <+: (head ++ rest).toList := by
    intro head rest apart begins
    rw [String.toList_append] at begins
    exact apart (List.prefix_or_prefix_of_prefix begins (List.prefix_append _ _))
  cases cause with
  | invalidToken => exact differs "Invalid token: " _ (by decide)
  | noExpression => exact differs "Expected an expression, got " _ (by decide)
  | emptyGroup opened => exact absurd rfl (reported opened)
  | unclosed opened =>
      change ¬ _ <+: ("Expected ')' to close '(' at position " ++ toString opened ++ ", got " ++
        token.describe).toList
      rw [String.append_assoc, String.append_assoc]
      exact differs "Expected ')' to close '(' at position " _ (by decide)
  | leftover => exact differs "Unexpected token after expression: " _ (by decide)
  | tooDeep =>
      change ¬ _ <+: ("Expression nested deeper than " ++ maxDepth.repr ++ " levels at " ++
        token.describe).toList
      rw [String.append_assoc, String.append_assoc]
      exact differs "Expression nested deeper than " _ (by decide)

theorem refused_reported (limit : Nat) (token : Token) (progress : Progress) (cause : Cause)
    (refused : Refused limit token progress cause) (opened : Int) : cause ≠ .emptyGroup opened := by
  rintro rfl
  cases refused

theorem parse_explained (tokens : List Token) (source : Option String) :
    parseTokens tokens source ≠ .error .unexplained := by
  intro failed
  have marked : parseTokens tokens source ≠ .error .noEndMark := by
    rw [failed]
    intro absurdity
    cases absurdity
  obtain ⟨body, endMark, rfl, ends⟩ := parse_tokens_marked tokens source marked
  rcases parse_tokens_outcome body endMark source ends with
    ⟨tree, parsed⟩ | ⟨rest, cause, _, parsed⟩ | ⟨text, _, parsed⟩
  · cases failed.symm.trans parsed
  · cases failed.symm.trans parsed
  · cases failed.symm.trans parsed

-- What the cause says where an operand has ended.
theorem refused_done (limit : Nat) (tokens : List Token) (token : Token) (levels : List Enclosure)
    (cause : Cause) (passed : advance limit .start tokens = some ⟨levels, false⟩)
    (refused : Refused limit token ⟨levels, false⟩ cause) :
    cause = match unclosed tokens with
      | opening :: _ => .unclosed opening.pos
      | [] => .leftover := by
  have same := advance_unclosed limit tokens _ passed
  have settled : closeSigns levels = levels := advance_settled limit tokens _ passed rfl
  cases refused with
  | @unclosed outer pos =>
      cases pending : unclosed tokens with
      | nil =>
          rw [pending] at same
          cases same
      | cons opening earlier =>
          rw [pending, groups, List.map_cons, List.cons.injEq] at same
          rw [same.1]
  | leftover stops ungrouped =>
      cases levels with
      | nil =>
          rw [List.map_eq_nil_iff.mp same.symm]
      | cons enclosure outer =>
          cases enclosure with
          | group pos => exact absurd rfl (ungrouped pos outer)
          | sign =>
              have shorter := close_signs_length outer
              have length := congrArg List.length settled
              rw [closeSigns, List.length_cons] at length
              omega

theorem rejection_by_position :
    (∀ (tokens : List Token) (source : Option String) (error : Error),
      parseTokens tokens source = .error (.rejected error) → error.cause ≠ .tooDeep →
      tokens[error.index]? = some error.token ∧
      (OperandDue (tokens.take error.index) ∨ OperandDone (tokens.take error.index)) ∧
      (OperandDue (tokens.take error.index) →
        error.cause = if error.token.kind = .malformed then .invalidToken else .noExpression) ∧
      (OperandDone (tokens.take error.index) →
        match unclosed (tokens.take error.index) with
        | opening :: _ => error.cause = .unclosed opening.pos ∧
            error.short = "Expected ')' to close '(' at position " ++ toString opening.pos ++ ", got " ++
              error.token.describe
        | [] => error.cause = .leftover)) ∧
    (∀ (tokens : List Token) (source : Option String) (error : Error),
      parseTokens tokens source = .error (.rejected error) →
      (∀ opened, error.cause ≠ .emptyGroup opened) ∧
        ¬ "Expected an expression after '('".toList <+: error.short.toList) ∧
    ∀ (tokens : List Token) (source : Option String), parseTokens tokens source ≠ .error .unexplained := by
  refine ⟨fun tokens source error failed shallow => ?_, fun tokens source error failed => ?_, parse_explained⟩
  · obtain ⟨found, ⟨levels, operandNext⟩, passed, refused⟩ := parse_refused tokens source error failed
    have position := advance_position maxDepth _ _ passed
    refine ⟨found, ?_⟩
    cases operandNext with
    | true =>
        have due : OperandDue (tokens.take error.index) := position
        refine ⟨.inl due, fun _ => ?_, fun done => (due_not_done _ due done).elim⟩
        generalize error.cause = cause at refused shallow
        cases refused with
        | malformed notLiteral unopened malformed => rw [if_pos malformed]
        | noOperand notLiteral unopened wellFormed => rw [if_neg wellFormed]
        | tooDeep => exact absurd rfl shallow
    | false =>
        have done : OperandDone (tokens.take error.index) := position
        refine ⟨.inr done, fun due => (due_not_done _ due done).elim, fun _ => ?_⟩
        have cause := refused_done maxDepth _ error.token levels error.cause passed refused
        cases pending : unclosed (tokens.take error.index) with
        | nil =>
            rw [pending] at cause
            exact cause
        | cons opening earlier =>
            rw [pending] at cause
            refine ⟨cause, ?_⟩
            rw [Error.short, cause]
            rfl
  · obtain ⟨_, progress, _, refused⟩ := parse_refused tokens source error failed
    have reported := refused_reported maxDepth error.token progress error.cause refused
    exact ⟨reported, message_head error.cause error.token reported⟩

-- In the first list the inner group is closed, so the outer one is the innermost that is not. In the
-- second the group is empty, and what is reported is the token that stands in place of an operand.
theorem rejection_in_groups :
    (∃ error, parseTokens [⟨.operator, "(", 0⟩, ⟨.operator, "(", 1⟩, ⟨.integer, "1", 2⟩,
        ⟨.operator, ")", 3⟩, ⟨.integer, "2", 5⟩, ⟨.eof, "", 6⟩] none = .error (.rejected error) ∧
      error.index = 4 ∧ error.cause = .unclosed 0 ∧
      error.short = "Expected ')' to close '(' at position 0, got " ++ error.token.describe) ∧
    ∃ error, parseTokens [⟨.operator, "(", 0⟩, ⟨.operator, ")", 1⟩, ⟨.eof, "", 2⟩] none =
        .error (.rejected error) ∧
      error.index = 1 ∧ error.cause = .noExpression ∧
      ¬ "Expected an expression after '('".toList <+: error.short.toList := by
  constructor
  · have failed := parse_tokens_rejected [⟨.operator, "(", 0⟩, ⟨.operator, "(", 1⟩, ⟨.integer, "1", 2⟩,
      ⟨.operator, ")", 3⟩, ⟨.integer, "2", 5⟩] [⟨.integer, "2", 5⟩] ⟨.eof, "", 6⟩ none (.unclosed 0) rfl
      (by decide +kernel)
    obtain ⟨_, _, _, done⟩ := rejection_by_position.1 _ none _ failed (by decide)
    obtain ⟨cause, message⟩ := done ⟨⟨.operator, ")", 3⟩, rfl, .inr rfl⟩
    exact ⟨_, failed, rfl, cause, message⟩
  · have failed := parse_tokens_rejected [⟨.operator, "(", 0⟩, ⟨.operator, ")", 1⟩]
      [⟨.operator, ")", 1⟩] ⟨.eof, "", 2⟩ none .noExpression rfl (by decide +kernel)
    have due : OperandDue [⟨.operator, "(", 0⟩] := by
      intro last found
      cases found
      exact ⟨rfl, by decide⟩
    obtain ⟨_, _, cause, _⟩ := rejection_by_position.1 _ none _ failed (by decide)
    exact ⟨_, failed, rfl, cause due, (rejection_by_position.2.1 _ none _ failed).2⟩

end Reckon.Parse
