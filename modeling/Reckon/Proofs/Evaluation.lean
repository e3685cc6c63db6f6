import Reckon.Evaluate
import Reckon.Proofs.Compile
import Reckon.Proofs.Diagnosis
import Reckon.Proofs.Scanning

set_option autoImplicit false

namespace Reckon

namespace Parse

-- Reading gives a literal up only where one of the tokens is no numeral.
theorem reading_not_a_number (limit : Nat) (progress : Progress) (tokens : List Token) (text : String)
    (stuck : reading limit progress tokens = .notANumber text) :
    ∃ token ∈ tokens, token.isLiteral ∧ Numeral.read? token.text = none := by
  induction tokens generalizing progress with
  | nil =>
      obtain ⟨levels, operandNext⟩ := progress
      rw [reading, Progress.finish.eq_def] at stuck
      split at stuck <;> cases stuck
  | cons token tokens ih =>
      have outcome := step_outcome limit token progress
      rw [reading] at stuck
      cases taken : progress.step limit token with
      | ok next =>
          rw [taken] at stuck
          obtain ⟨other, member, unread⟩ := ih next stuck
          exact ⟨other, List.mem_cons_of_mem _ member, unread⟩
      | error halt =>
          rw [taken] at stuck outcome
          cases halt with
          | rejected cause => cases stuck
          | notANumber text => exact ⟨token, List.mem_cons_self, outcome⟩

theorem parse_failure (source : String) (failure : Failure) (failed : parse source = .error failure) :
    ∃ error, failure = .rejected error := by
  obtain ⟨body, endMark, split, ends⟩ := scan_ends 0 source.toList
  rw [parse, Token.scan, split] at failed
  rcases parse_tokens_outcome body endMark (some source) ends with
    ⟨tree, parsed⟩ | ⟨rest, cause, _, parsed⟩ | ⟨text, read, _⟩
  · cases failed.symm.trans parsed
  · exact ⟨_, Except.error.inj (failed.symm.trans parsed)⟩
  · obtain ⟨token, member, literal, unread⟩ := reading_not_a_number maxDepth .start body text read
    have scanned : token ∈ Token.scan source := by
      rw [Token.scan, split]
      exact List.mem_append_left _ member
    obtain ⟨d, _, reads⟩ := Token.scan_number source token scanned literal
    cases unread.symm.trans reads

end Parse

open Parse

theorem evaluate_with_parsed (ops : Arithmetic) (source : String) (tree : Expr)
    (parsed : parse source = .ok tree) : evaluateWith ops source = .ok (tree.value ops) := by
  simp only [evaluateWith, compile, parsed, Except.map, Program.execute, Program.run_compiled,
    Program.result]

theorem evaluate_parsed (source : String) (tree : Expr) (parsed : parse source = .ok tree) :
    evaluate source = .ok (tree.value .ieee) :=
  evaluate_with_parsed .ieee source tree parsed

theorem evaluated_parsed (ops : Arithmetic) (source : String) (value : Binary64)
    (evaluated : evaluateWith ops source = .ok value) :
    ∃ tree, parse source = .ok tree ∧ tree.value ops = value := by
  cases parsed : parse source with
  | error failure =>
      simp only [evaluateWith, compile, parsed, Except.map] at evaluated
      cases evaluated
  | ok tree =>
      rw [evaluate_with_parsed ops source tree parsed] at evaluated
      exact ⟨tree, rfl, Except.ok.inj evaluated⟩

theorem evaluate_failed (source : String) (failure : Failure) (failed : parse source = .error failure) :
    evaluate source = .error (.parse failure) := by
  simp only [evaluate, evaluateWith, compile, failed, Except.map]

-- Scanning leaves no literal that is not a numeral, and the machine runs every compiled tree.
theorem evaluate_fails_only_by_parsing (source : String) :
    ((∃ value, evaluate source = .ok value) ↔ ∃ tree, parse source = .ok tree) ∧
    ((∃ tree, parse source = .ok tree ∧ evaluate source = .ok (tree.value .ieee)) ∨
      ∃ error, parse source = .error (.rejected error) ∧
        evaluate source = .error (.parse (.rejected error)) ∧
        (Token.scan source)[error.index]? = some error.token ∧
        (error.cause = .invalidToken ∨ error.cause = .noExpression ∨
          (∃ opened, error.cause = .unclosed opened) ∨ error.cause = .leftover ∨
          error.cause = .tooDeep)) := by
  cases parsed : parse source with
  | ok tree =>
      have value := evaluate_parsed source tree parsed
      exact ⟨⟨fun _ => ⟨tree, rfl⟩, fun _ => ⟨_, value⟩⟩, .inl ⟨tree, rfl, value⟩⟩
  | error failure =>
      obtain ⟨error, rfl⟩ := parse_failure source failure parsed
      have failed := evaluate_failed source _ parsed
      obtain ⟨found, progress, _, refused⟩ := parse_refused _ _ error parsed
      have reported := refused_reported maxDepth error.token progress error.cause refused
      refine ⟨⟨?_, ?_⟩, .inr ⟨error, rfl, failed, found, ?_⟩⟩
      · rintro ⟨value, returned⟩
        cases failed.symm.trans returned
      · rintro ⟨tree, absurdity⟩
        cases absurdity
      · cases cause : error.cause with
        | emptyGroup opened => exact absurd cause (reported opened)
        | invalidToken => simp
        | noExpression => simp
        | unclosed opened => simp
        | leftover => simp
        | tooDeep => simp

end Reckon
