import Reckon.CommandLine.Run
import Reckon.Proofs.Evaluation
import Reckon.Proofs.Listing
import Reckon.Proofs.SourceRoundTrip

set_option autoImplicit false

namespace Reckon

namespace Parse

theorem parsed_finite (source : String) (tree : Expr) (parsed : parse source = .ok tree)
    (bounded : ¬ Overflowed source) (value : Binary64) (member : value ∈ tree.literals) : value.isFinite := by
  rcases (parsed_plain source tree parsed value member).2 with finite | infinite
  · exact finite
  · rw [infinite] at member
    exact absurd ((overflowed_literal source tree parsed).mpr member) bounded

end Parse

namespace CommandLine

open Parse

-- The command ends with the exit code and hands the text to the console.
def Reports (host : Host) (settings : Settings) (command : Command) (exit : Nat) (text : String) : Prop :=
  (command.run host settings).exit = exit ∧
    (command.run host settings).output = Console.print host.width text

theorem rejected_reports (host : Host) (settings : Settings) (expression : String) (error : Error)
    (rejected : parse expression = .error (.rejected error)) :
    Reports host settings (.eval expression) 1 error.message ∧
      (∀ json, Reports host settings (.ast json expression) 1 error.message) ∧
      Reports host settings (.bytecode expression) 1 error.message := by
  refine ⟨?_, fun json => ?_, ?_⟩
  · have failed := evaluate_failed expression _ rejected
    simp [Reports, Command.run, evalCommand, failed, EvalError.message, Failure.message]
  · simp [Reports, Command.run, astCommand, rejected, Failure.message]
  · simp [Reports, Command.run, bytecodeCommand, compile, rejected, Except.map, Failure.message]

theorem parsed_reports (host : Host) (settings : Settings) (expression : String) (tree : Expr)
    (parsed : parse expression = .ok tree) :
    Reports host settings (.eval expression) 0 (tree.value .ieee).format ∧
      Reports host settings (.ast false expression) 0 tree.render ∧
      Reports host settings (.bytecode expression) 0 tree.compile.listing := by
  refine ⟨?_, ?_, ?_⟩
  · have value := evaluate_parsed expression tree parsed
    simp [Reports, Command.run, evalCommand, value]
  · simp [Reports, Command.run, astCommand, parsed]
  · simp [Reports, Command.run, bytecodeCommand, compile, parsed, Except.map]

theorem inspection_agrees (host : Host) (settings : Settings) (expression : String) :
    ((∃ error, parse expression = .error (.rejected error) ∧
        Reports host settings (.eval expression) 1 error.message ∧
        (∀ json, Reports host settings (.ast json expression) 1 error.message) ∧
        Reports host settings (.bytecode expression) 1 error.message) ∨
      ∃ tree program value, parse expression = .ok tree ∧ compile expression = .ok program ∧
        Reports host settings (.eval expression) 0 value.format ∧
        Reports host settings (.ast false expression) 0 tree.render ∧
        Reports host settings (.bytecode expression) 0 program.listing ∧
        program.execute .ieee = .ok value ∧
        -- The shown listing alone fixes the value.
        (∀ shown : Program, shown.listing = program.listing → shown.execute .ieee = .ok value) ∧
        (¬ Overflowed expression → evaluate tree.render = .ok value)) ∧
    ((Command.tokens expression).run host settings).exit = 0 := by
  refine ⟨?_, rfl⟩
  cases parsed : parse expression with
  | error failure =>
      obtain ⟨error, rfl⟩ := parse_failure expression failure parsed
      exact .inl ⟨error, rfl, rejected_reports host settings expression error parsed⟩
  | ok tree =>
      have compiled : compile expression = .ok tree.compile := by
        rw [compile, parsed]
        rfl
      have executed : tree.compile.execute .ieee = .ok (tree.value .ieee) := by
        simp only [Program.execute, Program.run_compiled, Program.result]
      obtain ⟨value, text, listing⟩ := parsed_reports host settings expression tree parsed
      refine .inr ⟨tree, tree.compile, tree.value .ieee, rfl, compiled, value, text, listing, executed,
        fun shown same => ?_, fun bounded => ?_⟩
      · rw [Program.listing_injective shown tree.compile same, executed]
      · have again := parse_parsed_text expression tree parsed
          (parsed_finite expression tree parsed bounded)
        rw [← render_text] at again
        exact evaluate_parsed tree.render tree again

-- The text that is shown for the tree leaves the parentheses out.
theorem inspection_of_signed_group :
    let host : Host := ⟨[], none, [], 80, ""⟩
    let tree : Expr := .unary .minus (.literal (.ofBits 0x4000000000000000))
    ¬ Overflowed "-(2)" ∧ ∃ (program : Program) (value : Binary64),
      Reports host {} (.eval "-(2)") 0 value.format ∧
      Reports host {} (.ast false "-(2)") 0 tree.render ∧
      Reports host {} (.bytecode "-(2)") 0 program.listing ∧ program.execute .ieee = .ok value ∧
      (∀ shown : Program, shown.listing = program.listing → shown.execute .ieee = .ok value) ∧
      evaluate tree.render = .ok value := by
  intro host tree
  have two := renders_number _ _ _ (repr_number 2)
  have twoValue : Decimal.toBinary64 false ⟨2, 0⟩ = .ofBits 0x4000000000000000 := by decide +kernel
  rw [twoValue] at two
  have group := renders_group _ _ _ (renders_widen .unary .additive _ _ _ (by decide) two)
  have signed := renders_widen .unary .additive _ _ _ (by decide) (renders_sign .minus _ _ _ group)
  have parsed : parse "-(2)" = .ok tree := parse_renders "-(2)" tree _ signed (by decide)
  have bounded : ¬ Overflowed "-(2)" := by
    rw [overflowed_literal "-(2)" tree parsed]
    decide
  rcases (inspection_agrees host {} "-(2)").1 with ⟨error, rejected, _⟩ |
    ⟨other, program, value, same, _, evaluated, shown, listed, executed, fixed, again⟩
  · cases parsed.symm.trans rejected
  · cases parsed.symm.trans same
    exact ⟨bounded, program, value, evaluated, shown, listed, executed, fixed, again bounded⟩

end CommandLine

end Reckon
