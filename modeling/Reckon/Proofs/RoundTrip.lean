import Reckon.Proofs.Rendering
import Reckon.Proofs.Sentences

set_option autoImplicit false

namespace Reckon.Parse

theorem render_text (tree : Expr) : tree.render = tree.text := by
  rw [Expr.render, Expr.render_parts]

theorem scan_scanned (source : String) (tokens : List Token)
    (scanned : Token.Scanned 0 source.toList tokens) :
    Token.scan source = tokens ++ [⟨.eof, "", source.toList.length⟩] := by
  have nothing : Token.Bounded [] := by
    intro c absent
    cases absent
  have scan := scanned [] nothing
  rw [List.append_nil, Token.scanFrom.eq_def (0 + source.toList.length), Nat.zero_add] at scan
  exact scan

theorem parse_scanned (source : String) (tokens : List Token)
    (scanned : Token.Scanned 0 source.toList tokens) :
    parse source = parseBody tokens ⟨.eof, "", source.toList.length⟩ (some source) := by
  rw [parse, scan_scanned source tokens scanned]
  exact parse_tokens_body tokens _ _ rfl

theorem parse_rejected (tokens : List Token) (source : String) (rest : List Token) (cause : Cause)
    (scanned : Token.Scanned 0 source.toList tokens)
    (rejected : reading maxDepth .start tokens = .rejected rest cause) :
    parse source = .error (.rejected
      (errorAt tokens ⟨.eof, "", source.toList.length⟩ (some source) rest cause)) := by
  have verdict := parse_body_verdict tokens ⟨.eof, "", source.toList.length⟩ (some source)
  rw [rejected] at verdict
  rw [parse_scanned source tokens scanned]
  exact verdict

theorem parse_renders (source : String) (tree : Expr) (nesting : Nat)
    (renders : Renders (.chain .additive) source.toList tree nesting) (within : nesting ≤ maxDepth) :
    parse source = .ok tree := by
  obtain ⟨tokens, scanned, derived⟩ := renders 0
  rw [parse_scanned source tokens scanned, parse_body_iff]
  exact ⟨nesting, within, derived⟩

theorem looseness_additive (limit : Precedence) : limit.looseness ≤ Precedence.additive.looseness := by
  cases limit <;> decide

theorem renders_sentence (tree : Expr) (finite : ∀ value ∈ tree.literals, value.isFinite) :
    Renders (.chain .additive) tree.text.toList tree.splitSigns tree.textNesting :=
  renders_widen tree.precedence .additive _ _ _ (looseness_additive _) (renders_tree tree finite)

theorem parse_render (tree : Expr) (finite : ∀ value ∈ tree.literals, value.isFinite) :
    (tree.textNesting ≤ maxDepth → parse tree.render = .ok tree.splitSigns) ∧
    (maxDepth < tree.textNesting →
      ∃ error, parse tree.render = .error (.rejected error) ∧ error.cause = .tooDeep) := by
  rw [render_text]
  refine ⟨parse_renders _ _ _ (renders_sentence tree finite), fun deep => ?_⟩
  obtain ⟨tokens, scanned, derived⟩ := renders_sentence tree finite 0
  obtain ⟨rest, rejected⟩ := derives_too_deep maxDepth _ tokens [] _ _ [] derived (Nat.zero_le _)
    (by simpa using deep) rfl
  rw [List.append_nil] at rejected
  exact ⟨_, parse_rejected tokens _ rest _ scanned rejected, rfl⟩

-- A negative zero on the right of a subtraction in parentheses, and one sign too many.
theorem parse_render_nested :
    parse (Expr.binary .sub (.literal .zero) (.binary .sub (.literal .zero) (.literal Binary64.zero.neg))).render =
      .ok (.binary .sub (.literal .zero) (.binary .sub (.literal .zero) (.unary .minus (.literal .zero)))) ∧
    ∃ error, parse (Nat.repeat (Expr.unary .minus) 101 (Expr.literal .zero)).render =
      .error (.rejected error) ∧ error.cause = .tooDeep :=
  ⟨(parse_render _ (by decide +kernel)).1 (by decide +kernel),
    (parse_render _ (by decide +kernel)).2 (by decide +kernel)⟩

end Reckon.Parse
