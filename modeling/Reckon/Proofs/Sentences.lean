import Reckon.Parse.Basic
import Reckon.Proofs.Account
import Reckon.Proofs.Scanning

set_option autoImplicit false

namespace Reckon.Parse

theorem parse_body_verdict (body : List Token) (endMark : Token) (source : Option String) :
    match reading maxDepth .start body with
    | .complete => ∃ tree nesting, Derives (.chain .additive) body tree nesting ∧ nesting ≤ maxDepth ∧
        parseBody body endMark source = .ok tree
    | .rejected rest cause =>
        parseBody body endMark source = .error (.rejected (errorAt body endMark source rest cause))
    | .notANumber text => parseBody body endMark source = .error (.notANumber text) := by
  have outcome := matchers_accounted maxDepth (body.length + 1) (.chain .additive) [] body
    (Nat.lt_succ_self _) (by decide) (Nat.zero_le _) rfl
  simp only [matcher, List.length_nil] at outcome
  rw [parseBody, Progress.start]
  generalize chain maxDepth .additive body ⟨0, none⟩ = result at outcome
  cases outcome with
  | @matched tree before rest nesting shorter split derived room stops =>
      have read := derives_reading maxDepth _ before rest tree nesting [] derived room rfl
      rw [← split] at read
      rw [read]
      cases rest with
      | nil =>
          rw [List.append_nil] at split
          rw [← split] at derived
          exact ⟨tree, nesting, derived, by simpa using room, rfl⟩
      | cons token tail =>
          have continues : (Category.chain .additive).continues token = false := stops
          rw [reading_rejected maxDepth _ token tail .leftover]
          simp only [closeSigns, Progress.step, continues, Bool.false_eq_true, if_false]
  | @interrupted tree rest mishap shorter goesOn further stuck =>
      rw [stuck]
      cases rest with
      | nil => exact absurd trivial goesOn
      | cons token tail => simp only [if_pos further]
  | unmatched further stuck => rw [stuck]
  | tooDeep stuck => rw [stuck]
  | notANumber stuck => rw [stuck]

theorem parse_body_iff (body : List Token) (endMark : Token) (source : Option String) (tree : Expr) :
    parseBody body endMark source = .ok tree ↔
      ∃ nesting, nesting ≤ maxDepth ∧ Derives (.chain .additive) body tree nesting := by
  have verdict := parse_body_verdict body endMark source
  constructor
  · intro parsed
    rw [parsed] at verdict
    split at verdict
    · obtain ⟨other, nesting, derived, within, same⟩ := verdict
      cases same
      exact ⟨nesting, within, derived⟩
    · cases verdict
    · cases verdict
  · rintro ⟨nesting, within, derived⟩
    have read := derives_reading maxDepth _ body [] tree nesting [] derived (by simpa using within) rfl
    rw [List.append_nil] at read
    rw [Progress.start, read] at verdict
    obtain ⟨other, otherNesting, otherDerived, _, parsed⟩ := verdict
    rw [parsed, derives_unique body other tree otherNesting nesting otherDerived derived]

theorem scan_ends (pos : Nat) (text : List Char) :
    ∃ body endMark, Token.scanFrom pos text = body ++ [endMark] ∧ endMark.kind = .eof :=
  ⟨_, _, Token.scan_end_mark pos text, rfl⟩

theorem parse_tokens_body (body : List Token) (endMark : Token) (source : Option String)
    (ends : endMark.kind = .eof) :
    parseTokens (body ++ [endMark]) source = parseBody body endMark source := by
  rw [parseTokens, List.getLast?_concat, List.dropLast_concat]
  exact if_pos ends

theorem parse_iff_derives (source : String) (tree : Expr) :
    parse source = .ok tree ↔
      ∃ nesting, nesting ≤ maxDepth ∧ Derives (.chain .additive) (Token.scan source).dropLast tree nesting := by
  obtain ⟨body, endMark, split, ends⟩ := scan_ends 0 source.toList
  rw [parse, Token.scan, split, parse_tokens_body body endMark _ ends, List.dropLast_concat,
    parse_body_iff]

theorem parse_tokens_marked (tokens : List Token) (source : Option String)
    (marked : parseTokens tokens source ≠ .error .noEndMark) :
    ∃ body endMark, tokens = body ++ [endMark] ∧ endMark.kind = .eof := by
  rw [parseTokens] at marked
  split at marked
  · rename_i last found
    split at marked
    · rename_i ends
      obtain ⟨body, split⟩ := List.getLast?_eq_some_iff.mp found
      exact ⟨body, last, split, ends⟩
    · exact absurd rfl marked
  · exact absurd rfl marked

theorem parse_tokens_ends (tokens : List Token) (source : Option String) (tree : Expr)
    (parsed : parseTokens tokens source = .ok tree) :
    ∃ body endMark, tokens = body ++ [endMark] ∧ endMark.kind = .eof := by
  apply parse_tokens_marked tokens source
  rw [parsed]
  intro absurdity
  cases absurdity

theorem parse_accepts_sentences :
    (∀ (tokens : List Token) (source : Option String) (tree : Expr),
      parseTokens tokens source = .ok tree ↔ ∃ body endMark nesting, tokens = body ++ [endMark] ∧
        endMark.kind = .eof ∧ nesting ≤ maxDepth ∧ Derives (.chain .additive) body tree nesting) ∧
    (∀ (body : List Token) (tree other : Expr) (m n : Nat), Derives (.chain .additive) body tree m →
      Derives (.chain .additive) body other n → tree = other) ∧
    ∀ (source : String) (tree : Expr), parse source = .ok tree ↔ ∃ nesting, nesting ≤ maxDepth ∧
      Derives (.chain .additive) (Token.scan source).dropLast tree nesting := by
  refine ⟨fun tokens source tree => ⟨?_, ?_⟩, derives_unique, parse_iff_derives⟩
  · intro parsed
    obtain ⟨body, endMark, split, ends⟩ := parse_tokens_ends tokens source tree parsed
    rw [split, parse_tokens_body body endMark source ends, parse_body_iff] at parsed
    obtain ⟨nesting, within, derived⟩ := parsed
    exact ⟨body, endMark, nesting, split, ends, within, derived⟩
  · rintro ⟨body, endMark, nesting, split, ends, within, derived⟩
    rw [split, parse_tokens_body body endMark source ends, parse_body_iff]
    exact ⟨nesting, within, derived⟩

-- The second minus sign is a sign because it stands where an operand is due.
theorem parse_accepts_signed_operand :
    parseTokens [⟨.integer, "2", 0⟩, ⟨.operator, "-", 2⟩, ⟨.operator, "-", 4⟩, ⟨.integer, "3", 5⟩,
      ⟨.eof, "", 6⟩] none =
      .ok (.binary .sub (.literal (.ofBits 0x4000000000000000))
        (.unary .minus (.literal (.ofBits 0x4008000000000000)))) := by
  have two : Derives (.chain .multiplicative) [⟨.integer, "2", 0⟩]
      (.literal (.ofBits 0x4000000000000000)) 0 :=
    .first (.unsigned (.literal rfl (by decide +kernel)))
  have three : Derives .signed [⟨.integer, "3", 5⟩] (.literal (.ofBits 0x4008000000000000)) 0 :=
    .unsigned (.literal rfl (by decide +kernel))
  have minusThree : Derives (.chain .multiplicative) [⟨.operator, "-", 4⟩, ⟨.integer, "3", 5⟩]
      (.unary .minus (.literal (.ofBits 0x4008000000000000))) 1 :=
    .first (.signed (by decide) three)
  have difference : Derives (.chain .additive)
      ([⟨.integer, "2", 0⟩] ++ ⟨.operator, "-", 2⟩ :: [⟨.operator, "-", 4⟩, ⟨.integer, "3", 5⟩])
      (.binary .sub (.literal (.ofBits 0x4000000000000000))
        (.unary .minus (.literal (.ofBits 0x4008000000000000)))) (max 0 1) :=
    .more (by decide) (by decide) (.first two) minusThree
  exact (parse_accepts_sentences.1 _ _ _).mpr ⟨_, _, _, rfl, rfl, by decide, difference⟩

end Reckon.Parse
