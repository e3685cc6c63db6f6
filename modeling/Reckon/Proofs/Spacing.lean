import Reckon.Proofs.Composition

set_option autoImplicit false

namespace Reckon

namespace Token

-- The texts with a gap before each of them and one after the last.
def weave : List String → List String → String
  | gap :: gaps, text :: texts => gap ++ text ++ weave gaps texts
  | gap :: _, [] => gap
  | [], _ => ""

-- Gaps around tokens. Two tokens may touch if one of them is an operator.
structure Spacing (tokens : List Token) (gaps : List String) : Prop where
  length : gaps.length = tokens.length + 1
  blank : ∀ gap ∈ gaps, ∀ c ∈ gap.toList, Text.isBlank c
  apart : ∀ (i : Nat) (token next : Token), tokens[i]? = some token → tokens[i + 1]? = some next →
    token.kind ≠ .operator → next.kind ≠ .operator → gaps[i + 1]? ≠ some ""

theorem spacing_tail (token : Token) (tokens : List Token) (gap : String) (gaps : List String)
    (spacing : Spacing (token :: tokens) (gap :: gaps)) : Spacing tokens gaps := by
  refine ⟨?_, fun other member => spacing.blank other (List.mem_cons_of_mem gap member), ?_⟩
  · simpa using spacing.length
  · intro i first second found after
    exact spacing.apart (i + 1) first second found after

theorem scan_blanks (pos : Nat) (blanks after : List Char) (blank : ∀ c ∈ blanks, Text.isBlank c) :
    scanFrom pos (blanks ++ after) = scanFrom (pos + blanks.length) after := by
  induction blanks generalizing pos with
  | nil => rfl
  | cons c blanks ih =>
      rw [List.cons_append, scan_blank pos c _ (blank c List.mem_cons_self),
        ih (pos + 1) (fun d member => blank d (List.mem_cons_of_mem c member)), List.length_cons,
        Nat.add_right_comm, Nat.add_assoc]

theorem scan_faces (pos other : Nat) (text : List Char) :
    (scanFrom pos text).map face = (scanFrom other text).map face := by
  have here := scan_moved 0 pos text
  have there := scan_moved 0 other text
  rw [Nat.zero_add] at here there
  rw [here, there, moved_faces, moved_faces]

theorem scan_shaped_token (pos : Nat) (text : List Char) (token : Token)
    (member : token ∈ (scanFrom pos text).dropLast) :
    token.text ≠ "" ∧ Shaped token.kind token.text.toList := by
  fun_induction scanFrom pos text with
  | case1 pos => cases member
  | case2 pos c rest blank ih => exact ih member
  | case3 pos c rest blank next ih =>
      rw [scan_end_mark (pos + next.text.length) next.rest, ← List.cons_append,
        List.dropLast_concat] at member
      rcases List.mem_cons.mp member with rfl | later
      · rw [String.toList_ofList]
        exact ⟨fun empty => lexeme_nonempty c rest (String.ofList_eq_empty_iff.mp empty),
          (lexeme_lawful c rest (Bool.eq_false_iff.mpr blank)).1⟩
      · exact ih later

theorem operator_shaped (text : List Char) (shaped : Shaped .operator text) :
    ∃ c, text = [c] ∧ isSeparator c := by
  cases shaped with
  | number number => cases number
  | operator member =>
      exact ⟨_, rfl, by simp [isSeparator, isOperatorChar, member]⟩

theorem woven_first (gap text : String) (gaps texts : List String) :
    (weave (gap :: gaps) (text :: texts)).toList =
      gap.toList ++ (text.toList ++ (weave gaps texts).toList) := by
  simp [weave]

-- A gap that is left out beside a token that is no operator stands before one.
theorem spacing_bounded (token : Token) (tokens : List Token) (gap next : String) (gaps : List String)
    (spacing : Spacing (token :: tokens) (gap :: next :: gaps)) (notOperator : token.kind ≠ .operator)
    (shaped : ∀ other ∈ tokens, Shaped other.kind other.text.toList) :
    Bounded (weave (next :: gaps) (tokens.map text)).toList := by
  have blank := spacing.blank next (List.mem_cons_of_mem _ List.mem_cons_self)
  intro c head
  cases chars : next.toList with
  | cons first others =>
      have same : first = c := by cases tokens <;> simpa [weave, chars] using head
      rw [chars] at blank
      simp [isSeparator, ← same, blank first List.mem_cons_self]
  | nil =>
      cases tokens with
      | nil => simp [weave, chars] at head
      | cons second tokens =>
          have touching : next = "" := String.toList_eq_nil_iff.mp chars
          subst touching
          by_cases operator : second.kind = .operator
          · have shape := shaped second List.mem_cons_self
            rw [operator] at shape
            obtain ⟨d, text, separator⟩ := operator_shaped second.text.toList shape
            have same : d = c := by simpa [woven_first, text] using head
            exact same ▸ separator
          · exact absurd rfl (spacing.apart 0 token second rfl rfl notOperator operator)

theorem spacing_ended (token : Token) (tokens : List Token) (gap next : String) (gaps : List String)
    (spacing : Spacing (token :: tokens) (gap :: next :: gaps))
    (shaped : ∀ other ∈ tokens, Shaped other.kind other.text.toList) :
    Ended token.kind (weave (next :: gaps) (tokens.map text)).toList.head? := by
  by_cases operator : token.kind = .operator
  · rw [operator]
    trivial
  · exact bounded_ended token.kind _ (spacing_bounded token tokens gap next gaps spacing operator shaped)

-- By the tokens: blanks are skipped, and each token is scanned as it stands.
theorem scan_woven (pos : Nat) (tokens : List Token) (gaps : List String) (spacing : Spacing tokens gaps)
    (shaped : ∀ token ∈ tokens, token.text ≠ "" ∧ Shaped token.kind token.text.toList) :
    (scanFrom pos (weave gaps (tokens.map text)).toList).map face = tokens.map face ++ [(.eof, "")] := by
  induction tokens generalizing pos gaps with
  | nil =>
      obtain ⟨gap, rfl⟩ := List.length_eq_one_iff.mp spacing.length
      have blank := spacing.blank gap List.mem_cons_self
      have scanned := scan_blanks pos gap.toList [] blank
      rw [List.append_nil, scanFrom.eq_def (pos + gap.toList.length)] at scanned
      rw [List.map_nil, weave, scanned]
      rfl
  | cons token tokens ih =>
      obtain ⟨gap, next, gaps, rfl⟩ : ∃ gap next more, gaps = gap :: next :: more := by
        have length := spacing.length
        cases gaps with
        | nil => simp at length
        | cons gap gaps =>
            cases gaps with
            | nil => simp at length
            | cons next more => exact ⟨gap, next, more, rfl⟩
      have blank := spacing.blank gap List.mem_cons_self
      have laterShaped := fun other member => shaped other (List.mem_cons_of_mem token member)
      have ended := spacing_ended token tokens gap next gaps spacing
        (fun other member => (laterShaped other member).2)
      obtain ⟨nonempty, shape⟩ := shaped token List.mem_cons_self
      obtain ⟨c, tail, chars⟩ := List.exists_cons_of_ne_nil
        (fun empty => nonempty (String.toList_eq_nil_iff.mp empty))
      rw [chars] at shape
      rw [List.map_cons, woven_first, scan_blanks _ _ _ blank, chars,
        scan_shaped _ token.kind c tail _ shape ended, List.map_cons,
        ih _ (next :: gaps) (spacing_tail token tokens gap _ spacing) laterShaped, ← chars,
        String.ofList_toList]
      rfl

theorem scan_face_split (pos : Nat) (text : List Char) :
    (scanFrom pos text).map face = (scanFrom pos text).dropLast.map face ++ [(.eof, "")] := by
  rw [scan_end_mark pos text, List.dropLast_concat, List.map_append]
  rfl

theorem woven_faces (source : String) (gaps : List String) (spacing : Spacing (scan source).dropLast gaps) :
    (scan (weave gaps ((scan source).dropLast.map text))).map face = (scan source).map face := by
  have woven := scan_woven 0 _ gaps spacing (scan_shaped_token 0 source.toList)
  exact woven.trans (scan_face_split 0 source.toList).symm

theorem trim_split (text : List Char) : ∃ lead trail, text = lead ++ (Text.trimBy Text.isBlank text ++ trail) ∧
    (∀ c ∈ lead, Text.isBlank c) ∧ ∀ c ∈ trail, Text.isBlank c := by
  have back := List.takeWhile_append_dropWhile (p := Text.isBlank) (l := (text.dropWhile Text.isBlank).reverse)
  refine ⟨text.takeWhile Text.isBlank, ((text.dropWhile Text.isBlank).reverse.takeWhile Text.isBlank).reverse,
    ?_, fun c member => List.all_eq_true.mp List.all_takeWhile c member, fun c member => ?_⟩
  · rw [Text.trimBy, ← List.reverse_append, back, List.reverse_reverse, List.takeWhile_append_dropWhile]
  · exact List.all_eq_true.mp List.all_takeWhile c (List.mem_reverse.mp member)

theorem strip_faces (source : String) : (scan (Text.strip source)).map face = (scan source).map face := by
  obtain ⟨lead, trail, split, leadBlank, trailBlank⟩ := trim_split source.toList
  have bounded : Bounded trail := by
    intro c first
    simp [isSeparator, trailBlank c (List.mem_of_mem_head? first)]
  have ending := scan_blanks (lead.length + (Text.trimBy Text.isBlank source.toList).length) trail [] trailBlank
  rw [List.append_nil, scanFrom.eq_def _ []] at ending
  rw [scan, scan, split, scan_blanks 0 lead _ leadBlank, Nat.zero_add, scanned_self _ _ trail bounded, ending,
    List.map_append, Text.strip, String.toList_ofList, scan_faces 0 lead.length, scan_face_split]
  rfl

end Token

namespace Parse

open Token (face)

-- What is left of a token, and of all that names a place, without the place.
def unplaced (token : Token) : Token := ⟨token.kind, token.text, 0⟩

def Enclosure.unplaced : Enclosure → Enclosure
  | .group _ => .group 0
  | .sign => .sign

def Progress.unplaced (progress : Progress) : Progress :=
  ⟨progress.levels.map Enclosure.unplaced, progress.operandNext⟩

def Cause.unplaced : Cause → Cause
  | .emptyGroup _ => .emptyGroup 0
  | .unclosed _ => .unclosed 0
  | cause => cause

def Halt.unplaced : Halt → Halt
  | .rejected cause => .rejected cause.unplaced
  | .notANumber text => .notANumber text

def Verdict.unplaced : Verdict → Verdict
  | .complete => .complete
  | .rejected rest cause => .rejected (rest.map Parse.unplaced) cause.unplaced
  | .notANumber text => .notANumber text

theorem unplaced_faces (tokens others : List Token) (same : others.map face = tokens.map face) :
    others.map unplaced = tokens.map unplaced := by
  have throughFace : unplaced = (fun look : Token.Kind × String => (⟨look.1, look.2, 0⟩ : Token)) ∘ face := rfl
  rw [throughFace, ← List.map_map, ← List.map_map, same]

theorem close_signs_unplaced (levels : List Enclosure) :
    closeSigns (levels.map Enclosure.unplaced) = (closeSigns levels).map Enclosure.unplaced := by
  induction levels with
  | nil => rfl
  | cons enclosure levels ih =>
      cases enclosure with
      | group pos => rfl
      | sign => exact ih

theorem opened_unplaced (token : Token) :
    opened? (unplaced token) = (opened? token).map Enclosure.unplaced := by
  by_cases opens : token.isOperator "("
  · rw [opened_group token opens, opened_group (unplaced token) opens]
    rfl
  · have unopened : ¬ (unplaced token).isOperator "(" := opens
    rw [opened?, if_neg unopened, opened?, if_neg opens, Option.map_map]
    rfl

-- A step looks at the kind and the text of the token, and only passes its place on.
theorem step_unplaced (limit : Nat) (token : Token) (progress : Progress) :
    progress.unplaced.step limit (unplaced token) =
      match progress.step limit token with
      | .ok next => .ok next.unplaced
      | .error halt => .error halt.unplaced := by
  have literal : (unplaced token).isLiteral = token.isLiteral := rfl
  have text : (unplaced token).text = token.text := rfl
  have kind : (unplaced token).kind = token.kind := rfl
  have closing : (unplaced token).isOperator ")" = token.isOperator ")" := rfl
  have continues : (Category.chain .additive).continues (unplaced token) =
      (Category.chain .additive).continues token := rfl
  obtain ⟨levels, operandNext⟩ := progress
  cases operandNext with
  | true =>
      simp only [Progress.unplaced, Progress.step, literal, text, kind, opened_unplaced, List.length_map]
      by_cases isLiteral : token.isLiteral
      · cases reads : Numeral.read? token.text with
        | none => simp [isLiteral, Halt.unplaced]
        | some value => simp [isLiteral, close_signs_unplaced]
      · cases opened : opened? token with
        | none =>
            by_cases malformed : token.kind = .malformed
            · simp [isLiteral, malformed, Halt.unplaced, Cause.unplaced]
            · simp [isLiteral, malformed, Halt.unplaced, Cause.unplaced]
        | some enclosure =>
            by_cases full : limit ≤ levels.length
            · simp [isLiteral, full, Halt.unplaced, Cause.unplaced]
            · simp [isLiteral, full]
  | false =>
      simp only [Progress.unplaced, Progress.step, closing, continues]
      by_cases goesOn : (Category.chain .additive).continues token
      · simp [goesOn]
      · cases levels with
        | nil => simp [goesOn, Halt.unplaced, Cause.unplaced]
        | cons enclosure outer =>
            cases enclosure with
            | sign => simp [goesOn, Enclosure.unplaced, Halt.unplaced, Cause.unplaced]
            | group pos =>
                by_cases closes : token.isOperator ")"
                · simp [goesOn, closes, Enclosure.unplaced, close_signs_unplaced]
                · simp [goesOn, closes, Enclosure.unplaced, Halt.unplaced, Cause.unplaced]

theorem finish_unplaced (progress : Progress) : progress.unplaced.finish = progress.finish.unplaced := by
  obtain ⟨levels, operandNext⟩ := progress
  cases operandNext with
  | true => rfl
  | false =>
      cases levels with
      | nil => rfl
      | cons enclosure outer => cases enclosure <;> rfl

theorem reading_unplaced (limit : Nat) (progress : Progress) (tokens : List Token) :
    reading limit progress.unplaced (tokens.map unplaced) = (reading limit progress tokens).unplaced := by
  induction tokens generalizing progress with
  | nil => exact finish_unplaced progress
  | cons token tokens ih =>
      rw [List.map_cons, reading, reading, step_unplaced]
      cases progress.step limit token with
      | ok next => exact ih next
      | error halt => cases halt <;> rfl

theorem rejected_faces (body others : List Token) (endMark otherMark : Token)
    (source otherSource : Option String) (error : Error) (ends : endMark.kind = .eof)
    (otherEnds : otherMark.kind = .eof) (same : others.map face = body.map face)
    (sameMark : otherMark.face = endMark.face)
    (failed : parseTokens (body ++ [endMark]) source = .error (.rejected error)) :
    ∃ fault, parseTokens (others ++ [otherMark]) otherSource = .error (.rejected fault) ∧
      fault.index = error.index ∧ fault.token.face = error.token.face ∧
      fault.cause.unplaced = error.cause.unplaced := by
  have sameLength : others.length = body.length := by simpa using congrArg List.length same
  rcases parse_tokens_outcome body endMark source ends with
    ⟨tree, parsed⟩ | ⟨rest, cause, read, parsed⟩ | ⟨text, _, parsed⟩
  · cases failed.symm.trans parsed
  · cases failed.symm.trans parsed
    have verdict := reading_unplaced maxDepth .start others
    rw [unplaced_faces body others same, reading_unplaced maxDepth .start body, read] at verdict
    cases otherRead : reading maxDepth .start others with
    | complete =>
        rw [otherRead] at verdict
        cases verdict
    | notANumber text =>
        rw [otherRead] at verdict
        cases verdict
    | rejected otherRest otherCause =>
        rw [otherRead] at verdict
        obtain ⟨sameRest, sameCause⟩ := Verdict.rejected.inj verdict
        have restLength : otherRest.length = rest.length := by simpa using (congrArg List.length sameRest).symm
        refine ⟨_, parse_tokens_rejected others otherRest otherMark otherSource otherCause otherEnds otherRead,
          ?_, ?_, sameCause.symm⟩
        · simp only [errorAt, sameLength, restLength]
        · cases rest with
          | nil =>
              rw [List.eq_nil_of_length_eq_zero restLength]
              exact sameMark
          | cons token rest =>
              cases otherRest with
              | nil => cases restLength
              | cons otherToken otherRest =>
                  rw [List.map_cons, List.map_cons, List.cons.injEq] at sameRest
                  change (unplaced otherToken).face = (unplaced token).face
                  rw [sameRest.1]
  · cases failed.symm.trans parsed

end Parse

open Parse Token

-- Texts that differ in nothing but the places of their tokens: the same tree, or an error of the same
-- kind at the same token.
structure SameOutcome (source other : String) : Prop where
  faces : (scan other).map face = (scan source).map face
  parsed : (∃ tree, parse source = .ok tree ∧ parse other = .ok tree) ∨
    ∃ error fault, parse source = .error (.rejected error) ∧ parse other = .error (.rejected fault) ∧
      fault.index = error.index ∧ fault.token.face = error.token.face ∧
      fault.cause.unplaced = error.cause.unplaced
  value : ∀ (ops : Arithmetic) (x : Binary64), evaluateWith ops other = .ok x ↔ evaluateWith ops source = .ok x

theorem parse_faces (source other : String) (tree : Expr)
    (same : (scan other).map face = (scan source).map face) (parsed : parse source = .ok tree) :
    parse other = .ok tree := by
  obtain ⟨nesting, within, derived⟩ := (parse_iff_derives source tree).mp parsed
  refine (parse_iff_derives other tree).mpr ⟨nesting, within, derives_faces _ _ _ tree nesting derived ?_⟩
  rw [List.map_dropLast, List.map_dropLast, same]

theorem evaluate_faces (ops : Arithmetic) (source other : String) (x : Binary64)
    (same : (scan other).map face = (scan source).map face) (evaluated : evaluateWith ops source = .ok x) :
    evaluateWith ops other = .ok x := by
  obtain ⟨tree, parsed, rfl⟩ := evaluated_parsed ops source x evaluated
  exact evaluate_with_parsed ops other tree (parse_faces source other tree same parsed)

theorem same_outcome (source other : String) (same : (scan other).map face = (scan source).map face) :
    SameOutcome source other := by
  refine ⟨same, ?_, fun ops x => ⟨evaluate_faces ops other source x same.symm,
    evaluate_faces ops source other x same⟩⟩
  cases parsed : parse source with
  | ok tree => exact .inl ⟨tree, rfl, parse_faces source other tree same parsed⟩
  | error failure =>
      obtain ⟨error, rfl⟩ := parse_failure source failure parsed
      have sameBody : (scan other).dropLast.map face = (scan source).dropLast.map face := by
        rw [List.map_dropLast, List.map_dropLast, same]
      rw [parse, scan, scan_end_mark 0 source.toList] at parsed
      obtain ⟨fault, failed, sameError⟩ := rejected_faces _ (scan other).dropLast
        ⟨.eof, "", (0 + source.toList.length : Nat)⟩ ⟨.eof, "", (0 + other.toList.length : Nat)⟩ _ (some other)
        error rfl rfl sameBody rfl parsed
      refine .inr ⟨error, fault, rfl, ?_, sameError⟩
      rw [parse, scan, scan_end_mark 0 other.toList]
      exact failed

theorem spacing_keeps_outcome (source : String) :
    (∀ gaps, Spacing (scan source).dropLast gaps →
      SameOutcome source (weave gaps ((scan source).dropLast.map text))) ∧
    SameOutcome source (Text.strip source) :=
  ⟨fun gaps spacing => same_outcome source _ (woven_faces source gaps spacing),
    same_outcome source _ (strip_faces source)⟩

-- A wide blank in front, a gap closed beside the parenthesis, and one widened before a malformed token.
theorem spacing_of_rejected_text :
    Spacing (scan "(2 1.2.3").dropLast ["\u3000", "", "\t\n", " "] ∧
      SameOutcome "(2 1.2.3" "\u3000(2\t\n1.2.3 " := by
  have scanned : scan "(2 1.2.3" = [⟨.operator, "(", 0⟩, ⟨.integer, "2", 1⟩, ⟨.malformed, "1.2.3", 3⟩,
      ⟨.eof, "", 8⟩] := by decide +kernel
  have woven : weave ["\u3000", "", "\t\n", " "] ((scan "(2 1.2.3").dropLast.map text) =
      "\u3000(2\t\n1.2.3 " := by
    rw [scanned]
    decide
  have blanks : ["\u3000", "", "\t\n", " "].all (·.toList.all Text.isBlank) := by decide +kernel
  have spacing : Spacing (scan "(2 1.2.3").dropLast ["\u3000", "", "\t\n", " "] := by
    rw [scanned]
    refine ⟨rfl, fun gap member => List.all_eq_true.mp (List.all_eq_true.mp blanks gap member), ?_⟩
    intro i token next found after notOperator
    cases i with
    | zero =>
        cases found
        exact absurd rfl notOperator
    | succ i =>
        cases i with
        | zero => simp
        | succ i => simp at after
  have kept := (spacing_keeps_outcome "(2 1.2.3").1 _ spacing
  rw [woven] at kept
  exact ⟨spacing, kept⟩

end Reckon
