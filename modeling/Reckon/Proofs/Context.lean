import Reckon.Proofs.Diagnosis
import Reckon.Proofs.Segmentation

set_option autoImplicit false

namespace Reckon

namespace Token

-- The places in the source, or just behind it, that a token is marked at.
def MarkedAt (source : String) (token : Token) (place : Nat) : Prop :=
  if token.kind = .eof then place = source.length else token.Covers place

-- A line of blanks and carets for a token, to be put under the source.
structure Marks (source : String) (token : Token) (marker : String) : Prop where
  carets : ∀ place, marker.toList[place]? = some '^' ↔ token.MarkedAt source place
  others : ∀ c ∈ marker.toList, c = '^' ∨ c = ' '
  last : marker.toList.getLast? = some '^'

structure Placed (source : String) (token : Token) : Prop where
  begins : 0 ≤ token.pos
  within : token.pos ≤ source.length
  slice : (source.toList.drop token.start).take token.text.length = token.text.toList
  -- The end mark is empty and is marked all the same.
  marked : ∀ place, token.MarkedAt source place ↔
    token.start ≤ place ∧ place < token.start + max token.text.length 1

theorem lawful_not_end (source : List Char) (token : Token) (lawful : Lawful source token) :
    token.kind ≠ .eof := by
  intro ends
  have shaped := lawful.shaped
  rw [ends] at shaped
  cases shaped with
  | number number => cases number

theorem lawful_inside (source : List Char) (token : Token) (lawful : Lawful source token) :
    token.start < source.length := by
  obtain ⟨c, tail, _, found⟩ := lawful_split source token lawful
  apply Nat.lt_of_not_le
  intro beyond
  rw [List.drop_eq_nil_iff.mpr beyond] at found
  cases found

theorem lawful_placed (source : String) (token : Token) (begins : 0 ≤ token.pos)
    (lawful : Lawful source.toList token) : Placed source token := by
  have inside := lawful_inside source.toList token lawful
  have covered := (start_covered source.toList token lawful).2
  rw [String.length_toList, start] at inside
  refine ⟨begins, by omega, lawful.slice, fun place => ?_⟩
  rw [MarkedAt, if_neg (lawful_not_end source.toList token lawful), Covers, stop]
  rw [stop] at covered
  have positive : max token.text.length 1 = token.text.length := by omega
  rw [positive]

theorem end_mark_placed (source : String) : Placed source ⟨.eof, "", source.length⟩ := by
  refine ⟨by simp, by simp, by simp, fun place => ?_⟩
  have behind : (⟨.eof, "", source.length⟩ : Token).start = source.length := rfl
  rw [MarkedAt, if_pos rfl, behind]
  change place = source.length ↔ source.length ≤ place ∧ place < source.length + 1
  omega

theorem scan_placed (source : String) (token : Token) (member : token ∈ scan source) :
    Placed source token := by
  have marked := scan_end_mark 0 source.toList
  rw [Nat.zero_add, String.length_toList] at marked
  rw [scan, marked] at member
  rcases List.mem_append.mp member with inBody | last
  · have segments := (segments_scan source.toList 0 _ _ rfl).mpr rfl
    exact lawful_placed source token (segments.later token inBody) (segments.lawful token inBody)
  · rw [List.mem_singleton.mp last]
    exact end_mark_placed source

end Token

def Context.marker (context : Context) : String :=
  String.ofList (List.replicate (context.column - 1).toNat ' ') ++
    String.ofList (List.replicate (max context.length 1).toNat '^')

theorem context_lines (context : Context) :
    context.display = "\n".intercalate
      ["column " ++ toString context.column, "  " ++ context.source, "  " ++ context.marker] := by
  have indent : "\n  " = "\n" ++ "  " := rfl
  simp only [Context.display, Context.marker, String.intercalate_cons_cons, String.intercalate_singleton, indent,
    String.append_assoc]

-- Carets stand behind the gap, as many as there are.
theorem caret_run (gap run place : Nat) :
    (List.replicate gap ' ' ++ List.replicate run '^')[place]? = some '^' ↔ gap ≤ place ∧ place < gap + run := by
  by_cases before : place < gap
  · rw [List.getElem?_append_left (by rw [List.length_replicate]; exact before), List.getElem?_replicate,
      if_pos before]
    exact ⟨fun same => absurd same (by decide), fun inside => by omega⟩
  · rw [List.getElem?_append_right (by rw [List.length_replicate]; omega), List.getElem?_replicate,
      List.length_replicate]
    by_cases inside : place - gap < run
    · rw [if_pos inside]
      exact ⟨fun _ => by omega, fun _ => rfl⟩
    · rw [if_neg inside]
      exact ⟨fun absent => absurd absent (by decide), fun within => by omega⟩

theorem marker_run (source : String) (token : Token) :
    (Context.marker ⟨source, token.pos + 1, token.text.length⟩).toList =
      List.replicate token.start ' ' ++ List.replicate (max token.text.length 1) '^' := by
  have gap : (token.pos + 1 - 1).toNat = token.start := by rw [Int.add_sub_cancel, Token.start]
  have run : (max (token.text.length : Int) 1).toNat = max token.text.length 1 := by omega
  rw [Context.marker, String.toList_append, String.toList_ofList, String.toList_ofList, gap, run]

namespace Parse

open Token (Marks Placed)

theorem context_marks (source : String) (token : Token) (placed : Placed source token) :
    Marks source token (Context.marker ⟨source, token.pos + 1, token.text.length⟩) := by
  have run := marker_run source token
  have nonzero : max token.text.length 1 ≠ 0 := by omega
  refine ⟨fun place => ?_, fun c member => ?_, ?_⟩
  · rw [run, caret_run, placed.marked]
  · rw [run] at member
    rcases List.mem_append.mp member with gap | carets
    · exact .inr (List.eq_of_mem_replicate gap)
    · exact .inl (List.eq_of_mem_replicate carets)
  · rw [run, List.getLast?_append, List.getLast?_replicate, if_neg nonzero]
    rfl

theorem rejected_source (tokens : List Token) (source : Option String) (error : Error)
    (failed : parseTokens tokens source = .error (.rejected error)) : error.source = source := by
  obtain ⟨body, endMark, rfl, ends⟩ := rejected_marked tokens source error failed
  rcases parse_tokens_outcome body endMark source ends with
    ⟨tree, parsed⟩ | ⟨rest, cause, _, parsed⟩ | ⟨text, _, parsed⟩
  · cases failed.symm.trans parsed
  · cases failed.symm.trans parsed
    rfl
  · cases failed.symm.trans parsed

-- What is missing at the end is marked just behind the source.
theorem error_marks_token (source : String) (error : Error)
    (failed : parse source = .error (.rejected error)) :
    (Token.scan source)[error.index]? = some error.token ∧
    ∃ context, error.context? = some context ∧ context.source = source ∧
      context.column - 1 = error.token.pos ∧ 0 ≤ error.token.pos ∧ error.token.pos ≤ source.length ∧
      (source.toList.drop (context.column - 1).toNat).take context.length.toNat = error.token.text.toList ∧
      ∃ marker, Marks source error.token marker ∧
        error.message = "\n".intercalate
          [error.short, "column " ++ toString context.column, "  " ++ source, "  " ++ marker] := by
  obtain ⟨found, _⟩ := parse_refused (Token.scan source) (some source) error failed
  have known := rejected_source (Token.scan source) (some source) error failed
  have placed := Token.scan_placed source error.token (List.mem_of_getElem? found)
  have column : error.token.pos + 1 - 1 = error.token.pos := Int.add_sub_cancel _ _
  have context : error.context? = some ⟨source, error.token.pos + 1, error.token.text.length⟩ := by
    rw [Error.context?, known]
    rfl
  refine ⟨found, _, context, rfl, column, placed.begins, placed.within, ?_, _,
    context_marks source error.token placed, ?_⟩
  · rw [column]
    exact placed.slice
  · rw [Error.message, context, String.intercalate_cons_cons]
    exact congrArg (error.short ++ "\n" ++ ·) (context_lines ⟨source, error.token.pos + 1, error.token.text.length⟩)

-- A word is marked from its first character to its last, an operand that is missing behind the last blank.
theorem error_marks_word_and_end :
    (∃ error, parse "1 + fish" = .error (.rejected error) ∧ error.token = ⟨.malformed, "fish", 4⟩ ∧
      ∃ marker, Marks "1 + fish" error.token marker ∧
        error.message = "\n".intercalate [error.short, "column 5", "  1 + fish", "  " ++ marker]) ∧
    ∃ error, parse "2 * " = .error (.rejected error) ∧ error.token = ⟨.eof, "", 4⟩ ∧
      ∃ marker, Marks "2 * " error.token marker ∧
        error.message = "\n".intercalate [error.short, "column 5", "  2 * ", "  " ++ marker] := by
  have word : Token.scan "1 + fish" = [⟨.integer, "1", 0⟩, ⟨.operator, "+", 2⟩, ⟨.malformed, "fish", 4⟩] ++
      [⟨.eof, "", 8⟩] := by decide +kernel
  have ending : Token.scan "2 * " = [⟨.integer, "2", 0⟩, ⟨.operator, "*", 2⟩] ++ [⟨.eof, "", 4⟩] := by
    decide +kernel
  have wordFailed := parse_tokens_rejected [⟨.integer, "1", 0⟩, ⟨.operator, "+", 2⟩, ⟨.malformed, "fish", 4⟩]
    [⟨.malformed, "fish", 4⟩] ⟨.eof, "", 8⟩ (some "1 + fish") .invalidToken rfl (by decide +kernel)
  have endFailed := parse_tokens_rejected [⟨.integer, "2", 0⟩, ⟨.operator, "*", 2⟩] [] ⟨.eof, "", 4⟩
    (some "2 * ") .noExpression rfl (by decide +kernel)
  rw [← word] at wordFailed
  rw [← ending] at endFailed
  obtain ⟨_, _, wordContext, _, _, _, _, _, wordMarked⟩ := error_marks_token "1 + fish" _ wordFailed
  obtain ⟨_, _, endContext, _, _, _, _, _, endMarked⟩ := error_marks_token "2 * " _ endFailed
  cases wordContext
  cases endContext
  exact ⟨⟨_, wordFailed, rfl, wordMarked⟩, _, endFailed, rfl, endMarked⟩

end Parse

end Reckon
