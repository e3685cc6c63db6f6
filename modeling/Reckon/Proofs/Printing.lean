import Reckon.CommandLine.Run
import Reckon.Proofs.Canonical
import Reckon.Proofs.Folding
import Reckon.Proofs.Integers

set_option autoImplicit false

namespace Reckon

theorem newline_behind (first : Char) (rest : List Char) (broken : '\n' ∈ first :: rest) (other : first ≠ '\n') :
    '\n' ∈ rest := by
  rcases List.mem_cons.mp broken with same | behind
  · exact absurd same.symm other
  · exact behind

namespace Decimal

theorem exponent_broken (text : List Char) (broken : '\n' ∈ text) : exponentOfChars? text = none := by
  fun_cases exponentOfChars? text with
  | case1 => cases broken
  | case2 => rfl
  | case3 => rfl
  | case4 mark rest marked negative digits signed proper =>
      have inRest : '\n' ∈ rest := by
        refine newline_behind mark rest broken (fun same => marked ?_)
        rw [same]
        decide
      have inDigits : '\n' ∈ digits := by
        split at signed
        · cases signed
          exact newline_behind '-' digits inRest (by decide)
        · cases signed
          exact newline_behind '+' digits inRest (by decide)
        · cases signed
          exact inRest
      refine absurd ?_ proper
      rw [List.all_eq_false.mpr ⟨'\n', inDigits, by decide⟩, Bool.not_false, Bool.or_true]

theorem decimal_broken (text : List Char) (broken : '\n' ∈ text) : ofChars? text = none := by
  have behind : ∀ chars : List Char, '\n' ∈ chars → '\n' ∈ chars.dropWhile Char.isDigit := by
    intro chars member
    rw [← List.takeWhile_append_dropWhile (p := Char.isDigit) (l := chars), List.mem_append] at member
    rcases member with digit | inRest
    · have absurdity := List.all_eq_true.mp List.all_takeWhile '\n' digit
      cases absurdity
    · exact inRest
  fun_cases ofChars? text with
  | case1 => rfl
  | case2 whole part rest split =>
      have inRest : '\n' ∈ rest := by
        have dropped := behind text broken
        split at split
        · rename_i more begins
          cases split
          rw [begins] at dropped
          exact behind more (newline_behind '.' more dropped (by decide))
        · cases split
          exact dropped
      rw [exponent_broken rest inRest]
      rfl

end Decimal

namespace Numeral

theorem unsigned_broken (negative : Bool) (text : List Char) (broken : '\n' ∈ text) :
    unsigned? negative text = none := by
  have lowered : '\n' ∈ text.map Char.toLower := List.mem_map.mpr ⟨'\n', broken, by decide⟩
  have unlike : ∀ letters : List Char, '\n' ∉ letters → text.map Char.toLower ≠ letters :=
    fun letters absent same => absent (same ▸ lowered)
  fun_cases unsigned? negative text with
  | case1 lower infinite =>
      rcases infinite with same | same
      · exact absurd same (unlike _ (by decide))
      · exact absurd same (unlike _ (by decide))
  | case2 lower _ nan => exact absurd nan (unlike _ (by decide))
  | case3 =>
      rw [Decimal.decimal_broken text broken]
      rfl

theorem numeral_broken (text : List Char) (broken : '\n' ∈ text) : ofChars? text = none := by
  fun_cases ofChars? text with
  | case1 digits => exact unsigned_broken true digits (newline_behind '-' digits broken (by decide))
  | case2 digits => exact unsigned_broken false digits (newline_behind '+' digits broken (by decide))
  | case3 => exact unsigned_broken false text broken

theorem join_broken (text joined : List Char) (broken : '\n' ∈ text) (joins : joinDigits? text = some joined) :
    '\n' ∈ joined := by
  fun_induction joinDigits? text generalizing joined with
  | case1 => cases broken
  | case2 => cases joins
  | case3 c d rest plain digits ih =>
      obtain ⟨others, found, rfl⟩ := Option.map_eq_some_iff.mp joins
      rcases List.mem_cons.mp broken with same | behind
      · rw [same]
        exact List.mem_cons_self
      · exact List.mem_cons_of_mem c (ih others (newline_behind '_' _ behind (by decide)) found)
  | case4 => cases joins
  | case5 c rest _ _ ih =>
      obtain ⟨others, found, rfl⟩ := Option.map_eq_some_iff.mp joins
      rcases List.mem_cons.mp broken with same | behind
      · rw [same]
        exact List.mem_cons_self
      · exact List.mem_cons_of_mem c (ih others behind found)

theorem drop_up_to (drop : Char → Bool) (front rest : List Char) (a : Char) (kept : drop a = false) :
    ∃ lead, (front ++ a :: rest).dropWhile drop = lead ++ a :: rest := by
  rw [List.dropWhile_append]
  by_cases gone : (front.dropWhile drop).isEmpty
  · rw [if_pos gone, List.dropWhile_cons, kept, if_neg Bool.false_ne_true]
    exact ⟨[], rfl⟩
  · rw [if_neg gone]
    exact ⟨_, rfl⟩

-- Trimming leaves everything between two characters that stay.
theorem trim_between (drop : Char → Bool) (front middle tail : List Char) (a b : Char) (first : drop a = false)
    (last : drop b = false) :
    ∃ lead trail, Text.trimBy drop (front ++ a :: (middle ++ b :: tail)) = lead ++ a :: (middle ++ b :: trail) := by
  obtain ⟨lead, front⟩ := drop_up_to drop front (middle ++ b :: tail) a first
  obtain ⟨trail, back⟩ := drop_up_to drop tail.reverse (middle.reverse ++ a :: lead.reverse) b last
  refine ⟨lead, trail.reverse, ?_⟩
  have reversed : (lead ++ a :: (middle ++ b :: tail)).reverse =
      tail.reverse ++ b :: (middle.reverse ++ a :: lead.reverse) := by simp
  rw [Text.trimBy, front, reversed, back]
  simp

theorem read_broken (front tail : List Char) (a b : Char) (first : Text.isSpace a = false)
    (last : Text.isSpace b = false) : read? (String.ofList (front ++ a :: '\n' :: b :: tail)) = none := by
  obtain ⟨lead, trail, trimmed⟩ := trim_between Text.isSpace front ['\n'] tail a b first last
  have broken : '\n' ∈ (lead ++ a :: (['\n'] ++ b :: trail)).map asciiDigit :=
    List.mem_map.mpr ⟨'\n', by simp, by decide +kernel⟩
  rw [read?, String.toList_ofList]
  change ((joinDigits? ((Text.trimBy Text.isSpace (front ++ a :: (['\n'] ++ b :: tail))).map asciiDigit)).bind _) = none
  rw [trimmed]
  cases joins : joinDigits? ((lead ++ a :: (['\n'] ++ b :: trail)).map asciiDigit) with
  | none => rfl
  | some joined => exact numeral_broken joined (join_broken _ joined broken joins)

theorem trim_last (drop : Char → Bool) (text : List Char) (c : Char) (dropped : drop c) :
    Text.trimBy drop (text ++ [c]) = Text.trimBy drop text := by
  rw [Text.trimBy, Text.trimBy, List.dropWhile_append]
  by_cases gone : (text.dropWhile drop).isEmpty
  · rw [if_pos gone, List.isEmpty_iff.mp gone, List.dropWhile_cons, if_pos dropped]
    rfl
  · rw [if_neg gone, List.reverse_concat, List.dropWhile_cons, if_pos dropped]

theorem read_line (text : String) : read? (text ++ "\n") = read? text := by
  rw [read?, read?, String.toList_append]
  change ((joinDigits? ((Text.trimBy Text.isSpace (text.toList ++ ['\n'])).map asciiDigit)).bind _) = _
  rw [trim_last Text.isSpace text.toList '\n' (by decide +kernel)]

end Numeral

namespace CommandLine

open Console (Folded isVisible)

theorem number_visible (c : Char) (number : Token.isNumberChar c) : isVisible c := by
  have listed : numberChars.all isVisible := by decide +kernel
  exact List.all_eq_true.mp listed c (number_char_listed c number)

theorem result_visible (negative : Bool) (rank : Fin (2047 * 2 ^ 52)) :
    (Binary64.finite negative rank).format ≠ "" ∧
      ∀ c ∈ (Binary64.finite negative rank).format.toList, isVisible c := by
  obtain ⟨kind, d, number, _⟩ := format_text rank
  have digits := fun c member => number_visible c (number_text_chars kind _ d number c member)
  have nonempty : (Binary64.finite false rank).format ≠ "" := by
    obtain ⟨c, rest, chars, _⟩ := number_text_head kind _ d number
    intro empty
    rw [empty] at chars
    cases chars
  cases negative with
  | false => exact ⟨nonempty, digits⟩
  | true =>
      have signed := format_negative rank
      refine ⟨fun empty => ?_, ?_⟩
      · rw [empty] at signed
        cases signed
      · rw [signed]
        exact List.forall_mem_cons.mpr ⟨by decide, digits⟩

theorem visible_unspaced (c : Char) (visible : isVisible c) : Text.isSpace c = false :=
  (Bool.or_eq_false_iff.mp (Console.visible_not_blank c visible)).1

theorem eval_output (host : Host) (settings : Settings) (expression : String) (value : Binary64)
    (evaluated : evaluate expression = .ok value) :
    ((Command.eval expression).run host settings).output = Console.print host.width value.format := by
  simp [Command.run, evalCommand, evaluated]

-- A result is one word: it stands on one line if it fits the width and is folded if it does not.
theorem eval_prints_by_width (host : Host) (settings : Settings) (expression : String) (value : Binary64)
    (evaluated : evaluate expression = .ok value) (finite : value.isFinite) (positive : 0 < host.width) :
    let output := ((Command.eval expression).run host settings).output
    (∃ lines, Folded host.width value.format.toList lines ∧
      output = "\n".intercalate (lines.map String.ofList) ++ "\n") ∧
    (output = value.format ++ "\n" ↔ value.format.length ≤ host.width) ∧
    (Numeral.read? output = some value ↔ value.format.length ≤ host.width) := by
  intro output
  have shown : output = Console.print host.width value.format :=
    eval_output host settings expression value evaluated
  obtain ⟨nonempty, visible⟩ : value.format ≠ "" ∧ ∀ c ∈ value.format.toList, isVisible c := by
    cases value with
    | finite negative rank => exact result_visible negative rank
    | nan => cases finite
    | infinite => cases finite
  obtain ⟨lines, folded, printed⟩ := Console.print_word host.width positive value.format nonempty visible
  rw [← shown] at printed
  have exactly : value.format.length ≤ host.width → output = value.format ++ "\n" := by
    intro fits
    rw [printed, Console.folded_narrow host.width _ lines folded (by rw [String.length_toList]; exact fits),
      List.map_singleton, String.intercalate_singleton, String.ofList_toList]
  have reads : output = value.format ++ "\n" → Numeral.read? output = some value := by
    intro same
    rw [same, Numeral.read_line, read_format]
  have single : Numeral.read? output = some value → value.format.length ≤ host.width := by
    intro read
    refine Classical.byContradiction (fun wide => ?_)
    obtain ⟨front, a, b, tail, broken, first, second⟩ := Console.folded_broken host.width positive _ lines folded
      (by rw [String.length_toList]; exact wide)
    have chars : output = String.ofList (front ++ a :: '\n' :: b :: (tail ++ ['\n'])) := by
      apply String.toList_inj.mp
      rw [printed, String.toList_append, broken, String.toList_ofList]
      simp
    rw [chars, Numeral.read_broken front _ a b (visible_unspaced a (visible a first))
      (visible_unspaced b (visible b second))] at read
    cases read
  exact ⟨⟨lines, folded, printed⟩, ⟨fun same => single (reads same), exactly⟩, single, fun fits => reads (exactly fits)⟩

-- Thirteen digits on ten columns: the output is not the result, nor does it read as the result.
theorem eval_folds_long_result :
    let host : Host := ⟨[], none, [], 10, ""⟩
    let output := ((Command.eval "1234567890123").run host {}).output
    ∃ value, evaluate "1234567890123" = .ok value ∧ value.isFinite ∧ value.format = "1234567890123" ∧
      output = "1234567890\n123\n" ∧ output ≠ value.format ++ "\n" ∧ Numeral.read? output ≠ some value := by
  intro host output
  let value := Decimal.toBinary64 false ⟨1234567890123, 0⟩
  have number := Parse.renders_number _ _ _ (repr_number 1234567890123)
  have parsed : Parse.parse "1234567890123" = .ok (.literal value) := Parse.parse_renders _ _ _
    (Parse.renders_widen .unary .additive _ _ _ (by decide) number) (by decide)
  have evaluated : evaluate "1234567890123" = .ok value := by
    rw [evaluate_parsed _ _ parsed, Expr.value]
  have finite : value.isFinite := by decide +kernel
  have text : value.format = "1234567890123" := by
    rw [Binary64.format_integer value 1234567890123 (by decide +kernel) (by decide),
      if_neg (fun zero => absurd zero.1 (by decide))]
    decide +kernel
  have printed := eval_output host {} _ value evaluated
  obtain ⟨_, exactly, reads⟩ := eval_prints_by_width host {} _ value evaluated finite (by decide)
  have wide : ¬value.format.length ≤ host.width := by
    rw [text]
    decide
  rw [text] at printed
  exact ⟨value, evaluated, finite, text, printed.trans (by decide +kernel), fun same => wide (exactly.mp same),
    fun read => wide (reads.mp read)⟩

end CommandLine

end Reckon
