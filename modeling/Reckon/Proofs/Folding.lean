import Reckon.Console.Layout

set_option autoImplicit false

namespace Reckon.Console

-- A character of one cell that the layout neither drops, nor replaces, nor breaks a line at.
def isVisible (c : Char) : Bool := 0x21 ≤ c.toNat && c.toNat < 0x7F && c != ':'

-- The lines that a text is cut into, all of them full up to the last.
inductive Folded (width : Nat) : List Char → List (List Char) → Prop where
  | last {text : List Char} (fits : text.length ≤ width) : Folded width text [text]
  | more {line rest : List Char} {lines : List (List Char)} (full : line.length = width) (goesOn : rest ≠ [])
      (folded : Folded width rest lines) : Folded width (line ++ rest) (line :: lines)

theorem visible_code (c : Char) (visible : isVisible c) : 0x21 ≤ c.toNat ∧ c.toNat < 0x7F ∧ c ≠ ':' := by
  simpa [isVisible, and_assoc] using visible

theorem visible_differs (c other : Char) (visible : isVisible c) (hidden : isVisible other = false) : c ≠ other := by
  rintro rfl
  rw [visible] at hidden
  cases hidden

theorem visible_shown (c : Char) (visible : isVisible c) : isDropped c = false := by
  obtain ⟨low, _, _⟩ := visible_code c visible
  simp only [isDropped, Bool.or_eq_false_iff, beq_eq_false_iff_ne]
  omega

theorem visible_not_blank (c : Char) (visible : isVisible c) : Text.isBlank c = false := by
  obtain ⟨low, high, _⟩ := visible_code c visible
  simp only [Text.isBlank, Text.isSpace, Bool.or_eq_false_iff, Bool.and_eq_false_iff, decide_eq_false_iff_not,
    beq_eq_false_iff_ne]
  omega

theorem visible_width (c : Char) (visible : isVisible c) : Text.charWidth c = 1 := by
  obtain ⟨low, high, _⟩ := visible_code c visible
  have ascii : (0x20 ≤ c.toNat && c.toNat < 0x7F) = true := by
    simp only [Bool.and_eq_true, decide_eq_true_eq]
    omega
  rw [Text.charWidth, if_pos ascii]

section Word

variable (word : List Char) (visible : ∀ c ∈ word, isVisible c)
include visible

theorem word_no_codes (fuel : Nat) (done : List Char) : replaceCodes fuel word done = done.reverse ++ word := by
  induction word generalizing fuel done with
  | nil => cases fuel <;> simp [replaceCodes]
  | cons c rest ih =>
      have noColon := visible_differs c ':' (visible c List.mem_cons_self) rfl
      cases fuel with
      | zero => rfl
      | succ fuel =>
          rw [replaceCodes, if_neg noColon, ih (fun d member => visible d (List.mem_cons_of_mem c member))]
          simp

theorem word_kept : (showPictographs word).filter (fun c => !isDropped c) = word := by
  rw [showPictographs, word_no_codes word visible, List.reverse_nil, List.nil_append, List.filter_eq_self]
  intro c member
  rw [visible_shown c (visible c member)]
  rfl

theorem word_no_tabs (column : Nat) (part done : List Char) :
    expandTabs.go word column part done = (part ++ done).reverse ++ word := by
  induction word generalizing part with
  | nil => simp [expandTabs.go]
  | cons c rest ih =>
      have noTab := visible_differs c '\t' (visible c List.mem_cons_self) rfl
      rw [expandTabs.go, if_neg noTab, ih (fun d member => visible d (List.mem_cons_of_mem c member))]
      simp

theorem word_one_line (current : List Char) (done : List (List Char)) :
    lines.go word current done = ((current.reverse ++ word) :: done).reverse := by
  induction word generalizing current with
  | nil => simp [lines.go]
  | cons c rest ih =>
      have noNewline := visible_differs c '\n' (visible c List.mem_cons_self) rfl
      rw [lines.go, if_neg noNewline, ih (fun d member => visible d (List.mem_cons_of_mem c member))]
      simp

theorem word_goes_on (current : List Char) (done : List (List Char))
    (unended : (current.head?.map Text.isBlank).getD false = false) :
    words.go word current true done = ((current.reverse ++ word) :: done).reverse := by
  induction word generalizing current with
  | nil => simp [words.go]
  | cons c rest ih =>
      have noBlank := visible_not_blank c (visible c List.mem_cons_self)
      rw [words.go, unended, Bool.and_false, noBlank, if_neg Bool.false_ne_true, if_neg Bool.false_ne_true,
        ih (fun d member => visible d (List.mem_cons_of_mem c member)) (c :: current) noBlank]
      simp

theorem word_one_word (nonempty : word ≠ []) : words word = [word] := by
  obtain ⟨c, rest, rfl⟩ := List.exists_cons_of_ne_nil nonempty
  have noBlank := visible_not_blank c (visible c List.mem_cons_self)
  rw [words, words.go, Bool.false_and, noBlank, if_neg Bool.false_ne_true, if_neg Bool.false_ne_true,
    word_goes_on rest (fun d member => visible d (List.mem_cons_of_mem c member)) [c] [] noBlank]
  rfl

theorem word_cells (cells : Text.Cells) (unjoined : cells.joined = false) :
    (word.foldl Text.Cells.add cells).count = cells.count + word.length := by
  induction word generalizing cells with
  | nil => rfl
  | cons c rest ih =>
      have shown := visible c List.mem_cons_self
      have added : cells.add c = { cells with count := cells.count + 1, last := some c } := by
        simp [Text.Cells.add, unjoined, visible_differs c Text.joiner shown rfl,
          visible_differs c Text.pictographSelector shown rfl, visible_width c shown]
      rw [List.foldl_cons, added, ih (fun d member => visible d (List.mem_cons_of_mem c member))
        ⟨cells.count + 1, some c, cells.joined⟩ unjoined, List.length_cons]
      exact Nat.add_right_comm _ _ _

theorem word_width : Text.width word = word.length := by
  rw [Text.width, word_cells word visible {} rfl]
  exact Nat.zero_add _

theorem word_no_blanks :
    word.reverse.takeWhile Text.isBlank = [] ∧ word.reverse.dropWhile Text.isBlank = word.reverse := by
  cases reversed : word.reverse with
  | nil => exact ⟨rfl, rfl⟩
  | cons c rest =>
      have member : c ∈ word := by
        rw [← List.mem_reverse, reversed]
        exact List.mem_cons_self
      simp [visible_not_blank c (visible c member)]

theorem word_trimmed : trimEnd word = word := by
  rw [trimEnd, (word_no_blanks word visible).2, List.reverse_reverse]

theorem word_excess (width : Nat) : dropExcessBlanks width word = word := by
  rw [dropExcessBlanks, (word_no_blanks word visible).1, List.length_nil, Nat.zero_min, Nat.sub_zero,
    List.take_length]

theorem word_cropped (width : Nat) (fits : word.length ≤ width) : crop width word = word := by
  rw [crop, word_width word visible, if_pos fits]

end Word

theorem folded_flatten (width : Nat) (text : List Char) (lines : List (List Char)) (folded : Folded width text lines) :
    lines.flatten = text := by
  induction folded with
  | last => simp
  | more full goesOn folded ih => rw [List.flatten_cons, ih]

theorem folded_fits (width : Nat) (text : List Char) (lines : List (List Char)) (folded : Folded width text lines) :
    ∀ line ∈ lines, line.length ≤ width := by
  induction folded with
  | last fits => simpa using fits
  | more full goesOn folded ih => exact List.forall_mem_cons.mpr ⟨Nat.le_of_eq full, ih⟩

-- By the characters: the line that is being filled never gets wider than the console.
theorem fold_folded (width : Nat) (positive : 0 < width) (rest current : List Char) (done : List (List Char))
    (visible : ∀ c ∈ rest, isVisible c) (fits : current.length ≤ width) :
    ∃ lines, Folded width (current.reverse ++ rest) lines ∧
      fold.go width rest current current.length done = done.reverse ++ lines := by
  induction rest generalizing current done with
  | nil => exact ⟨[current.reverse], by simpa using .last (by simpa using fits), by simp [fold.go]⟩
  | cons c rest ih =>
      have others := fun d member => visible d (List.mem_cons_of_mem c member)
      rw [fold.go, visible_width c (visible c List.mem_cons_self)]
      by_cases room : current.length + 1 ≤ width
      · obtain ⟨lines, folded, same⟩ := ih (c :: current) done others room
        rw [List.reverse_cons, List.append_assoc] at folded
        exact ⟨lines, folded, by rw [if_pos room]; exact same⟩
      · obtain ⟨lines, folded, same⟩ := ih [c] (current.reverse :: done) others positive
        have full : current.reverse.length = width := by
          rw [List.length_reverse]
          omega
        refine ⟨current.reverse :: lines, .more full (by simp) folded, ?_⟩
        rw [if_neg room]
        refine same.trans ?_
        rw [List.reverse_cons, List.append_assoc]
        rfl

-- Where the pieces after the first begin.
def starts (pos : Nat) : List (List Char) → List Nat
  | [] => []
  | piece :: pieces => pos :: starts (pos + piece.length) pieces

theorem place_pieces (pieces : List (List Char)) (filling : Filling) (placed : filling.placed ≠ 0) :
    (pieces.foldl placePiece filling).breaks = (starts filling.placed pieces).reverse ++ filling.breaks := by
  induction pieces generalizing filling with
  | nil => rfl
  | cons piece pieces ih =>
      have next : (placePiece filling piece).placed ≠ 0 := fun zero => placed (Nat.eq_zero_of_add_eq_zero_right zero)
      have broken : (placePiece filling piece).breaks = filling.placed :: filling.breaks := by
        rw [placePiece, Filling.breakAt, if_neg placed]
      rw [List.foldl_cons, ih _ next, broken, starts, List.reverse_cons, List.append_assoc]
      rfl

theorem cut_pieces (start : Nat) (piece : List Char) (pieces : List (List Char)) :
    cutAt start (starts (start + piece.length) pieces) (piece ++ pieces.flatten) = piece :: pieces := by
  induction pieces generalizing start piece with
  | nil => simp [starts, cutAt]
  | cons next pieces ih =>
      have length : start + piece.length - start = piece.length := Nat.add_sub_cancel_left _ _
      rw [starts, cutAt, length, List.take_left, List.drop_left, List.flatten_cons, ih]

theorem folded_wide (width : Nat) (text : List Char) (lines : List (List Char)) (folded : Folded width text lines)
    (wide : ¬ text.length ≤ width) :
    ∃ line rest others, text = line ++ rest ∧ lines = line :: others ∧ line.length = width ∧ rest ≠ [] ∧
      Folded width rest others := by
  cases folded with
  | last fits => exact absurd fits wide
  | more full goesOn further => exact ⟨_, _, _, rfl, rfl, full, goesOn, further⟩

theorem word_breaks (width : Nat) (positive : 0 < width) (word : List Char) (nonempty : word ≠ [])
    (visible : ∀ c ∈ word, isVisible c) : Folded width word (cutAt 0 (breaks width word) word) := by
  rw [breaks, word_one_word word visible nonempty, List.foldl_cons, List.foldl_nil, placeWord,
    word_trimmed word visible, word_width word visible, Nat.zero_add]
  by_cases fits : word.length ≤ width
  · rw [if_pos fits]
    exact .last fits
  · obtain ⟨lines, folded, same⟩ := fold_folded width positive word [] [] visible (Nat.zero_le _)
    have pieces : fold width word = lines := same
    obtain ⟨line, rest, others, split, begins, full, goesOn, further⟩ := folded_wide width word lines folded fits
    have placed : (placePiece {} line).placed = line.length := Nat.zero_add _
    have cut := cut_pieces 0 line others
    rw [folded_flatten width rest others further, Nat.zero_add, ← split] at cut
    rw [if_neg fits, if_pos (Nat.lt_of_not_le fits), pieces, begins, List.foldl_cons,
      place_pieces others _ (by omega), placed, List.reverse_append, List.reverse_reverse]
    change Folded width word (cutAt 0 (starts line.length others) word)
    rw [cut, ← begins]
    exact folded

-- Neither blanks nor a crop take anything from the lines of a folded word.
theorem wrap_word (width : Nat) (positive : 0 < width) (word : List Char) (nonempty : word ≠ [])
    (visible : ∀ c ∈ word, isVisible c) : Folded width word (wrapLine width word) := by
  have expanded : expandTabs word = word := word_no_tabs word visible 0 [] []
  have folded := word_breaks width positive word nonempty visible
  have kept : ∀ line ∈ cutAt 0 (breaks width word) word, crop width (dropExcessBlanks width line) = id line := by
    intro line member
    have shown : ∀ c ∈ line, isVisible c := by
      intro c inside
      apply visible c
      rw [← folded_flatten width word _ folded]
      exact List.mem_flatten_of_mem member inside
    rw [word_excess line shown, word_cropped line shown width (folded_fits width word _ folded line member)]
    rfl
  rw [wrapLine, expanded, List.map_congr_left kept, List.map_id]
  exact folded

theorem print_word (width : Nat) (positive : 0 < width) (word : String) (nonempty : word ≠ "")
    (visible : ∀ c ∈ word.toList, isVisible c) :
    ∃ lines, Folded width word.toList lines ∧
      print width word = "\n".intercalate (lines.map String.ofList) ++ "\n" := by
  have chars : word.toList ≠ [] := fun empty => nonempty (String.toList_eq_nil_iff.mp empty)
  have single : lines word.toList = [word.toList] := word_one_line word.toList visible [] []
  refine ⟨_, wrap_word width positive word.toList chars visible, ?_⟩
  rw [print, layout, word_kept word.toList visible, single, List.flatMap_singleton]

theorem folded_narrow (width : Nat) (text : List Char) (lines : List (List Char)) (folded : Folded width text lines)
    (fits : text.length ≤ width) : lines = [text] := by
  cases folded with
  | last => rfl
  | more full goesOn further =>
      have longer := List.length_pos_iff.mpr goesOn
      rw [List.length_append] at fits
      omega

theorem folded_begins (width : Nat) (positive : 0 < width) (text : List Char) (lines : List (List Char))
    (folded : Folded width text lines) (nonempty : text ≠ []) :
    ∃ c line more, lines = (c :: line) :: more ∧ c ∈ text := by
  cases folded with
  | last =>
      obtain ⟨c, line, rfl⟩ := List.exists_cons_of_ne_nil nonempty
      exact ⟨c, line, [], rfl, List.mem_cons_self⟩
  | @more first rest others full goesOn further =>
      obtain ⟨c, line, rfl⟩ := List.exists_cons_of_length_pos (full ▸ positive)
      exact ⟨c, line, others, rfl, List.mem_cons_self⟩

theorem joined_begins (line : String) (lines : List String) :
    ∃ tail, ("\n".intercalate (line :: lines)).toList = line.toList ++ tail := by
  cases lines with
  | nil => exact ⟨[], by simp⟩
  | cons next lines => exact ⟨_, by rw [String.intercalate_cons_cons, String.append_assoc, String.toList_append]⟩

-- A wide text has a new line between two of its characters.
theorem folded_broken (width : Nat) (positive : 0 < width) (text : List Char) (lines : List (List Char))
    (folded : Folded width text lines) (wide : ¬ text.length ≤ width) :
    ∃ front a b tail, ("\n".intercalate (lines.map String.ofList)).toList = front ++ a :: '\n' :: b :: tail ∧
      a ∈ text ∧ b ∈ text := by
  obtain ⟨line, rest, others, rfl, rfl, full, goesOn, further⟩ := folded_wide width text lines folded wide
  obtain ⟨b, next, more, rfl, second⟩ := folded_begins width positive rest others further goesOn
  have nonempty : line ≠ [] := List.ne_nil_of_length_pos (full ▸ positive)
  obtain ⟨front, a, rfl⟩ := (List.eq_nil_or_concat line).resolve_left nonempty
  obtain ⟨tail, begins⟩ := joined_begins (String.ofList (b :: next)) (more.map String.ofList)
  refine ⟨front, a, b, next ++ tail, ?_, by simp, List.mem_append_right _ second⟩
  rw [List.map_cons, List.map_cons, String.intercalate_cons_cons, String.toList_append, String.toList_append, begins]
  simp

end Reckon.Console
