import Reckon.Program.Basic
import Reckon.Proofs.Canonical

set_option autoImplicit false

namespace Reckon

-- The pieces of a text between its line breaks.
def Text.lines (text : String) : List String := (text.toList.splitOn '\n').map String.ofList

theorem Text.lines_intercalate (lines : List String) (nonempty : lines ≠ [])
    (unbroken : ∀ line ∈ lines, '\n' ∉ line.toList) : Text.lines ("\n".intercalate lines) = lines := by
  have pieces : ("\n".intercalate lines).toList.splitOn '\n' = lines.map String.toList := by
    rw [String.toList_intercalate]
    apply List.splitOn_intercalate
    · intro piece member
      obtain ⟨line, listed, rfl⟩ := List.mem_map.mp member
      exact unbroken line listed
    · simpa using nonempty
  rw [Text.lines, pieces, List.map_map]
  simp [Function.comp_def]

theorem format_unbroken (value : Binary64) : '\n' ∉ value.format.toList := by
  cases value with
  | nan => decide +kernel
  | infinite negative => cases negative <;> decide +kernel
  | finite negative rank =>
      obtain ⟨kind, d, number, _⟩ := format_text rank
      have plain : '\n' ∉ (Binary64.finite false rank).format.toList := fun member =>
        absurd (number_text_chars kind _ d number '\n' member) (by decide)
      cases negative with
      | false => exact plain
      | true =>
          rw [format_negative, List.mem_cons, not_or]
          exact ⟨by decide, plain⟩

namespace Instr

theorem name_unbroken (instr : Instr) : '\n' ∉ instr.name.toList := by
  cases instr with
  | push value =>
      change '\n' ∉ "push_const".toList
      decide
  | negate => decide
  | operate op => cases op <;> decide

theorem display_unbroken (instr : Instr) : '\n' ∉ instr.display.toList := by
  cases instr with
  | push value =>
      rw [display, String.toList_append, String.toList_append, List.mem_append, List.mem_append, not_or, not_or]
      exact ⟨⟨name_unbroken (.push value), by decide⟩, format_unbroken value⟩
  | negate => exact name_unbroken .negate
  | operate op => exact name_unbroken (.operate op)

-- Only a push is shown with a word that begins with `p`.
theorem display_first (instr : Instr) : instr.display.toList.head? = some 'p' ↔ ∃ value, instr = .push value := by
  cases instr with
  | push value =>
      refine ⟨fun _ => ⟨value, rfl⟩, fun _ => ?_⟩
      have first : (Instr.push value).name.toList.head? = some 'p' := by
        change "push_const".toList.head? = some 'p'
        decide
      rw [display, String.toList_append, String.toList_append, List.append_assoc, List.head?_append, first]
      rfl
  | negate => simp [display, name]
  | operate op => cases op <;> simp [display, name, operatorName]

theorem operator_name_injective (a b : Operator) (same : operatorName a = operatorName b) : a = b := by
  revert same
  cases a <;> cases b <;> decide

theorem display_injective (a b : Instr) (same : a.display = b.display) : a = b := by
  have first : (∃ value, a = .push value) ↔ ∃ value, b = .push value := by
    rw [← display_first, ← display_first, same]
  cases a with
  | push value =>
      obtain ⟨other, rfl⟩ := first.mp ⟨value, rfl⟩
      have formats : value.format = other.format := by
        have chars := congrArg String.toList same
        simp only [display, name, String.toList_append] at chars
        exact String.toList_inj.mp (List.append_cancel_left chars)
      -- Numbers that are printed alike are read back as one.
      have read := read_format value
      rw [formats, read_format other] at read
      rw [Option.some.inj read]
  | negate =>
      cases b with
      | push value =>
          obtain ⟨_, impossible⟩ := first.mpr ⟨value, rfl⟩
          cases impossible
      | negate => rfl
      | operate op => revert same; cases op <;> decide
  | operate op =>
      cases b with
      | push value =>
          obtain ⟨_, impossible⟩ := first.mpr ⟨value, rfl⟩
          cases impossible
      | negate => revert same; cases op <;> decide
      | operate other => rw [operator_name_injective op other same]

end Instr

namespace Program

theorem listing_line_unbroken (index : Nat) (instr : Instr) : '\n' ∉ (listingLine index instr).toList := by
  have digits : '\n' ∉ index.repr.toList := fun member =>
    absurd (number_text_chars _ _ _ (repr_number index) '\n' member) (by decide)
  have spaces : '\n' ∉ List.replicate (4 - index.repr.length) ' ' := fun member =>
    absurd (List.mem_replicate.mp member).2 (by decide)
  simp only [listingLine, String.toList_append, String.toList_ofList, List.mem_append, not_or]
  exact ⟨⟨⟨spaces, digits⟩, by decide⟩, Instr.display_unbroken instr⟩

theorem listing_line_injective (index : Nat) (a b : Instr) (same : listingLine index a = listingLine index b) :
    a = b := by
  apply Instr.display_injective
  have chars := congrArg String.toList same
  simp only [listingLine, String.toList_append] at chars
  exact String.toList_inj.mp (List.append_cancel_left chars)

theorem listing_line_nonempty (index : Nat) (instr : Instr) : listingLine index instr ≠ "" := by
  intro empty
  have size := congrArg String.length empty
  simp only [listingLine, String.length_append] at size
  have gap : "  ".length = 2 := rfl
  have nothing : "".length = 0 := rfl
  omega

theorem listing_lines_injective (p q : Program) (same : p.listingLines = q.listingLines) : p = q := by
  apply List.ext_getElem?
  intro index
  have line := congrArg (·[index]?) same
  simp only [listingLines, List.getElem?_mapIdx] at line
  exact (Option.map_inj_right (listing_line_injective index)).mp line

theorem lines_listing (p : Program) (nonempty : p ≠ []) : Text.lines p.listing = p.listingLines := by
  apply Text.lines_intercalate
  · simpa [listingLines] using nonempty
  · intro line member
    obtain ⟨index, bound, rfl⟩ := List.mem_mapIdx.mp member
    exact listing_line_unbroken index _

theorem listing_empty_iff (p : Program) : p.listing = "" ↔ p = [] := by
  constructor
  · intro empty
    apply Decidable.byContradiction
    intro nonempty
    -- A text without characters has one line, on which nothing stands.
    have lines := lines_listing p nonempty
    rw [empty] at lines
    cases p with
    | nil => exact nonempty rfl
    | cons first rest =>
        have line : some "" = some (listingLine 0 first) := by
          simpa [Text.lines, listingLines] using congrArg List.head? lines
        exact listing_line_nonempty 0 first (Option.some.inj line).symm
  · rintro rfl
    rfl

theorem listing_injective (p q : Program) (same : p.listing = q.listing) : p = q := by
  by_cases empty : p = []
  · rw [empty, eq_comm, ← listing_empty_iff, ← same]
    exact (listing_empty_iff p).mpr empty
  · have other : q ≠ [] := fun none => empty (by
      rwa [← listing_empty_iff, same, listing_empty_iff])
    apply listing_lines_injective
    rw [← lines_listing p empty, ← lines_listing q other, same]

-- All NaNs are one number, so that equal programs have the same constants bit for bit up to them.
theorem listing_determines_program :
    (∀ p q : Program, p.listing = q.listing → p = q) ∧
    ∀ p : Program, p ≠ [] → (Text.lines p.listing).length = p.length ∧
      ∀ (index : Nat) (instr : Instr), p[index]? = some instr →
        (Text.lines p.listing)[index]? = some (String.ofList (List.replicate (4 - index.repr.length) ' ') ++
          index.repr ++ "  " ++ instr.display) := by
  refine ⟨listing_injective, fun p nonempty => ?_⟩
  rw [lines_listing p nonempty]
  refine ⟨by simp [listingLines], fun index instr found => ?_⟩
  rw [listingLines, List.getElem?_mapIdx, found]
  rfl

end Program

end Reckon
