import Reckon.Proofs.RoundTrip

set_option autoImplicit false

namespace Reckon

namespace Token

def moved (offset : Nat) (token : Token) : Token := ⟨token.kind, token.text, token.pos + offset⟩

theorem scan_moved (pos offset : Nat) (text : List Char) :
    scanFrom (pos + offset) text = (scanFrom pos text).map (moved offset) := by
  fun_induction scanFrom pos text with
  | case1 pos =>
      rw [scanFrom.eq_def]
      simp [moved]
  | case2 pos c rest blank ih =>
      rw [scan_blank _ c rest blank, ← ih, Nat.add_right_comm]
  | case3 pos c rest blank next ih =>
      rw [scan_cons, if_neg blank, List.map_cons, ← ih, Nat.add_right_comm]
      simp [moved, next]

-- An operator is a token of its own where it separates two texts, and a blank leaves none.
def separatorTokens (pos : Nat) (c : Char) : List Token :=
  if c ∈ operatorChars then [⟨.operator, String.singleton c, pos⟩] else []

theorem scan_separator (pos : Nat) (c : Char) (rest : List Char) (separator : isSeparator c) :
    scanFrom pos (c :: rest) = separatorTokens pos c ++ scanFrom (pos + 1) rest := by
  by_cases operator : isOperatorChar c
  · rw [scan_operator pos c rest operator, separatorTokens, if_pos (List.contains_iff_mem.mp operator),
      String.singleton_eq_ofList]
    rfl
  · have blank : Text.isBlank c := by simpa [isSeparator, operator] using separator
    have absent : c ∉ operatorChars := fun member => operator (List.contains_iff_mem.mpr member)
    rw [scan_blank pos c rest blank, separatorTokens, if_neg absent]
    rfl

-- Nothing that stands before a separator has a say in what is scanned after it.
theorem scan_splits_at_separator (before after : String) (c : Char)
    (separator : Text.isBlank c ∨ c ∈ operatorChars) :
    ∃ tokens, scan before = tokens ++ [⟨.eof, "", before.length⟩] ∧
      scan (before ++ String.singleton c ++ after) =
        tokens ++ separatorTokens before.length c ++ (scan after).map (moved (before.length + 1)) := by
  have separates : isSeparator c := by
    rw [isSeparator, Bool.or_eq_true]
    exact separator.imp_right List.contains_iff_mem.mpr
  have bounded : Bounded (c :: after.toList) := by
    intro next first
    cases first
    exact separates
  have marked := scan_end_mark 0 before.toList
  have front := scanned_self 0 before.toList _ bounded
  have onwards := scan_moved 0 (before.length + 1) after.toList
  rw [Nat.zero_add] at marked front onwards
  rw [String.length_toList] at marked front
  refine ⟨(scan before).dropLast, marked, ?_⟩
  calc scan (before ++ String.singleton c ++ after)
      = scanFrom 0 (before.toList ++ c :: after.toList) := by simp [scan]
    _ = (scan before).dropLast ++ scanFrom before.length (c :: after.toList) := front
    _ = (scan before).dropLast ++ separatorTokens before.length c ++ (scan after).map (moved (before.length + 1)) := by
        rw [scan_separator _ c _ separates, onwards, List.append_assoc]
        rfl

-- With anything but a separator in between, the digits behind it would be part of the malformed number.
theorem scan_splits_malformed_number :
    '-' ∈ operatorChars ∧ scan "1.-25" = [⟨.malformed, "1.", 0⟩, ⟨.operator, "-", 2⟩, ⟨.integer, "25", 3⟩,
      ⟨.eof, "", 5⟩] := by
  have member : '-' ∈ operatorChars := by decide
  obtain ⟨tokens, front, whole⟩ := scan_splits_at_separator "1." "25" '-' (.inr member)
  have malformed : scan "1." = [⟨.malformed, "1.", 0⟩] ++ [⟨.eof, "", 2⟩] := by decide +kernel
  have number : scan "25" = [⟨.integer, "25", 0⟩, ⟨.eof, "", 2⟩] := by decide +kernel
  have same : tokens = [⟨.malformed, "1.", 0⟩] := (List.append_inj_left' (front.symm.trans malformed) rfl)
  rw [same, number] at whole
  exact ⟨member, whole⟩

-- What the grammar sees of a token.
def face (token : Token) : Kind × String := (token.kind, token.text)

theorem moved_faces (offset : Nat) (tokens : List Token) :
    (tokens.map (moved offset)).map face = tokens.map face := by
  rw [List.map_map]
  rfl

theorem face_literal (token other : Token) (same : other.face = token.face) :
    other.isLiteral = token.isLiteral := by
  have kind := congrArg Prod.fst same
  simp only [face] at kind
  rw [isLiteral, isLiteral, kind]

theorem face_operator (token other : Token) (spelling : String) (same : other.face = token.face) :
    other.isOperator spelling = token.isOperator spelling := by
  have kind := congrArg Prod.fst same
  have text := congrArg Prod.snd same
  simp only [face] at kind text
  rw [isOperator, isOperator, kind, text]

end Token

namespace Parse

open Token (face face_literal face_operator moved)

theorem derives_faces (category : Category) (tokens others : List Token) (tree : Expr) (nesting : Nat)
    (derived : Derives category tokens tree nesting) (same : others.map face = tokens.map face) :
    Derives category others tree nesting := by
  induction derived generalizing others with
  | @literal token value isLiteral reads =>
      obtain ⟨other, rfl, alike⟩ := List.map_eq_singleton_iff.mp same
      have text : other.text = token.text := congrArg Prod.snd alike
      rw [← face_literal token other alike] at isLiteral
      exact .literal isLiteral (by rw [text, reads])
  | @group opening closing tokens tree nesting opens closes _ ih =>
      rw [List.map_cons, List.map_append, List.map_singleton] at same
      obtain ⟨first, rest, rfl, firstAlike, same⟩ := List.map_eq_cons_iff.mp same
      obtain ⟨inner, last, rfl, innerAlike, same⟩ := List.map_eq_append_iff.mp same
      obtain ⟨closer, rfl, lastAlike⟩ := List.map_eq_singleton_iff.mp same
      rw [← face_operator opening first "(" firstAlike] at opens
      rw [← face_operator closing closer ")" lastAlike] at closes
      exact .group opens closes (ih inner innerAlike)
  | unsigned _ ih => exact .unsigned (ih others same)
  | @signed token sign tokens tree nesting spelled _ ih =>
      obtain ⟨first, rest, rfl, firstAlike, same⟩ := List.map_eq_cons_iff.mp same
      rw [← face_operator token first sign.symbol firstAlike] at spelled
      exact .signed spelled (ih rest same)
  | first _ ih => exact .first (ih others same)
  | @more level op token before after left right m n member spelled _ _ ihChained ihLast =>
      rw [List.map_append, List.map_cons] at same
      obtain ⟨front, back, rfl, frontAlike, same⟩ := List.map_eq_append_iff.mp same
      obtain ⟨middle, rest, rfl, middleAlike, same⟩ := List.map_eq_cons_iff.mp same
      rw [← face_operator token middle op.symbol middleAlike] at spelled
      exact .more member spelled (ihChained front frontAlike) (ihLast rest same)

-- A source stands for its tree at every place of a longer text.
theorem renders_source (source : String) (tree : Expr) (nesting : Nat) :
    Renders (.chain .additive) source.toList tree nesting ↔
      Derives (.chain .additive) (Token.scan source).dropLast tree nesting := by
  constructor
  · intro renders
    obtain ⟨tokens, scanned, derived⟩ := renders 0
    rw [scan_scanned source tokens scanned, List.dropLast_concat]
    exact derived
  · intro derived pos
    refine ⟨_, Token.scanned_self pos source.toList, derives_faces _ _ _ tree nesting derived ?_⟩
    have along := Token.scan_moved 0 pos source.toList
    rw [Nat.zero_add] at along
    rw [along, ← List.map_dropLast, Token.moved_faces]
    rfl

end Parse

end Reckon
