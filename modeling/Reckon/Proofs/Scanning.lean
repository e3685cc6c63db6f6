import Reckon.Proofs.Lexemes

set_option autoImplicit false

namespace Reckon.Token

-- A piece may be followed by anything that no token runs into.
def Scanned (pos : Nat) (text : List Char) (tokens : List Token) : Prop :=
  ∀ rest, Bounded rest → scanFrom pos (text ++ rest) = tokens ++ scanFrom (pos + text.length) rest

theorem scan_cons (pos : Nat) (c : Char) (rest : List Char) :
    scanFrom pos (c :: rest) =
      if Text.isBlank c then scanFrom (pos + 1) rest
      else ⟨(lexeme c rest).kind, String.ofList (lexeme c rest).text, pos⟩ ::
        scanFrom (pos + (lexeme c rest).text.length) (lexeme c rest).rest := by
  rw [scanFrom.eq_def]

theorem scan_operator (pos : Nat) (c : Char) (rest : List Char) (operator : isOperatorChar c) :
    scanFrom pos (c :: rest) = ⟨.operator, String.ofList [c], pos⟩ :: scanFrom (pos + 1) rest := by
  obtain ⟨notBlank, notDigit⟩ := operator_char_plain c operator
  rw [scan_cons]
  simp [notBlank, lexeme, notDigit, operator]

theorem scan_blank (pos : Nat) (c : Char) (rest : List Char) (blank : Text.isBlank c) :
    scanFrom pos (c :: rest) = scanFrom (pos + 1) rest := by
  rw [scan_cons, if_pos blank]

theorem scanned_operator (pos : Nat) (c : Char) (text : List Char) (tokens : List Token)
    (operator : isOperatorChar c) (scanned : Scanned (pos + 1) text tokens) :
    Scanned pos (c :: text) (⟨.operator, String.ofList [c], pos⟩ :: tokens) := by
  intro rest bounded
  rw [List.cons_append, scan_operator pos c _ operator, scanned rest bounded, List.length_cons,
    Nat.add_right_comm pos 1, Nat.add_assoc]
  rfl

theorem scanned_blank (pos : Nat) (c : Char) (text : List Char) (tokens : List Token)
    (blank : Text.isBlank c) (scanned : Scanned (pos + 1) text tokens) :
    Scanned pos (c :: text) tokens := by
  intro rest bounded
  rw [List.cons_append, scan_blank pos c _ blank, scanned rest bounded, List.length_cons,
    Nat.add_right_comm pos 1, Nat.add_assoc]

theorem scanned_append (pos : Nat) (c : Char) (left right : List Char) (leftTokens rightTokens : List Token)
    (separator : isSeparator c) (leftScanned : Scanned pos left leftTokens)
    (rightScanned : Scanned (pos + left.length) (c :: right) rightTokens) :
    Scanned pos (left ++ c :: right) (leftTokens ++ rightTokens) := by
  intro rest bounded
  have joint : Bounded (c :: right ++ rest) := by
    intro next first
    cases first
    exact separator
  rw [List.append_assoc, leftScanned _ joint, rightScanned rest bounded, List.append_assoc,
    List.length_append, Nat.add_assoc]

theorem scanned_empty (pos : Nat) : Scanned pos [] [] := fun _ _ => rfl

theorem scan_shaped (pos : Nat) (kind : Kind) (c : Char) (tail after : List Char)
    (shaped : Shaped kind (c :: tail)) (ended : Ended kind after.head?) :
    scanFrom pos (c :: tail ++ after) =
      ⟨kind, String.ofList (c :: tail), pos⟩ :: scanFrom (pos + (c :: tail).length) after := by
  rw [List.cons_append, scan_cons, shaped_first kind c tail shaped, if_neg Bool.false_ne_true,
    lexeme_unique kind c tail after shaped ended]

theorem scanned_shaped (pos : Nat) (kind : Kind) (c : Char) (tail : List Char)
    (shaped : Shaped kind (c :: tail)) :
    Scanned pos (c :: tail) [⟨kind, String.ofList (c :: tail), pos⟩] := by
  intro rest bounded
  exact scan_shaped pos kind c tail rest shaped (bounded_ended kind rest bounded)

theorem scanned_number (pos : Nat) (kind : Kind) (chars : List Char) (d : Decimal)
    (number : NumberText kind chars d) : Scanned pos chars [⟨kind, String.ofList chars, pos⟩] := by
  obtain ⟨c, tail, rfl, _⟩ := number_text_head kind chars d number
  exact scanned_shaped pos kind c tail (.number number)

-- A malformed token goes on up to a separator.
theorem scanned_malformed (pos : Nat) (c : Char) (tail : List Char) (notDigit : c.isDigit = false)
    (inside : (c :: tail).all (!isSeparator ·)) :
    Scanned pos (c :: tail) [⟨.malformed, String.ofList (c :: tail), pos⟩] := by
  refine scanned_shaped pos .malformed c tail (.malformed (fun next member => ?_) (fun kind d number => ?_))
  · simpa using List.all_eq_true.mp inside next member
  · rw [(number_run kind c tail d number).1] at notDigit
    cases notDigit

theorem scan_end_mark (pos : Nat) (text : List Char) :
    scanFrom pos text = (scanFrom pos text).dropLast ++ [⟨.eof, "", (pos + text.length : Nat)⟩] := by
  fun_induction scanFrom pos text with
  | case1 pos => rfl
  | case2 pos c rest blank ih =>
      rw [Nat.add_right_comm, Nat.add_assoc] at ih
      exact ih
  | case3 pos c rest blank next ih =>
      rw [lexeme_length pos c rest] at ih
      rw [ih, ← List.cons_append, List.dropLast_concat]

-- A whole text is a piece, which its tokens before the end mark make up.
theorem scanned_self (pos : Nat) (text : List Char) : Scanned pos text (scanFrom pos text).dropLast := by
  intro after bounded
  fun_induction scanFrom pos text with
  | case1 pos => rfl
  | case2 pos c rest blank ih =>
      rw [List.cons_append, scan_blank pos c _ blank, ih, List.length_cons, Nat.add_right_comm pos 1,
        Nat.add_assoc]
  | case3 pos c rest blank next ih =>
      have plain : Text.isBlank c = false := Bool.eq_false_iff.mpr blank
      rw [scan_end_mark (pos + next.text.length) next.rest, ← List.cons_append, List.dropLast_concat,
        List.cons_append, scan_cons, plain, if_neg Bool.false_ne_true,
        lexeme_bounded c rest after plain bounded, ← lexeme_length pos c rest]
      exact congrArg (List.cons _) ih

-- Scanning makes a literal of nothing but a number text.
theorem scan_literal (pos : Nat) (text : List Char) (token : Token) (member : token ∈ scanFrom pos text)
    (literal : token.isLiteral) : ∃ d, NumberText token.kind token.text.toList d := by
  fun_induction scanFrom pos text with
  | case1 pos =>
      rw [List.mem_singleton] at member
      rw [member] at literal
      cases literal
  | case2 pos c rest blank ih => exact ih member
  | case3 pos c rest blank next ih =>
      rcases List.mem_cons.mp member with first | later
      · subst first
        rw [String.toList_ofList]
        exact shaped_literal _ _ _ pos (lexeme_lawful c rest (Bool.eq_false_iff.mpr blank)).1 literal
      · exact ih later

theorem scan_number (source : String) (token : Token) (member : token ∈ scan source)
    (literal : token.isLiteral) :
    ∃ d, NumberText token.kind token.text.toList d ∧
      Numeral.read? token.text = some (d.toBinary64 false) := by
  obtain ⟨d, number⟩ := scan_literal 0 _ token member literal
  have reads := read_number_text _ _ d number
  rw [String.ofList_toList] at reads
  exact ⟨d, number, reads⟩

end Reckon.Token
