import Reckon.Proofs.Notation

set_option autoImplicit false

namespace Reckon.Json

-- No number in the value is NaN or infinite.
inductive Finite : Json → Prop where
  | null : Finite .null
  | bool (value : Bool) : Finite (.bool value)
  | int (value : Int) : Finite (.int value)
  | float (negative : Bool) (rank : Fin (2047 * 2 ^ 52)) : Finite (.float (.finite negative rank))
  | str (text : String) : Finite (.str text)
  | arr {items : List Json} (all : ∀ item ∈ items, Finite item) : Finite (.arr items)
  | obj {members : List (String × Json)} (all : ∀ member ∈ members, Finite member.2) : Finite (.obj members)

section Strings

theorem hex_control (n : Nat) (control : n < 32) :
    Text.hex 4 n = ['0', '0', Nat.digitChar (n / 16), Nat.digitChar (n % 16)] ∧
      hexValue? ['0', '0', Nat.digitChar (n / 16), Nat.digitChar (n % 16)] = some n := by
  have checked : ∀ n, n < 32 → Text.hex 4 n = ['0', '0', Nat.digitChar (n / 16), Nat.digitChar (n % 16)] ∧
      hexValue? ['0', '0', Nat.digitChar (n / 16), Nat.digitChar (n % 16)] = some n := by decide +kernel
  exact checked n control

theorem read_letter (letter c : Char) (rest done : List Char) (notUnit : letter ≠ 'u')
    (found : shortEscapes.lookup letter = some c) :
    readChars? ('\\' :: letter :: rest) done = readChars? rest (c :: done) := by
  rw [readChars?.eq_def]
  simp [notUnit, found]

theorem read_unit (a b c d char : Char) (unit : Nat) (rest done : List Char)
    (value : hexValue? [a, b, c, d] = some unit) (found : unitChar? unit = some char) :
    readChars? ('\\' :: 'u' :: ([a, b, c, d] ++ rest)) done = readChars? rest (char :: done) := by
  simp only [List.cons_append, List.nil_append]
  rw [readChars?]
  simp only [value, found]

theorem read_char (c : Char) (rest done : List Char) (notQuote : c ≠ '"') (notBackslash : c ≠ '\\')
    (shown : ¬ c.toNat < 0x20) : readChars? (c :: rest) done = readChars? rest (c :: done) := by
  rw [readChars?.eq_def]
  simp [notBackslash, shown]

-- One step for each kind of character: escaped by a letter, by its code, or not at all.
theorem read_escaped (c : Char) (rest done : List Char) :
    readChars? (escapeChar c ++ rest) done = readChars? rest (c :: done) := by
  rw [escapeChar]
  split
  · rename_i special
    rcases special with rfl | rfl
    · exact read_letter '"' '"' rest done (by decide) rfl
    · exact read_letter '\\' '\\' rest done (by decide) rfl
  · rename_i plain
    obtain ⟨notQuote, notBackslash⟩ := not_or.mp plain
    split
    · subst c
      exact read_letter 'n' '\n' rest done (by decide) rfl
    split
    · subst c
      exact read_letter 'r' '\r' rest done (by decide) rfl
    split
    · subst c
      exact read_letter 't' '\t' rest done (by decide) rfl
    split
    · subst c
      exact read_letter 'b' '\x08' rest done (by decide) rfl
    split
    · subst c
      exact read_letter 'f' '\x0c' rest done (by decide) rfl
    split
    · rename_i control
      obtain ⟨digits, value⟩ := hex_control c.toNat control
      have found : unitChar? c.toNat = some c := by
        rw [unitChar?, if_neg (by omega), Char.ofNat_toNat]
      rw [digits]
      exact read_unit _ _ _ _ c _ rest done value found
    · rename_i shown
      exact read_char c rest done notQuote notBackslash shown

theorem read_chars (text rest done : List Char) :
    readChars? (text.flatMap escapeChar ++ '"' :: rest) done = some (String.ofList (done.reverse ++ text), rest) := by
  induction text generalizing done with
  | nil =>
      rw [List.flatMap_nil, List.nil_append, readChars?, List.append_nil]
  | cons c text ih =>
      rw [List.flatMap_cons, List.append_assoc, read_escaped, ih, List.reverse_cons, List.append_assoc]
      rfl

theorem read_string (text : String) (rest : List Char) : ∃ chars, (printString text).toList ++ rest = '"' :: chars ∧
    readChars? chars [] = some (text, rest) := by
  refine ⟨text.toList.flatMap escapeChar ++ '"' :: rest, by simp [printString], ?_⟩
  rw [read_chars, List.reverse_nil, List.nil_append, String.ofList_toList]

end Strings

section Blanks

theorem skip_blanks (blanks text : List Char) (blank : ∀ c ∈ blanks, isSpace c) : skip (blanks ++ text) = skip text :=
  List.dropWhile_append_of_pos blank

theorem skip_first (c : Char) (rest : List Char) (first : isSpace c = false) : skip (c :: rest) = c :: rest := by
  rw [skip, List.dropWhile_cons, first, if_neg Bool.false_ne_true]

theorem read_after_blanks (fuel : Nat) (blanks text : List Char) (blank : ∀ c ∈ blanks, isSpace c) :
    readValue fuel (blanks ++ text) = readValue fuel text := by
  cases fuel with
  | zero => rw [readValue, readValue]
  | succ fuel => rw [readValue, readValue, skip_blanks blanks text blank]

theorem break_blank (style : Style) (level : Nat) : ∀ c ∈ (style.break_ level).toList, isSpace c := by
  intro c member
  cases style with
  | compact => cases member
  | indented spaces =>
      rw [Style.break_, String.toList_append, List.mem_append] at member
      rcases member with newline | space
      · rw [List.mem_singleton.mp newline]
        rfl
      · rw [String.toList_ofList] at space
        rw [(List.mem_replicate.mp space).2]
        rfl

end Blanks

section Writing

variable (style : Style)

def chars (level : Nat) (value : Json) : List Char := (write style level value "").toList

def memberChars (level : Nat) (member : String × Json) : List Char :=
  (printString member.1).toList ++ (style.colon.toList ++ chars style level member.2)

-- The entries of a container but for the first one.
def followers (level : Nat) (entries : List (List Char)) : List Char :=
  entries.flatMap fun entry => ',' :: ((style.break_ level).toList ++ entry)

-- The text of a container between its brackets.
def filling (level : Nat) (entry : List Char) (entries : List (List Char)) : List Char :=
  (style.break_ (level + 1)).toList ++ (entry ++ (followers style (level + 1) entries ++ (style.break_ level).toList))

-- Writing a value leaves what was written before it.
def Appends (value : Json) : Prop :=
  ∀ level out, (write style level value out).toList = out.toList ++ chars style level value

variable {style}

theorem items_written (items : List Json) (appends : ∀ item ∈ items, Appends style item) (level : Nat) (out : String) :
    (writeItems style level items out).toList =
      out.toList ++ followers style level (items.map (chars style level)) := by
  induction items generalizing out with
  | nil => rw [writeItems]; simp [followers]
  | cons item items ih =>
      obtain ⟨first, others⟩ := List.forall_mem_cons.mp appends
      rw [writeItems, ih others, first]
      simp [followers]

theorem members_written (members : List (String × Json)) (appends : ∀ member ∈ members, Appends style member.2)
    (level : Nat) (out : String) :
    (writeMembers style level members out).toList =
      out.toList ++ followers style level (members.map (memberChars style level)) := by
  induction members generalizing out with
  | nil => rw [writeMembers]; simp [followers]
  | cons member members ih =>
      obtain ⟨name, item⟩ := member
      obtain ⟨first, others⟩ := List.forall_mem_cons.mp appends
      rw [writeMembers, ih others, first]
      simp [followers, memberChars]

theorem array_written (item : Json) (items : List Json) (appends : ∀ other ∈ item :: items, Appends style other)
    (level : Nat) (out : String) :
    (write style level (.arr (item :: items)) out).toList = out.toList ++
      '[' :: (filling style level (chars style (level + 1) item) (items.map (chars style (level + 1))) ++ [']']) := by
  obtain ⟨first, others⟩ := List.forall_mem_cons.mp appends
  rw [write, String.toList_append, String.toList_append, items_written items others, first]
  simp [filling]

theorem object_written (member : String × Json) (members : List (String × Json))
    (appends : ∀ other ∈ member :: members, Appends style other.2) (level : Nat) (out : String) :
    (write style level (.obj (member :: members)) out).toList = out.toList ++
      '\x7b' :: (filling style level (memberChars style (level + 1) member)
        (members.map (memberChars style (level + 1))) ++ ['\x7d']) := by
  obtain ⟨name, item⟩ := member
  obtain ⟨first, others⟩ := List.forall_mem_cons.mp appends
  rw [write, String.toList_append, String.toList_append, members_written members others, first]
  simp [filling, memberChars]

theorem array_chars (item : Json) (items : List Json) (appends : ∀ other ∈ item :: items, Appends style other)
    (level : Nat) : chars style level (.arr (item :: items)) =
      '[' :: (filling style level (chars style (level + 1) item) (items.map (chars style (level + 1))) ++ [']']) :=
  array_written item items appends level ""

theorem object_chars (member : String × Json) (members : List (String × Json))
    (appends : ∀ other ∈ member :: members, Appends style other.2) (level : Nat) :
    chars style level (.obj (member :: members)) =
      '\x7b' :: (filling style level (memberChars style (level + 1) member)
        (members.map (memberChars style (level + 1))) ++ ['\x7d']) :=
  object_written member members appends level ""

theorem write_appends (value : Json) (finite : Finite value) : Appends style value := by
  induction finite with
  | null => intro level out; simp [chars, write]
  | bool value => intro level out; simp [chars, write]
  | int value => intro level out; simp [chars, write]
  | float negative rank => intro level out; simp [chars, write]
  | str text => intro level out; simp [chars, write]
  | @arr items all ih =>
      intro level out
      cases items with
      | nil => simp [chars, write]
      | cons item items => rw [array_written item items ih, array_chars item items ih]
  | @obj members all ih =>
      intro level out
      cases members with
      | nil => simp [chars, write]
      | cons member members => rw [object_written member members ih, object_chars member members ih]

end Writing

section Reading

-- A number does not go on here.
def Stops (rest : List Char) : Prop := ∀ c ∈ rest.head?, isNumberChar c = false

-- Every level of nesting takes two steps of the reader and two characters at least.
structure Legible (text : List Char) (value : Json) : Prop where
  first : ∃ c more, text = c :: more ∧ isSpace c = false ∧ c ≠ ']'
  reads : ∀ fuel rest, 2 * text.length ≤ fuel → Stops rest → readValue fuel (text ++ rest) = some (value, rest)

theorem blank_stops (blanks rest : List Char) (blank : ∀ c ∈ blanks, isSpace c) (stops : Stops rest) :
    Stops (blanks ++ rest) := by
  cases blanks with
  | nil => exact stops
  | cons c blanks =>
      intro found same
      cases same
      have listed : [' ', '\n', '\t', '\r'].all (fun c => !isNumberChar c) := by decide
      have isBlank : c ∈ [' ', '\n', '\t', '\r'] := by
        simpa [isSpace, or_assoc] using blank c (by simp)
      simpa using List.all_eq_true.mp listed c isBlank

-- A value that begins so is null, a truth value or a number.
def opensScalar (c : Char) : Bool := !isSpace c && c != ']' && c != '"' && c != '[' && c != '\x7b'

theorem scalar_legible (c : Char) (more : List Char) (value : Json) (opens : opensScalar c)
    (reads : ∀ rest, Stops rest → scalar? (c :: (more ++ rest)) = some (value, rest)) : Legible (c :: more) value := by
  simp only [opensScalar, Bool.and_eq_true, Bool.not_eq_true', bne_iff_ne, and_assoc] at opens
  obtain ⟨blank, notClosing, notQuote, notBracket, notBrace⟩ := opens
  refine ⟨⟨c, more, rfl, blank, notClosing⟩, fun fuel rest enough stops => ?_⟩
  rw [List.length_cons] at enough
  obtain ⟨fuel, rfl⟩ : ∃ less, fuel = less + 1 := ⟨fuel - 1, by omega⟩
  rw [List.cons_append, readValue, skip_first c _ blank, ← reads rest stops]
  split
  · rename_i same
    exact absurd (List.cons.inj same).1 notQuote
  · rename_i same
    exact absurd (List.cons.inj same).1 notBracket
  · rename_i same
    exact absurd (List.cons.inj same).1 notBrace
  · rfl

theorem numeral_first (c : Char) (first : c.isDigit ∨ c = '-') : opensScalar c ∧ c ≠ 'n' ∧ c ≠ 't' ∧ c ≠ 'f' := by
  have listed : ('-' :: numberChars.tail).all fun c => opensScalar c && c != 'n' && c != 't' && c != 'f' := by
    decide +kernel
  have member : c ∈ '-' :: numberChars.tail := by
    rcases first with digit | rfl
    · exact List.mem_cons_of_mem _ (digit_listed c digit)
    · exact List.mem_cons_self
  simpa [and_assoc] using List.all_eq_true.mp listed c member

theorem scalar_number (c : Char) (text : List Char) (notN : c ≠ 'n') (notT : c ≠ 't') (notF : c ≠ 'f') :
    scalar? (c :: text) =
      (number? ((c :: text).takeWhile isNumberChar)).map (·, (c :: text).dropWhile isNumberChar) := by
  unfold scalar?
  split
  · rename_i same
    exact absurd (List.cons.inj same).1 notN
  · rename_i same
    exact absurd (List.cons.inj same).1 notT
  · rename_i same
    exact absurd (List.cons.inj same).1 notF
  · rfl

theorem numeral_legible (text : List Char) (value : Json) (numeral : NumeralText text value) : Legible text value := by
  obtain ⟨c, more, rfl, first⟩ := numeral.first
  obtain ⟨opens, notN, notT, notF⟩ := numeral_first c first
  apply scalar_legible c more value opens
  intro rest stops
  obtain ⟨taken, dropped⟩ := take_run isNumberChar (c :: more) rest numeral.chars stops
  rw [List.cons_append] at taken dropped
  rw [scalar_number c _ notN notT notF, taken, dropped, numeral.reads, Option.map_some]

theorem string_legible (text : String) : Legible (printString text).toList (.str text) := by
  obtain ⟨opening, split, _⟩ := read_string text []
  rw [List.append_nil] at split
  refine ⟨⟨'"', opening, split, rfl, by decide⟩, fun fuel rest enough _ => ?_⟩
  rw [split, List.length_cons] at enough
  obtain ⟨fuel, rfl⟩ : ∃ less, fuel = less + 1 := ⟨fuel - 1, by omega⟩
  obtain ⟨chars, begins, reads⟩ := read_string text rest
  rw [begins, readValue, skip_first '"' chars rfl]
  simp only [reads, Option.map_some]

theorem closing_stops (c : Char) (blanks rest : List Char) (blank : ∀ c ∈ blanks, isSpace c)
    (ends : isNumberChar c = false) : Stops (blanks ++ c :: rest) := by
  apply blank_stops blanks _ blank
  intro found same
  cases same
  exact ends

-- One turn of the loop over the entries of a container: either a comma follows, or the end.
structure EntryStep {α : Type} (read : Nat → List Char → List α → Option (Json × List Char)) (text : α → List Char)
    (closing : Char) (make : List α → Json) (entry : α) : Prop where
  next : ∀ fuel blanks more before, (∀ c ∈ blanks, isSpace c) → 2 * (text entry).length ≤ fuel →
    read (fuel + 1) (blanks ++ (text entry ++ ',' :: more)) before = read fuel more (entry :: before)
  last : ∀ fuel blanks trailing rest before, (∀ c ∈ blanks, isSpace c) → (∀ c ∈ trailing, isSpace c) →
    2 * (text entry).length ≤ fuel →
    read (fuel + 1) (blanks ++ (text entry ++ (trailing ++ closing :: rest))) before =
      some (make (before.reverse ++ [entry]), rest)

variable {style : Style}

theorem item_step (level : Nat) (item : Json) (legible : Legible (chars style level item) item) :
    EntryStep readItems (chars style level) ']' .arr item := by
  refine ⟨fun fuel blanks more before blank enough => ?_,
    fun fuel blanks trailing rest before blank trailingBlank enough => ?_⟩
  · have stops : Stops (',' :: more) := closing_stops ',' [] more (by simp) rfl
    rw [readItems, read_after_blanks fuel blanks _ blank, legible.reads fuel _ enough stops]
    simp only [skip_first ',' more rfl]
  · have stops : Stops (trailing ++ ']' :: rest) := closing_stops ']' trailing rest trailingBlank rfl
    rw [readItems, read_after_blanks fuel blanks _ blank, legible.reads fuel _ enough stops]
    simp only [skip_blanks trailing _ trailingBlank, skip_first ']' rest rfl, List.reverse_cons]

theorem read_name (style : Style) (name : String) (blanks rest : List Char) (blank : ∀ c ∈ blanks, isSpace c) :
    ∃ gap, (∀ c ∈ gap, isSpace c) ∧
      memberName? (blanks ++ ((printString name).toList ++ (style.colon.toList ++ rest))) = some (name, gap ++ rest) := by
  obtain ⟨gap, gapBlank, colon⟩ : ∃ gap, (∀ c ∈ gap, isSpace c) ∧ style.colon.toList = ':' :: gap := by
    cases style with
    | compact => exact ⟨[], by simp, rfl⟩
    | indented => exact ⟨[' '], List.forall_mem_singleton.mpr rfl, by simp [Style.colon]⟩
  refine ⟨gap, gapBlank, ?_⟩
  obtain ⟨chars, begins, reads⟩ := read_string name (':' :: (gap ++ rest))
  rw [colon, List.cons_append, begins, memberName?, skip_blanks blanks _ blank, skip_first '"' chars rfl]
  simp only [reads, skip_first ':' (gap ++ rest) rfl]

theorem member_step (level : Nat) (member : String × Json) (legible : Legible (chars style level member.2) member.2) :
    EntryStep readMembers (memberChars style level) '\x7d' .obj member := by
  refine ⟨fun fuel blanks more before blank enough => ?_,
    fun fuel blanks trailing rest before blank trailingBlank enough => ?_⟩
  · have stops : Stops (',' :: more) := closing_stops ',' [] more (by simp) rfl
    simp only [memberChars, List.length_append, List.append_assoc] at enough ⊢
    obtain ⟨gap, gapBlank, named⟩ := read_name style member.1 blanks (chars style level member.2 ++ ',' :: more) blank
    rw [readMembers, named]
    simp only [read_after_blanks fuel gap _ gapBlank, legible.reads fuel _ (by omega) stops, skip_first ',' more rfl]
  · have stops : Stops (trailing ++ '\x7d' :: rest) := closing_stops '\x7d' trailing rest trailingBlank rfl
    simp only [memberChars, List.length_append, List.append_assoc] at enough ⊢
    obtain ⟨gap, gapBlank, named⟩ := read_name style member.1 blanks
      (chars style level member.2 ++ (trailing ++ '\x7d' :: rest)) blank
    rw [readMembers, named]
    simp only [read_after_blanks fuel gap _ gapBlank, legible.reads fuel _ (by omega) stops,
      skip_blanks trailing _ trailingBlank, skip_first '\x7d' rest rfl, List.reverse_cons]

theorem followers_cons (level : Nat) (entry : List Char) (entries : List (List Char)) :
    followers style level (entry :: entries) =
      ',' :: ((style.break_ level).toList ++ (entry ++ followers style level entries)) := by
  simp [followers]

section Containers

variable {α : Type} {read : Nat → List Char → List α → Option (Json × List Char)} {text : α → List Char}
  {closing : Char} {make : List α → Json}

-- By the entries, the reader being in front of the first of those that are left.
theorem read_entries (level : Nat) (entry : α) (entries before : List α) (blanks trailing rest : List Char)
    (steps : ∀ other ∈ entry :: entries, EntryStep read text closing make other)
    (blank : ∀ c ∈ blanks, isSpace c) (trailingBlank : ∀ c ∈ trailing, isSpace c) (fuel : Nat)
    (enough : 2 * (text entry ++ followers style level (entries.map text)).length < fuel) :
    read fuel (blanks ++ (text entry ++ (followers style level (entries.map text) ++ (trailing ++ closing :: rest))))
      before = some (make (before.reverse ++ entry :: entries), rest) := by
  obtain ⟨fuel, rfl⟩ : ∃ less, fuel = less + 1 := ⟨fuel - 1, by omega⟩
  obtain ⟨first, others⟩ := List.forall_mem_cons.mp steps
  induction entries generalizing entry before blanks fuel with
  | nil =>
      rw [List.length_append] at enough
      exact first.last fuel blanks trailing rest before blank trailingBlank (by omega)
  | cons next entries ih =>
      rw [List.map_cons, followers_cons] at enough ⊢
      simp only [List.length_append, List.length_cons] at enough
      obtain ⟨nextStep, later⟩ := List.forall_mem_cons.mp others
      obtain ⟨fuel, rfl⟩ : ∃ less, fuel = less + 1 := ⟨fuel - 1, by omega⟩
      simp only [List.cons_append, List.append_assoc]
      rw [first.next _ blanks _ before blank (by omega), ih next (entry :: before) _ others (break_blank style level) fuel
        (by rw [List.length_append]; omega) nextStep later, List.reverse_cons, List.append_assoc]
      rfl

theorem container_legible (level : Nat) (opening : Char) (entry : α) (entries : List α)
    (notBlank : isSpace opening = false) (notClosing : opening ≠ ']')
    (steps : ∀ other ∈ entry :: entries, EntryStep read text closing make other)
    (first : ∃ c more, text entry = c :: more ∧ isSpace c = false ∧ c ≠ closing)
    (enters : ∀ fuel inner, (skip inner).head? ≠ some closing →
      readValue (fuel + 1) (opening :: inner) = read fuel inner []) :
    Legible (opening :: (filling style level (text entry) (entries.map text) ++ [closing])) (make (entry :: entries)) := by
  refine ⟨⟨opening, _, rfl, notBlank, notClosing⟩, fun fuel rest enough _ => ?_⟩
  simp only [filling, List.length_cons, List.length_append] at enough
  obtain ⟨fuel, rfl⟩ : ∃ less, fuel = less + 1 := ⟨fuel - 1, by omega⟩
  obtain ⟨c, more, begins, plain, differs⟩ := first
  simp only [filling, List.cons_append, List.append_assoc, List.nil_append]
  rw [enters]
  · exact read_entries (level + 1) entry entries [] _ (style.break_ level).toList rest steps
      (break_blank style (level + 1)) (break_blank style level) fuel (by rw [List.length_append]; omega)
  · -- The brackets are not closed at once: an entry stands between them.
    rw [skip_blanks _ _ (break_blank style (level + 1)), begins, List.cons_append, skip_first c _ plain]
    simpa using differs

end Containers

theorem array_entered (fuel : Nat) (inner : List Char) (filled : (skip inner).head? ≠ some ']') :
    readValue (fuel + 1) ('[' :: inner) = readItems fuel inner [] := by
  rw [readValue, skip_first '[' inner rfl]
  simp only
  split
  · rename_i same
    exact absurd (congrArg List.head? same) filled
  · rfl

theorem object_entered (fuel : Nat) (inner : List Char) (filled : (skip inner).head? ≠ some '\x7d') :
    readValue (fuel + 1) ('\x7b' :: inner) = readMembers fuel inner [] := by
  rw [readValue, skip_first '\x7b' inner rfl]
  simp only
  split
  · rename_i same
    exact absurd (congrArg List.head? same) filled
  · rfl

theorem array_legible (level : Nat) (item : Json) (items : List Json)
    (appends : ∀ other ∈ item :: items, Appends style other)
    (legible : ∀ other ∈ item :: items, Legible (chars style (level + 1) other) other) :
    Legible (chars style level (.arr (item :: items))) (.arr (item :: items)) := by
  rw [array_chars item items appends level]
  exact container_legible level '[' item items rfl (by decide)
    (fun other member => item_step (level + 1) other (legible other member)) (legible item (by simp)).first array_entered

theorem object_legible (level : Nat) (member : String × Json) (members : List (String × Json))
    (appends : ∀ other ∈ member :: members, Appends style other.2)
    (legible : ∀ other ∈ member :: members, Legible (chars style (level + 1) other.2) other.2) :
    Legible (chars style level (.obj (member :: members))) (.obj (member :: members)) := by
  obtain ⟨name, begins, _⟩ := read_string member.1 (style.colon.toList ++ chars style (level + 1) member.2)
  rw [object_chars member members appends level]
  exact container_legible level '\x7b' member members rfl (by decide)
    (fun other listed => member_step (level + 1) other (legible other listed)) ⟨'"', name, begins, rfl, by decide⟩
    object_entered

-- Brackets with nothing between them.
theorem empty_legible (opening closing : Char) (value : Json) (notBlank : isSpace opening = false)
    (notClosing : opening ≠ ']')
    (reads : ∀ fuel rest, readValue (fuel + 1) (opening :: closing :: rest) = some (value, rest)) :
    Legible [opening, closing] value := by
  refine ⟨⟨opening, _, rfl, notBlank, notClosing⟩, fun fuel rest enough _ => ?_⟩
  obtain ⟨fuel, rfl⟩ : ∃ less, fuel = less + 1 := ⟨fuel - 1, by
    simp only [List.length_cons] at enough
    omega⟩
  exact reads fuel rest

theorem written_legible (value : Json) (finite : Finite value) (level : Nat) :
    Legible (chars style level value) value := by
  induction finite generalizing level with
  | null =>
      have text : chars style level .null = ['n', 'u', 'l', 'l'] := by simp [chars, write]
      rw [text]
      exact scalar_legible 'n' _ .null rfl fun _ _ => rfl
  | bool value =>
      cases value with
      | true =>
          have text : chars style level (.bool true) = ['t', 'r', 'u', 'e'] := by simp [chars, write]
          rw [text]
          exact scalar_legible 't' _ (.bool true) rfl fun _ _ => rfl
      | false =>
          have text : chars style level (.bool false) = ['f', 'a', 'l', 's', 'e'] := by simp [chars, write]
          rw [text]
          exact scalar_legible 'f' _ (.bool false) rfl fun _ _ => rfl
  | int value =>
      have text : chars style level (.int value) = (toString value).toList := by simp [chars, write]
      rw [text]
      exact numeral_legible _ _ (int_numeral value)
  | float negative rank =>
      have text : chars style level (.float (.finite negative rank)) = (printFloat (.finite negative rank)).toList := by
        simp [chars, write]
      rw [text]
      exact numeral_legible _ _ (float_numeral negative rank)
  | str content =>
      have text : chars style level (.str content) = (printString content).toList := by simp [chars, write]
      rw [text]
      exact string_legible content
  | @arr items all ih =>
      cases items with
      | nil =>
          have text : chars style level (.arr []) = ['[', ']'] := by simp [chars, write]
          rw [text]
          exact empty_legible '[' ']' _ rfl (by decide) fun fuel rest => by rw [readValue]; rfl
      | cons item items =>
          exact array_legible level item items (fun other member => write_appends other (all other member))
            (fun other member => ih other member (level + 1))
  | @obj members all ih =>
      cases members with
      | nil =>
          have text : chars style level (.obj []) = ['\x7b', '\x7d'] := by simp [chars, write]
          rw [text]
          exact empty_legible '\x7b' '\x7d' _ rfl (by decide) fun fuel rest => by rw [readValue]; rfl
      | cons member members =>
          exact object_legible level member members (fun other listed => write_appends other.2 (all other listed))
            (fun other listed => ih other listed (level + 1))

end Reading

theorem parse_print (style : Style) (value : Json) (finite : Finite value) :
    parse? (value.print style) = some value := by
  have legible : Legible (chars style 0 value) value := written_legible value finite 0
  have read := legible.reads (2 * (chars style 0 value).length + 2) [] (by omega) (fun c found => by cases found)
  rw [List.append_nil] at read
  have printed : (value.print style).toList = chars style 0 value := rfl
  simp only [parse?, printed, read]
  exact if_pos rfl

end Reckon.Json
