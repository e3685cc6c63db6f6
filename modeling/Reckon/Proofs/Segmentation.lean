import Reckon.Proofs.Scanning

set_option autoImplicit false

namespace Reckon.Token

def start (token : Token) : Nat := token.pos.toNat

def stop (token : Token) : Nat := token.start + token.text.length

def Covers (token : Token) (place : Nat) : Prop := token.start ≤ place ∧ place < token.stop

structure Lawful (source : List Char) (token : Token) : Prop where
  nonempty : token.text ≠ ""
  slice : (source.drop token.start).take token.text.length = token.text.toList
  shaped : Shaped token.kind token.text.toList
  ended : Ended token.kind source[token.stop]?

-- The tokens make up what stands from `origin` on.
structure Segments (source : List Char) (origin : Nat) (body : List Token) : Prop where
  lawful : ∀ token ∈ body, Lawful source token
  later : ∀ token ∈ body, (origin : Int) ≤ token.pos
  ordered : body.Pairwise fun a b => a.pos < b.pos ∧ ∀ place, ¬ (a.Covers place ∧ b.Covers place)
  blank : ∀ place c, origin ≤ place → source[place]? = some c →
    (∀ token ∈ body, ¬ token.Covers place) → Text.isBlank c

-- No shape is one of an end mark, so that the last token is the only one.
def Segmentation (source : String) (tokens : List Token) : Prop :=
  ∃ body, tokens = body ++ [⟨.eof, "", source.length⟩] ∧ Segments source.toList 0 body

theorem lawful_split (source : List Char) (token : Token) (lawful : Lawful source token) :
    ∃ c tail, token.text.toList = c :: tail ∧
      source.drop token.start = c :: (tail ++ source.drop token.stop) := by
  have nonempty : token.text.toList ≠ [] := fun empty => lawful.nonempty (String.toList_eq_nil_iff.mp empty)
  obtain ⟨c, tail, text⟩ := List.exists_cons_of_ne_nil nonempty
  refine ⟨c, tail, text, ?_⟩
  rw [← List.take_append_drop token.text.length (source.drop token.start), lawful.slice, text,
    List.drop_drop, stop]
  rfl

theorem start_covered (source : List Char) (token : Token) (lawful : Lawful source token) :
    token.Covers token.start := by
  obtain ⟨c, tail, text, _⟩ := lawful_split source token lawful
  have positive : 0 < token.text.length := by
    rw [← String.length_toList, text]
    exact Nat.succ_pos _
  exact ⟨Nat.le_refl _, Nat.lt_add_of_pos_right positive⟩

theorem segments_end (source : List Char) (origin : Nat) (body : List Token)
    (ends : source.drop origin = []) : Segments source origin body ↔ body = [] := by
  have length : source.length ≤ origin := List.drop_eq_nil_iff.mp ends
  constructor
  · intro segments
    refine List.eq_nil_iff_forall_not_mem.mpr (fun token member => ?_)
    obtain ⟨c, tail, _, found⟩ := lawful_split source token (segments.lawful token member)
    have later := segments.later token member
    have beyond : source.drop token.start = [] := List.drop_eq_nil_iff.mpr (by rw [start]; omega)
    rw [beyond] at found
    cases found
  · rintro rfl
    refine ⟨by simp, by simp, .nil, fun place c after found => ?_⟩
    have inside := (List.getElem?_eq_some_iff.mp found).1
    omega

theorem segments_blank (source : List Char) (origin : Nat) (body : List Token) (c : Char)
    (rest : List Char) (here : source.drop origin = c :: rest) (blank : Text.isBlank c) :
    Segments source origin body ↔ Segments source (origin + 1) body := by
  constructor
  · intro segments
    refine ⟨segments.lawful, fun token member => ?_, segments.ordered, fun place d after =>
      segments.blank place d (Nat.le_of_succ_le after)⟩
    have later := segments.later token member
    have different : token.start ≠ origin := by
      intro same
      have lawful := segments.lawful token member
      obtain ⟨first, tail, text, found⟩ := lawful_split source token lawful
      rw [same, here] at found
      cases found
      have shaped := lawful.shaped
      rw [text] at shaped
      rw [shaped_first token.kind c tail shaped] at blank
      cases blank
    rw [start] at different
    omega
  · intro segments
    refine ⟨segments.lawful, fun token member => ?_, segments.ordered, fun place d after found uncovered => ?_⟩
    · have later := segments.later token member
      omega
    · rcases Nat.eq_or_lt_of_le after with same | beyond
      · rw [← same, ← List.head?_drop, here] at found
        cases found
        exact blank
      · exact segments.blank place d beyond found uncovered

def lexemeToken (origin : Nat) (c : Char) (rest : List Char) : Token :=
  ⟨(lexeme c rest).kind, String.ofList (lexeme c rest).text, origin⟩

theorem lexeme_token_stop (origin : Nat) (c : Char) (rest : List Char) :
    (lexemeToken origin c rest).stop = origin + (lexeme c rest).text.length := by
  simp [stop, start, lexemeToken]

theorem lexeme_remainder (source : List Char) (origin : Nat) (c : Char) (rest : List Char)
    (here : source.drop origin = c :: rest) :
    source.drop (origin + (lexeme c rest).text.length) = (lexeme c rest).rest := by
  rw [← List.drop_drop, here, ← lexeme_split c rest, List.drop_left]

theorem lexeme_token_lawful (source : List Char) (origin : Nat) (c : Char) (rest : List Char)
    (here : source.drop origin = c :: rest) (blank : Text.isBlank c = false) :
    Lawful source (lexemeToken origin c rest) := by
  obtain ⟨shaped, ended⟩ := lexeme_lawful c rest blank
  refine ⟨?_, ?_, ?_, ?_⟩
  · exact fun empty => lexeme_nonempty c rest (String.ofList_eq_empty_iff.mp empty)
  · have begins : source.drop (lexemeToken origin c rest).start =
        (lexeme c rest).text ++ (lexeme c rest).rest := by
      rw [lexeme_split, ← here]
      rfl
    rw [begins]
    simp [lexemeToken]
  · rw [lexemeToken, String.toList_ofList]
    exact shaped
  · rw [lexeme_token_stop, ← List.head?_drop, lexeme_remainder source origin c rest here]
    exact ended

-- A lawful token at a given place is the one that is scanned there.
theorem lawful_scanned (source : List Char) (token : Token) (c : Char) (rest : List Char)
    (placed : 0 ≤ token.pos) (here : source.drop token.start = c :: rest) (lawful : Lawful source token) :
    token = lexemeToken token.start c rest := by
  obtain ⟨first, tail, text, found⟩ := lawful_split source token lawful
  rw [here] at found
  cases found
  have shaped := lawful.shaped
  have ended := lawful.ended
  rw [text] at shaped
  rw [← List.head?_drop] at ended
  obtain ⟨kind, spelling, pos⟩ := token
  have position : ((start ⟨kind, spelling, pos⟩ : Nat) : Int) = pos := Int.toNat_of_nonneg placed
  rw [lexemeToken, lexeme_unique kind c tail _ shaped ended, ← text, String.ofList_toList, position]

theorem segments_first (source : List Char) (origin : Nat) (body : List Token) (c : Char)
    (rest : List Char) (segments : Segments source origin body) (here : source.drop origin = c :: rest)
    (blank : Text.isBlank c = false) :
    ∃ token later, body = token :: later ∧ token.pos = origin := by
  have covered : ∃ token ∈ body, token.Covers origin := by
    refine Classical.byContradiction (fun uncovered => ?_)
    have found : source[origin]? = some c := by
      rw [← List.head?_drop, here]
      rfl
    have outside := segments.blank origin c (Nat.le_refl _) found
      (fun token member covers => uncovered ⟨token, member, covers⟩)
    rw [blank] at outside
    cases outside
  obtain ⟨token, member, covers⟩ := covered
  have later := segments.later token member
  have position : token.pos = origin := by
    have before := covers.1
    rw [start] at before
    omega
  cases body with
  | nil => cases member
  | cons head others =>
      rcases List.mem_cons.mp member with rfl | behind
      · exact ⟨token, others, rfl, position⟩
      · -- The first token would begin before `origin`.
        have order := (List.rel_of_pairwise_cons segments.ordered behind).1
        have first := segments.later head List.mem_cons_self
        omega

theorem later_start (source : List Char) (a b : Token) (placed : 0 ≤ a.pos) (lawful : Lawful source b)
    (order : a.pos < b.pos) (apart : ∀ place, ¬ (a.Covers place ∧ b.Covers place)) :
    (a.stop : Int) ≤ b.pos := by
  have begins := start_covered source b lawful
  have outside : ¬ a.Covers b.start := fun covers => apart b.start ⟨covers, begins⟩
  simp only [Covers, start] at outside
  omega

theorem segments_tail (source : List Char) (origin : Nat) (token : Token) (later : List Token)
    (placed : token.pos = origin) (segments : Segments source origin (token :: later)) :
    Segments source token.stop later := by
  refine ⟨fun b member => segments.lawful b (List.mem_cons_of_mem _ member), fun b member => ?_,
    segments.ordered.of_cons, fun place c after found uncovered => ?_⟩
  · obtain ⟨order, apart⟩ := List.rel_of_pairwise_cons segments.ordered member
    exact later_start source token b (by omega) (segments.lawful b (List.mem_cons_of_mem _ member)) order apart
  · have beyond : origin ≤ place := by
      rw [stop, start] at after
      omega
    refine segments.blank place c beyond found (fun b member covers => ?_)
    rcases List.mem_cons.mp member with rfl | behind
    · exact absurd covers.2 (Nat.not_lt.mpr after)
    · exact uncovered b behind covers

theorem segments_cons (source : List Char) (origin : Nat) (token : Token) (later : List Token)
    (placed : token.pos = origin) (lawful : Lawful source token) (segments : Segments source token.stop later) :
    Segments source origin (token :: later) := by
  have begins : token.start = origin := by simp [start, placed]
  have covered := start_covered source token lawful
  have positive : origin < token.stop := by
    rw [← begins]
    exact covered.2
  refine ⟨fun b member => ?_, fun b member => ?_, List.pairwise_cons.mpr ⟨fun b member => ?_, segments.ordered⟩,
    fun place c after found uncovered => ?_⟩
  · rcases List.mem_cons.mp member with rfl | behind
    · exact lawful
    · exact segments.lawful b behind
  · rcases List.mem_cons.mp member with rfl | behind
    · exact Int.le_of_eq placed.symm
    · have beyond := segments.later b behind
      omega
  · have beyond := segments.later b member
    refine ⟨by omega, fun place both => ?_⟩
    have below := both.1.2
    have above := both.2.1
    rw [start] at above
    omega
  · have outside := uncovered token List.mem_cons_self
    rw [Covers, begins] at outside
    exact segments.blank place c (by omega) found (fun b member => uncovered b (List.mem_cons_of_mem _ member))

theorem segments_token (source : List Char) (origin : Nat) (body : List Token) (c : Char)
    (rest : List Char) (here : source.drop origin = c :: rest) (blank : Text.isBlank c = false) :
    Segments source origin body ↔ ∃ later, body = lexemeToken origin c rest :: later ∧
      Segments source (origin + (lexeme c rest).text.length) later := by
  rw [← lexeme_token_stop]
  constructor
  · intro segments
    obtain ⟨token, later, rfl, placed⟩ := segments_first source origin body c rest segments here blank
    have begins : token.start = origin := by simp [start, placed]
    have scanned := lawful_scanned source token c rest (by omega) (begins ▸ here)
      (segments.lawful token List.mem_cons_self)
    rw [begins] at scanned
    subst scanned
    exact ⟨later, rfl, segments_tail source origin _ later placed segments⟩
  · rintro ⟨later, rfl, segments⟩
    exact segments_cons source origin _ later rfl (lexeme_token_lawful source origin c rest here blank) segments

-- By the recursion of scanning: at each place the rules and the scanner take the same way on.
theorem segments_scan (source : List Char) (origin : Nat) (text : List Char) (body : List Token)
    (here : source.drop origin = text) :
    Segments source origin body ↔ body = (scanFrom origin text).dropLast := by
  fun_induction scanFrom origin text generalizing body with
  | case1 origin => exact segments_end source origin body here
  | case2 origin c rest blank ih =>
      have next : source.drop (origin + 1) = rest := by
        rw [← List.drop_drop, here]
        rfl
      rw [segments_blank source origin body c rest here blank, ih body next]
  | case3 origin c rest blank next ih =>
      have marked := scan_end_mark (origin + next.text.length) next.rest
      have onwards := fun later => ih later (lexeme_remainder source origin c rest here)
      rw [segments_token source origin body c rest here (Bool.eq_false_iff.mpr blank), marked,
        ← List.cons_append, List.dropLast_concat]
      constructor
      · rintro ⟨later, rfl, segments⟩
        rw [(onwards later).mp segments]
        rfl
      · rintro rfl
        exact ⟨_, rfl, (onwards _).mpr rfl⟩

theorem scan_unique_segmentation (source : String) (tokens : List Token) :
    Segmentation source tokens ↔ tokens = scan source := by
  have marked := scan_end_mark 0 source.toList
  rw [Nat.zero_add, String.length_toList] at marked
  constructor
  · rintro ⟨body, rfl, segments⟩
    rw [(segments_scan source.toList 0 _ body rfl).mp segments]
    exact marked.symm
  · rintro rfl
    exact ⟨_, marked, (segments_scan source.toList 0 _ _ rfl).mpr rfl⟩

end Reckon.Token
