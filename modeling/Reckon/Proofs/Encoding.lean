import Reckon.Text.Utf8

set_option autoImplicit false

namespace Reckon.Text

def encoded (text : List Char) : List UInt8 := text.flatMap String.utf8EncodeChar

theorem tail_done (code least most taken : Nat) (bytes after : List UInt8) (value : Nat) :
    utf8Tail 0 code least most taken bytes = .ok (value, after) ↔ value = code ∧ bytes = after := by
  simp [utf8Tail, eq_comm]

theorem tail_more (wanted code least most taken : Nat) (bytes after : List UInt8) (value : Nat) :
    utf8Tail (wanted + 1) code least most taken bytes = .ok (value, after) ↔
      ∃ byte rest, bytes = byte :: rest ∧ (least ≤ byte.toNat ∧ byte.toNat ≤ most) ∧
        utf8Tail wanted (code * 0x40 + byte.toNat % 0x40) 0x80 0xBF (taken + 1) rest = .ok (value, after) := by
  cases bytes with
  | nil => simp [utf8Tail]
  | cons byte rest =>
      rw [utf8Tail]
      by_cases inside : least ≤ byte.toNat ∧ byte.toNat ≤ most
      · rw [if_pos inside]
        constructor
        · intro taken
          exact ⟨byte, rest, rfl, inside, taken⟩
        · rintro ⟨_, _, same, _, taken⟩
          cases same
          exact taken
      · rw [if_neg inside]
        constructor
        · intro absurdity
          cases absurdity
        · rintro ⟨_, _, same, bounds, _⟩
          cases same
          exact absurd bounds inside

theorem char_code (code : Nat) (valid : code.isValidChar) : (Char.ofNat code).toNat = code := by
  rw [Char.ofNat, dif_pos valid]
  rfl

theorem byte_value (byte : UInt8) (n : Nat) (same : n = byte.toNat) : UInt8.ofNat n = byte := by
  rw [same, UInt8.ofNat_toNat]

-- The encoding by the size of the code, without the remainders that change nothing.
theorem encode_one (c : Char) (most : c.toNat < 0x80) : String.utf8EncodeChar c = [UInt8.ofNat c.toNat] := by
  have code : c.val.toNat = c.toNat := rfl
  simp only [String.utf8EncodeChar, code]
  rw [if_pos (by omega)]

theorem encode_two (c : Char) (least : 0x80 ≤ c.toNat) (most : c.toNat < 0x800) :
    String.utf8EncodeChar c = [UInt8.ofNat (c.toNat / 0x40 + 0xC0), UInt8.ofNat (c.toNat % 0x40 + 0x80)] := by
  have code : c.val.toNat = c.toNat := rfl
  simp only [String.utf8EncodeChar, code]
  rw [if_neg (by omega), if_pos (by omega), Nat.mod_eq_of_lt (by omega)]

theorem encode_three (c : Char) (least : 0x800 ≤ c.toNat) (most : c.toNat < 0x10000) :
    String.utf8EncodeChar c = [UInt8.ofNat (c.toNat / 0x1000 + 0xE0),
      UInt8.ofNat (c.toNat / 0x40 % 0x40 + 0x80), UInt8.ofNat (c.toNat % 0x40 + 0x80)] := by
  have code : c.val.toNat = c.toNat := rfl
  simp only [String.utf8EncodeChar, code]
  rw [if_neg (by omega), if_neg (by omega), if_pos (by omega), Nat.mod_eq_of_lt (by omega)]

theorem encode_four (c : Char) (least : 0x10000 ≤ c.toNat) (most : c.toNat < 0x110000) :
    String.utf8EncodeChar c = [UInt8.ofNat (c.toNat / 0x40000 + 0xF0),
      UInt8.ofNat (c.toNat / 0x1000 % 0x40 + 0x80), UInt8.ofNat (c.toNat / 0x40 % 0x40 + 0x80),
      UInt8.ofNat (c.toNat % 0x40 + 0x80)] := by
  have code : c.val.toNat = c.toNat := rfl
  simp only [String.utf8EncodeChar, code]
  rw [if_neg (by omega), if_neg (by omega), if_neg (by omega), Nat.mod_eq_of_lt (by omega)]

-- The four sizes of a character by its first byte.
theorem lead_one (byte : UInt8) (most : byte.toNat < 0x80) : utf8Lead byte = some (0, byte.toNat, 0, 0) := by
  simp only [utf8Lead]
  rw [if_pos most]

theorem lead_two (byte : UInt8) (least : 0xC2 ≤ byte.toNat) (most : byte.toNat < 0xE0) :
    utf8Lead byte = some (1, byte.toNat - 0xC0, 0x80, 0xBF) := by
  simp only [utf8Lead]
  rw [if_neg (by omega), if_neg (by omega), if_pos (by omega)]

theorem lead_three (byte : UInt8) (least : 0xE0 ≤ byte.toNat) (most : byte.toNat < 0xF0) :
    utf8Lead byte = some (2, byte.toNat - 0xE0, if byte.toNat = 0xE0 then 0xA0 else 0x80,
      if byte.toNat = 0xED then 0x9F else 0xBF) := by
  simp only [utf8Lead]
  rw [if_neg (by omega), if_neg (by omega), if_neg (by omega), if_pos (by omega)]

theorem lead_four (byte : UInt8) (least : 0xF0 ≤ byte.toNat) (most : byte.toNat < 0xF5) :
    utf8Lead byte = some (3, byte.toNat - 0xF0, if byte.toNat = 0xF0 then 0x90 else 0x80,
      if byte.toNat = 0xF4 then 0x8F else 0xBF) := by
  simp only [utf8Lead]
  rw [if_neg (by omega), if_neg (by omega), if_neg (by omega), if_neg (by omega), if_pos (by omega)]

theorem lead_none (byte : UInt8) (outside : 0x80 ≤ byte.toNat ∧ byte.toNat < 0xC2 ∨ 0xF5 ≤ byte.toNat) :
    utf8Lead byte = none := by
  simp only [utf8Lead]
  split
  · omega
  · split
    · rfl
    · rw [if_neg (by omega), if_neg (by omega), if_neg (by omega)]

-- The bounds of the second byte, which are narrower after two of the first bytes.
theorem second_bounds (byte n low least high most : Nat) (inside : 0x80 ≤ least ∧ most ≤ 0xBF) :
    ((if byte = low then least else 0x80) ≤ n ∧ n ≤ if byte = high then most else 0xBF) ↔
      (0x80 ≤ n ∧ n ≤ 0xBF) ∧ (byte = low → least ≤ n) ∧ (byte = high → n ≤ most) := by
  by_cases lowest : byte = low
  · by_cases highest : byte = high
    · rw [if_pos lowest, if_pos highest]
      omega
    · rw [if_pos lowest, if_neg highest]
      omega
  · by_cases highest : byte = high
    · rw [if_neg lowest, if_pos highest]
      omega
    · rw [if_neg lowest, if_neg highest]
      omega

-- The first byte and those after it make up one character.
def Decodes (byte : UInt8) (rest : List UInt8) (code : Nat) (after : List UInt8) : Prop :=
  ∃ wanted bits least most, utf8Lead byte = some (wanted, bits, least, most) ∧
    utf8Tail wanted bits least most 0 rest = .ok (code, after)

theorem decodes_lead (byte : UInt8) (rest after : List UInt8) (wanted bits least most code : Nat)
    (lead : utf8Lead byte = some (wanted, bits, least, most)) :
    Decodes byte rest code after ↔ utf8Tail wanted bits least most 0 rest = .ok (code, after) := by
  constructor
  · rintro ⟨_, _, _, _, same, tail⟩
    cases lead.symm.trans same
    exact tail
  · intro tail
    exact ⟨_, _, _, _, lead, tail⟩

-- What makes up a character of each size.
theorem decodes_one (byte : UInt8) (rest after : List UInt8) (code : Nat) (most : byte.toNat < 0x80) :
    Decodes byte rest code after ↔ code = byte.toNat ∧ rest = after := by
  rw [decodes_lead _ _ _ _ _ _ _ _ (lead_one byte most), tail_done]

theorem decodes_two (byte : UInt8) (rest after : List UInt8) (code : Nat) (least : 0xC2 ≤ byte.toNat)
    (most : byte.toNat < 0xE0) :
    Decodes byte rest code after ↔ ∃ second : UInt8, rest = second :: after ∧
      (0x80 ≤ second.toNat ∧ second.toNat ≤ 0xBF) ∧
      code = (byte.toNat - 0xC0) * 0x40 + second.toNat % 0x40 := by
  simp only [decodes_lead _ _ _ _ _ _ _ _ (lead_two byte least most), tail_more, tail_done]
  constructor
  · rintro ⟨second, _, rfl, bounds, rfl, rfl⟩
    exact ⟨second, rfl, bounds, rfl⟩
  · rintro ⟨second, rfl, bounds, rfl⟩
    exact ⟨second, after, rfl, bounds, rfl, rfl⟩

theorem decodes_three (byte : UInt8) (rest after : List UInt8) (code : Nat) (least : 0xE0 ≤ byte.toNat)
    (most : byte.toNat < 0xF0) :
    Decodes byte rest code after ↔ ∃ second third : UInt8, rest = second :: third :: after ∧
      ((0x80 ≤ second.toNat ∧ second.toNat ≤ 0xBF) ∧ (byte.toNat = 0xE0 → 0xA0 ≤ second.toNat) ∧
        (byte.toNat = 0xED → second.toNat ≤ 0x9F)) ∧
      (0x80 ≤ third.toNat ∧ third.toNat ≤ 0xBF) ∧
      code = ((byte.toNat - 0xE0) * 0x40 + second.toNat % 0x40) * 0x40 + third.toNat % 0x40 := by
  simp only [decodes_lead _ _ _ _ _ _ _ _ (lead_three byte least most), tail_more, tail_done,
    second_bounds byte.toNat _ 0xE0 0xA0 0xED 0x9F (by decide)]
  constructor
  · rintro ⟨second, _, rfl, bounds, third, _, rfl, thirdBounds, rfl, rfl⟩
    exact ⟨second, third, rfl, bounds, thirdBounds, rfl⟩
  · rintro ⟨second, third, rfl, bounds, thirdBounds, rfl⟩
    exact ⟨second, _, rfl, bounds, third, after, rfl, thirdBounds, rfl, rfl⟩

theorem decodes_four (byte : UInt8) (rest after : List UInt8) (code : Nat) (least : 0xF0 ≤ byte.toNat)
    (most : byte.toNat < 0xF5) :
    Decodes byte rest code after ↔ ∃ second third fourth : UInt8, rest = second :: third :: fourth :: after ∧
      ((0x80 ≤ second.toNat ∧ second.toNat ≤ 0xBF) ∧ (byte.toNat = 0xF0 → 0x90 ≤ second.toNat) ∧
        (byte.toNat = 0xF4 → second.toNat ≤ 0x8F)) ∧
      (0x80 ≤ third.toNat ∧ third.toNat ≤ 0xBF) ∧ (0x80 ≤ fourth.toNat ∧ fourth.toNat ≤ 0xBF) ∧
      code = (((byte.toNat - 0xF0) * 0x40 + second.toNat % 0x40) * 0x40 + third.toNat % 0x40) * 0x40 +
        fourth.toNat % 0x40 := by
  simp only [decodes_lead _ _ _ _ _ _ _ _ (lead_four byte least most), tail_more, tail_done,
    second_bounds byte.toNat _ 0xF0 0x90 0xF4 0x8F (by decide)]
  constructor
  · rintro ⟨second, _, rfl, bounds, third, _, rfl, thirdBounds, fourth, _, rfl, fourthBounds, rfl, rfl⟩
    exact ⟨second, third, fourth, rfl, bounds, thirdBounds, fourthBounds, rfl⟩
  · rintro ⟨second, third, fourth, rfl, bounds, thirdBounds, fourthBounds, rfl⟩
    exact ⟨second, _, rfl, bounds, third, _, rfl, thirdBounds, fourth, after, rfl, fourthBounds, rfl, rfl⟩

-- The bounds of the second byte leave out what is encoded shorter, surrogates, and what is no character.
theorem decodes_encoding (byte : UInt8) (rest after : List UInt8) (code : Nat)
    (decodes : Decodes byte rest code after) :
    byte :: rest = String.utf8EncodeChar (Char.ofNat code) ++ after := by
  by_cases one : byte.toNat < 0x80
  · obtain ⟨same, rfl⟩ := (decodes_one byte rest after code one).mp decodes
    have value := char_code code (Or.inl (by omega))
    rw [encode_one _ (by omega), byte_value byte _ (by omega)]
    rfl
  · by_cases two : 0xC2 ≤ byte.toNat ∧ byte.toNat < 0xE0
    · obtain ⟨second, rfl, bounds, same⟩ := (decodes_two byte rest after code two.1 two.2).mp decodes
      have value := char_code code (Or.inl (by omega))
      rw [encode_two _ (by omega) (by omega), byte_value byte _ (by omega), byte_value second _ (by omega)]
      rfl
    · by_cases three : 0xE0 ≤ byte.toNat ∧ byte.toNat < 0xF0
      · obtain ⟨second, third, rfl, bounds, thirdBounds, same⟩ :=
          (decodes_three byte rest after code three.1 three.2).mp decodes
        have value := char_code code (by rw [Nat.isValidChar]; omega)
        rw [encode_three _ (by omega) (by omega), byte_value byte _ (by omega),
          byte_value second _ (by omega), byte_value third _ (by omega)]
        rfl
      · by_cases four : 0xF0 ≤ byte.toNat ∧ byte.toNat < 0xF5
        · obtain ⟨second, third, fourth, rfl, bounds, thirdBounds, fourthBounds, same⟩ :=
            (decodes_four byte rest after code four.1 four.2).mp decodes
          have value := char_code code (by rw [Nat.isValidChar]; omega)
          rw [encode_four _ (by omega) (by omega), byte_value byte _ (by omega),
            byte_value second _ (by omega), byte_value third _ (by omega), byte_value fourth _ (by omega)]
          rfl
        · obtain ⟨_, _, _, _, lead, _⟩ := decodes
          rw [lead_none byte (by omega)] at lead
          cases lead

theorem byte_code (n : Nat) (small : n < 0x100) : (UInt8.ofNat n).toNat = n := UInt8.toNat_ofNat_of_lt' small

theorem encoding_decodes (c : Char) (after : List UInt8) :
    ∃ byte rest, String.utf8EncodeChar c ++ after = byte :: rest ∧ Decodes byte rest c.toNat after := by
  have valid : c.toNat < 0xD800 ∨ 0xDFFF < c.toNat ∧ c.toNat < 0x110000 := c.valid
  by_cases one : c.toNat < 0x80
  · rw [encode_one c one]
    have first := byte_code c.toNat (by omega)
    exact ⟨_, _, rfl, (decodes_one _ _ _ _ (by omega)).mpr ⟨by omega, rfl⟩⟩
  · by_cases two : c.toNat < 0x800
    · rw [encode_two c (by omega) two]
      have first := byte_code (c.toNat / 0x40 + 0xC0) (by omega)
      have second := byte_code (c.toNat % 0x40 + 0x80) (by omega)
      exact ⟨_, _, rfl, (decodes_two _ _ _ _ (by omega) (by omega)).mpr ⟨_, rfl, by omega, by omega⟩⟩
    · by_cases three : c.toNat < 0x10000
      · rw [encode_three c (by omega) three]
        have first := byte_code (c.toNat / 0x1000 + 0xE0) (by omega)
        have second := byte_code (c.toNat / 0x40 % 0x40 + 0x80) (by omega)
        have third := byte_code (c.toNat % 0x40 + 0x80) (by omega)
        exact ⟨_, _, rfl, (decodes_three _ _ _ _ (by omega) (by omega)).mpr
          ⟨_, _, rfl, by omega, by omega, by omega⟩⟩
      · rw [encode_four c (by omega) (by omega)]
        have first := byte_code (c.toNat / 0x40000 + 0xF0) (by omega)
        have second := byte_code (c.toNat / 0x1000 % 0x40 + 0x80) (by omega)
        have third := byte_code (c.toNat / 0x40 % 0x40 + 0x80) (by omega)
        have fourth := byte_code (c.toNat % 0x40 + 0x80) (by omega)
        exact ⟨_, _, rfl, (decodes_four _ _ _ _ (by omega) (by omega)).mpr
          ⟨_, _, _, rfl, by omega, by omega, by omega, by omega⟩⟩

theorem decodes_unique (byte : UInt8) (rest after otherAfter : List UInt8) (code otherCode : Nat)
    (decodes : Decodes byte rest code after) (other : Decodes byte rest otherCode otherAfter) :
    otherCode = code ∧ otherAfter = after := by
  obtain ⟨_, _, _, _, lead, tail⟩ := decodes
  rw [decodes_lead _ _ _ _ _ _ _ _ lead, tail] at other
  cases other
  exact ⟨rfl, rfl⟩

theorem chars_decoded (fuel start : Nat) (byte : UInt8) (rest after : List UInt8) (done : List Char)
    (code : Nat) (decodes : Decodes byte rest code after) :
    ∃ next, utf8Chars (fuel + 1) start (byte :: rest) done =
      utf8Chars fuel next after (Char.ofNat code :: done) := by
  obtain ⟨wanted, _, _, _, lead, tail⟩ := decodes
  exact ⟨start + wanted + 1, by simp only [utf8Chars, lead, tail]⟩

theorem chars_refused (fuel start : Nat) (byte : UInt8) (rest : List UInt8) (done : List Char)
    (refused : ∀ code after, ¬ Decodes byte rest code after) :
    ∃ fault, utf8Chars (fuel + 1) start (byte :: rest) done = .error fault := by
  cases lead : utf8Lead byte with
  | none => exact ⟨⟨start, 1, byte, .invalidStart⟩, by simp only [utf8Chars, lead]⟩
  | some form =>
      obtain ⟨wanted, bits, least, most⟩ := form
      cases tail : utf8Tail wanted bits least most 0 rest with
      | error problem =>
          exact ⟨⟨start, problem.1 + 1, byte, problem.2⟩, by simp only [utf8Chars, lead, tail]⟩
      | ok found => exact absurd ⟨_, _, _, _, lead, tail⟩ (refused found.1 found.2)

theorem encoded_cons (c : Char) (text : List Char) : encoded (c :: text) = String.utf8EncodeChar c ++ encoded text :=
  List.flatMap_cons

theorem encoded_first (byte : UInt8) (rest : List UInt8) (text : List Char)
    (same : byte :: rest = encoded text) :
    ∃ c others, text = c :: others ∧ Decodes byte rest c.toNat (encoded others) := by
  cases text with
  | nil => cases same
  | cons c others =>
      obtain ⟨first, after, split, decodes⟩ := encoding_decodes c (encoded others)
      rw [encoded_cons, split] at same
      cases same
      exact ⟨c, others, rfl, decodes⟩

theorem chars_none (fuel start : Nat) (done chars : List Char) :
    utf8Chars fuel start [] done = .ok chars ↔ ∃ text, chars = done.reverse ++ text ∧ [] = encoded text := by
  have decoded : utf8Chars fuel start [] done = .ok done.reverse := by cases fuel <;> rfl
  rw [decoded]
  constructor
  · intro same
    cases same
    exact ⟨[], by simp, rfl⟩
  · rintro ⟨text, rfl, none⟩
    cases text with
    | nil => simp
    | cons c others =>
        obtain ⟨byte, rest, split, _⟩ := encoding_decodes c (encoded others)
        rw [encoded_cons, split] at none
        cases none

-- By the fuel, of which each character takes one: it has a byte at least.
theorem chars_iff (fuel start : Nat) (bytes : List UInt8) (done chars : List Char)
    (enough : bytes.length ≤ fuel) :
    utf8Chars fuel start bytes done = .ok chars ↔
      ∃ text, chars = done.reverse ++ text ∧ bytes = encoded text := by
  induction fuel generalizing start bytes done with
  | zero =>
      rw [List.eq_nil_of_length_eq_zero (Nat.eq_zero_of_le_zero enough)]
      exact chars_none 0 start done chars
  | succ fuel ih =>
      cases bytes with
      | nil => exact chars_none (fuel + 1) start done chars
      | cons byte rest =>
          by_cases decodable : ∃ code after, Decodes byte rest code after
          · obtain ⟨code, after, decodes⟩ := decodable
            obtain ⟨next, step⟩ := chars_decoded fuel start byte rest after done code decodes
            have split := decodes_encoding byte rest after code decodes
            have shorter : after.length ≤ fuel := by
              have sizes := congrArg List.length split
              have positive := (Char.ofNat code).utf8Size_pos
              rw [List.length_append, String.length_utf8EncodeChar] at sizes
              omega
            rw [step, ih next after _ shorter, List.reverse_cons]
            constructor
            · rintro ⟨text, rfl, rfl⟩
              exact ⟨Char.ofNat code :: text, by simp, split.trans (encoded_cons _ text).symm⟩
            · rintro ⟨text, rfl, same⟩
              obtain ⟨c, others, rfl, first⟩ := encoded_first byte rest text same
              obtain ⟨rfl, rfl⟩ := decodes_unique byte rest after _ code _ decodes first
              exact ⟨others, by simp [Char.ofNat_toNat], rfl⟩
          · have refused : ∀ code after, ¬ Decodes byte rest code after :=
              fun code after decodes => decodable ⟨code, after, decodes⟩
            obtain ⟨fault, failed⟩ := chars_refused fuel start byte rest done refused
            rw [failed]
            constructor
            · intro absurdity
              cases absurdity
            · rintro ⟨text, _, same⟩
              obtain ⟨c, others, _, first⟩ := encoded_first byte rest text same
              exact absurd first (refused _ _)

theorem decode_iff_encoded (bytes : List UInt8) (text : String) :
    decodeUtf8 bytes = .ok text ↔ bytes = encoded text.toList := by
  have decoded := chars_iff bytes.length 0 bytes [] text.toList (Nat.le_refl _)
  rw [List.reverse_nil] at decoded
  constructor
  · intro read
    cases found : utf8Chars bytes.length 0 bytes [] with
    | error fault =>
        rw [decodeUtf8, found] at read
        cases read
    | ok chars =>
        rw [decodeUtf8, found] at read
        cases read
        rw [String.toList_ofList] at decoded ⊢
        obtain ⟨whole, rfl, same⟩ := decoded.mp found
        exact same
  · intro same
    rw [decodeUtf8, decoded.mpr ⟨text.toList, rfl, same⟩]
    simp [Except.map]

end Reckon.Text
