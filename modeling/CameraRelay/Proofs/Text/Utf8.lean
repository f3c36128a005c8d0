import CameraRelay.Text.Utf8

/-!
# Text from bytes and back

Of the bytes of a text the text is read, whatever follows them. Other bytes do not pass for a text:
what is read without a U+FFFD was sent as its UTF-8 encoding. Main statements: `decodeLossy_encode`,
`encode_decodeLossy`.
-/

namespace CameraRelay.Text

open String (utf8EncodeChar)

/-! ### What a first byte begins -/

theorem leadOf_whole {byte : Nat} (high : byte < 0x80) : leadOf byte = .whole (Char.ofNat byte) :=
  if_pos high

theorem leadOf_two {byte : Nat} (low : 0xc2 ≤ byte) (high : byte < 0xe0) :
    leadOf byte = .begins ⟨1, 0x80, 0xbf, byte - 0xc0⟩ := by
  rw [leadOf, if_neg (by omega), if_neg (by omega), if_pos high]

theorem leadOf_three {byte : Nat} (low : 0xe0 ≤ byte) (high : byte < 0xf0) :
    leadOf byte = .begins ⟨2, if byte = 0xe0 then 0xa0 else 0x80,
      if byte = 0xed then 0x9f else 0xbf, byte - 0xe0⟩ := by
  rw [leadOf, if_neg (by omega), if_neg (by omega), if_neg (by omega)]
  by_cases first : byte = 0xe0
  · simp [first]
  · by_cases surrogates : byte = 0xed
    · simp [surrogates]
    · simp [first, surrogates, high]

theorem within_three {lead next : Nat} :
    ((if lead = 0xe0 then 0xa0 else 0x80) ≤ next ∧ next ≤ if lead = 0xed then 0x9f else 0xbf) ↔
      0x80 ≤ next ∧ next ≤ 0xbf ∧ (lead = 0xe0 → 0xa0 ≤ next) ∧ (lead = 0xed → next ≤ 0x9f) := by
  split <;> split <;> omega

theorem leadOf_four {byte : Nat} (low : 0xf0 ≤ byte) (high : byte < 0xf5) :
    leadOf byte = .begins ⟨3, if byte = 0xf0 then 0x90 else 0x80,
      if byte = 0xf4 then 0x8f else 0xbf, byte - 0xf0⟩ := by
  rw [leadOf, if_neg (by omega), if_neg (by omega), if_neg (by omega), if_neg (by omega),
    if_neg (by omega), if_neg (by omega)]
  by_cases first : byte = 0xf0
  · simp [first]
  · by_cases last : byte = 0xf4
    · simp [last]
    · rw [if_neg first, if_pos (by omega), if_neg first, if_neg last]

theorem within_four {lead next : Nat} :
    ((if lead = 0xf0 then 0x90 else 0x80) ≤ next ∧ next ≤ if lead = 0xf4 then 0x8f else 0xbf) ↔
      0x80 ≤ next ∧ next ≤ 0xbf ∧ (lead = 0xf0 → 0x90 ≤ next) ∧ (lead = 0xf4 → next ≤ 0x8f) := by
  split <;> split <;> omega

theorem leadOf_invalid {byte : Nat} (low : 0x80 ≤ byte) (outside : byte < 0xc2 ∨ 0xf5 ≤ byte) :
    leadOf byte = .invalid := by
  unfold leadOf
  rcases outside with high | high
  · rw [if_neg (by omega), if_pos high]
  · repeat rw [if_neg (by omega)]

/-! ### What is read of the bytes of one character -/

variable {byte : UInt8} {begun : PartialChar} {low high bits : Nat}

theorem decodeFrom_whole (lead : byte.toNat < 0x80) (rest : Bytes) :
    decodeFrom none (byte :: rest) = Char.ofNat byte.toNat :: decodeFrom none rest := by
  simp [decodeFrom, readByte, readLead, leadOf_whole lead]

theorem decodeFrom_begins (lead : leadOf byte.toNat = .begins begun) (rest : Bytes) :
    decodeFrom none (byte :: rest) = decodeFrom (some begun) rest := by
  simp [decodeFrom, readByte, readLead, lead]

theorem decodeFrom_next (missing : Nat) (within : low ≤ byte.toNat ∧ byte.toNat ≤ high)
    (rest : Bytes) :
    decodeFrom (some ⟨missing + 2, low, high, bits⟩) (byte :: rest) =
      decodeFrom (some ⟨missing + 1, 0x80, 0xbf, bits * 64 + (byte.toNat - 0x80)⟩) rest := by
  simp [decodeFrom, readByte, within]

theorem decodeFrom_last (within : low ≤ byte.toNat ∧ byte.toNat ≤ high) (rest : Bytes) :
    decodeFrom (some ⟨1, low, high, bits⟩) (byte :: rest) =
      Char.ofNat (bits * 64 + (byte.toNat - 0x80)) :: decodeFrom none rest := by
  simp [decodeFrom, readByte, within]

/-- A character that was begun goes on, unless it is given up for a U+FFFD. -/
theorem exists_next {rest : Bytes} (clean : replacement ∉ decodeFrom (some begun) rest) :
    ∃ byte later, rest = byte :: later ∧ begun.low ≤ byte.toNat ∧ byte.toNat ≤ begun.high := by
  cases rest with
  | nil => simp [decodeFrom] at clean
  | cons byte later =>
    refine ⟨byte, later, rfl, Decidable.byContradiction fun outside => clean ?_⟩
    simp [decodeFrom, readByte, outside]

/-! ### One character -/

theorem toNat_ofNat {n : Nat} (small : n < 256) : (UInt8.ofNat n).toNat = n :=
  UInt8.toNat_ofNat_of_lt' small

theorem ofNat_eq {n : Nat} (same : n = byte.toNat) : UInt8.ofNat n = byte := by
  rw [same, UInt8.ofNat_toNat]

/-- The bytes of a character are read as the character, whatever follows them. -/
theorem decodeFrom_utf8EncodeChar (c : Char) (rest : Bytes) :
    decodeFrom none (utf8EncodeChar c ++ rest) = c :: decodeFrom none rest := by
  have valid : c.toNat < 0xd800 ∨ 0xdfff < c.toNat ∧ c.toNat < 0x110000 := c.valid
  have back : Char.ofNat c.toNat = c := c.ofNat_toNat
  have number : c.val.toNat = c.toNat := rfl
  simp only [utf8EncodeChar, number]
  generalize c.toNat = v at valid back ⊢
  split
  · have lead := toNat_ofNat (show v < 256 by omega)
    rw [List.singleton_append, decodeFrom_whole (by omega), lead, back]
  split
  · have lead := toNat_ofNat (show v / 64 % 32 + 192 < 256 by omega)
    have last := toNat_ofNat (show v % 64 + 128 < 256 by omega)
    have bits : (v / 64 % 32 + 192 - 0xc0) * 64 + (v % 64 + 128 - 0x80) = v := by omega
    simp only [List.cons_append, List.nil_append]
    rw [decodeFrom_begins (leadOf_two (by omega) (by omega)), decodeFrom_last (by omega), lead,
      last, bits, back]
  split
  · have lead := toNat_ofNat (show v / 4096 % 16 + 224 < 256 by omega)
    have second := toNat_ofNat (show v / 64 % 64 + 128 < 256 by omega)
    have last := toNat_ofNat (show v % 64 + 128 < 256 by omega)
    have bits : ((v / 4096 % 16 + 224 - 0xe0) * 64 + (v / 64 % 64 + 128 - 0x80)) * 64 +
        (v % 64 + 128 - 0x80) = v := by omega
    simp only [List.cons_append, List.nil_append]
    -- Behind 0xED there is room for no surrogate, and none is encoded.
    rw [decodeFrom_begins (leadOf_three (by omega) (by omega)),
      decodeFrom_next 0 (within_three.mpr (by omega)), decodeFrom_last (by omega), lead, second,
      last, bits, back]
  · have lead := toNat_ofNat (show v / 262144 % 8 + 240 < 256 by omega)
    have second := toNat_ofNat (show v / 4096 % 64 + 128 < 256 by omega)
    have third := toNat_ofNat (show v / 64 % 64 + 128 < 256 by omega)
    have last := toNat_ofNat (show v % 64 + 128 < 256 by omega)
    have bits : (((v / 262144 % 8 + 240 - 0xf0) * 64 + (v / 4096 % 64 + 128 - 0x80)) * 64 +
        (v / 64 % 64 + 128 - 0x80)) * 64 + (v % 64 + 128 - 0x80) = v := by omega
    simp only [List.cons_append, List.nil_append]
    rw [decodeFrom_begins (leadOf_four (by omega) (by omega)),
      decodeFrom_next 1 (within_four.mpr (by omega)), decodeFrom_next 0 (by omega),
      decodeFrom_last (by omega), lead, second, third, last, bits, back]

theorem utf8EncodeChar_ofNat {v : Nat} (valid : v.isValidChar) :
    utf8EncodeChar (Char.ofNat v) =
      if v ≤ 0x7f then [UInt8.ofNat v]
      else if v ≤ 0x7ff then [UInt8.ofNat (v / 64 % 32 + 192), UInt8.ofNat (v % 64 + 128)]
      else if v ≤ 0xffff then
        [UInt8.ofNat (v / 4096 % 16 + 224), UInt8.ofNat (v / 64 % 64 + 128),
          UInt8.ofNat (v % 64 + 128)]
      else
        [UInt8.ofNat (v / 262144 % 8 + 240), UInt8.ofNat (v / 4096 % 64 + 128),
          UInt8.ofNat (v / 64 % 64 + 128), UInt8.ofNat (v % 64 + 128)] := by
  have number : (Char.ofNat v).val.toNat = v := by
    rw [Char.ofNat, dif_pos valid]
    rfl
  simp only [utf8EncodeChar, number]

theorem encodes_two {lead last : UInt8} (low : 0xc2 ≤ lead.toNat) (high : lead.toNat < 0xe0)
    (within : 0x80 ≤ last.toNat ∧ last.toNat ≤ 0xbf) :
    ∃ c, utf8EncodeChar c = [lead, last] := by
  generalize number : (lead.toNat - 0xc0) * 64 + (last.toNat - 0x80) = v
  have lead' : UInt8.ofNat (v / 64 % 32 + 192) = lead := ofNat_eq (by omega)
  have last' : UInt8.ofNat (v % 64 + 128) = last := ofNat_eq (by omega)
  refine ⟨Char.ofNat v, ?_⟩
  rw [utf8EncodeChar_ofNat (.inl (by omega)), if_neg (by omega), if_pos (by omega), lead', last']

theorem encodes_three {lead second last : UInt8} (low : 0xe0 ≤ lead.toNat)
    (high : lead.toNat < 0xf0)
    (within : 0x80 ≤ second.toNat ∧ second.toNat ≤ 0xbf ∧
      (lead.toNat = 0xe0 → 0xa0 ≤ second.toNat) ∧ (lead.toNat = 0xed → second.toNat ≤ 0x9f))
    (within' : 0x80 ≤ last.toNat ∧ last.toNat ≤ 0xbf) :
    ∃ c, utf8EncodeChar c = [lead, second, last] := by
  generalize number : ((lead.toNat - 0xe0) * 64 + (second.toNat - 0x80)) * 64 +
    (last.toNat - 0x80) = v
  have valid : v.isValidChar := by
    unfold Nat.isValidChar
    omega
  have lead' : UInt8.ofNat (v / 4096 % 16 + 224) = lead := ofNat_eq (by omega)
  have second' : UInt8.ofNat (v / 64 % 64 + 128) = second := ofNat_eq (by omega)
  have last' : UInt8.ofNat (v % 64 + 128) = last := ofNat_eq (by omega)
  refine ⟨Char.ofNat v, ?_⟩
  rw [utf8EncodeChar_ofNat valid, if_neg (by omega), if_neg (by omega), if_pos (by omega), lead',
    second', last']

theorem encodes_four {lead second third last : UInt8} (low : 0xf0 ≤ lead.toNat)
    (high : lead.toNat < 0xf5)
    (within : 0x80 ≤ second.toNat ∧ second.toNat ≤ 0xbf ∧
      (lead.toNat = 0xf0 → 0x90 ≤ second.toNat) ∧ (lead.toNat = 0xf4 → second.toNat ≤ 0x8f))
    (within' : 0x80 ≤ third.toNat ∧ third.toNat ≤ 0xbf)
    (within'' : 0x80 ≤ last.toNat ∧ last.toNat ≤ 0xbf) :
    ∃ c, utf8EncodeChar c = [lead, second, third, last] := by
  generalize number : (((lead.toNat - 0xf0) * 64 + (second.toNat - 0x80)) * 64 +
    (third.toNat - 0x80)) * 64 + (last.toNat - 0x80) = v
  have valid : v.isValidChar := by
    unfold Nat.isValidChar
    omega
  have lead' : UInt8.ofNat (v / 262144 % 8 + 240) = lead := ofNat_eq (by omega)
  have second' : UInt8.ofNat (v / 4096 % 64 + 128) = second := ofNat_eq (by omega)
  have third' : UInt8.ofNat (v / 64 % 64 + 128) = third := ofNat_eq (by omega)
  have last' : UInt8.ofNat (v % 64 + 128) = last := ofNat_eq (by omega)
  refine ⟨Char.ofNat v, ?_⟩
  rw [utf8EncodeChar_ofNat valid, if_neg (by omega), if_neg (by omega), if_neg (by omega), lead',
    second', third', last']

/-- Bytes that are read without a U+FFFD begin with those of a character. -/
theorem exists_char {bytes : Bytes} (nonempty : bytes ≠ [])
    (clean : replacement ∉ decodeFrom none bytes) :
    ∃ c rest, bytes = utf8EncodeChar c ++ rest := by
  obtain ⟨lead, rest, rfl⟩ := List.exists_cons_of_ne_nil nonempty
  -- The first byte says how many there are, unless none begins with it.
  by_cases one : lead.toNat < 0x80
  · refine ⟨Char.ofNat lead.toNat, rest, ?_⟩
    rw [utf8EncodeChar_ofNat (.inl (by omega)), if_pos (by omega), UInt8.ofNat_toNat]
    rfl
  by_cases outside : lead.toNat < 0xc2 ∨ 0xf5 ≤ lead.toNat
  · refine absurd ?_ clean
    simp [decodeFrom, readByte, readLead, leadOf_invalid (by omega) outside]
  by_cases two : lead.toNat < 0xe0
  · rw [decodeFrom_begins (leadOf_two (by omega) two)] at clean
    obtain ⟨last, rest, rfl, within⟩ := exists_next clean
    obtain ⟨c, same⟩ := encodes_two (by omega) two within
    exact ⟨c, rest, by rw [same]; rfl⟩
  by_cases three : lead.toNat < 0xf0
  · rw [decodeFrom_begins (leadOf_three (by omega) three)] at clean
    obtain ⟨second, rest, rfl, within⟩ := exists_next clean
    rw [decodeFrom_next 0 within] at clean
    obtain ⟨last, rest, rfl, within'⟩ := exists_next clean
    obtain ⟨c, same⟩ := encodes_three (by omega) three (within_three.mp within) within'
    exact ⟨c, rest, by rw [same]; rfl⟩
  · rw [decodeFrom_begins (leadOf_four (by omega) (by omega))] at clean
    obtain ⟨second, rest, rfl, within⟩ := exists_next clean
    rw [decodeFrom_next 1 within] at clean
    obtain ⟨third, rest, rfl, within'⟩ := exists_next clean
    rw [decodeFrom_next 0 within'] at clean
    obtain ⟨last, rest, rfl, within''⟩ := exists_next clean
    obtain ⟨c, same⟩ :=
      encodes_four (by omega) (by omega) (within_four.mp within) within' within''
    exact ⟨c, rest, by rw [same]; rfl⟩

/-! ### Texts -/

/-- Of the bytes of a text the text is read, whatever follows them. -/
theorem decodeLossy_append (text : List Char) (rest : Bytes) :
    decodeLossy (text.flatMap utf8EncodeChar ++ rest) = text ++ decodeLossy rest := by
  induction text with
  | nil => rfl
  | cons c text ih =>
    rw [List.flatMap_cons, List.append_assoc, List.cons_append, ← ih]
    exact decodeFrom_utf8EncodeChar c _

theorem decodeLossy_encode (text : List Char) :
    decodeLossy (text.flatMap utf8EncodeChar) = text := by
  have all := decodeLossy_append text []
  rw [List.append_nil] at all
  exact all.trans (List.append_nil text)

/-- What is read without a U+FFFD is what was sent. -/
theorem encode_decodeLossy {bytes : Bytes} (clean : replacement ∉ decodeLossy bytes) :
    (decodeLossy bytes).flatMap utf8EncodeChar = bytes := by
  by_cases nothing : bytes = []
  · rw [nothing]
    rfl
  · obtain ⟨c, rest, split⟩ := exists_char nothing clean
    have read : decodeLossy bytes = c :: decodeLossy rest := by
      rw [split]
      exact decodeFrom_utf8EncodeChar c rest
    have shorter : rest.length < bytes.length := by
      have one := String.length_utf8EncodeChar c
      have size := c.utf8Size_pos
      rw [split, List.length_append]
      omega
    have later : replacement ∉ decodeLossy rest := fun mem => clean (by simp [read, mem])
    rw [read, List.flatMap_cons, encode_decodeLossy later, split]
termination_by bytes.length

end CameraRelay.Text
