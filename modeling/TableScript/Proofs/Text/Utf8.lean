import TableScript.Text.Utf8

/-! Decoding what was encoded, and the bytes that decode to ASCII characters. -/
namespace TableScript.Text

theorem toNat_toUInt8_of_ascii {c : Char} (ascii : c.toNat < 128) : c.toUInt8.toNat = c.toNat := by
  rw [← Char.toUInt8_val, UInt32.toNat_toUInt8]
  exact Nat.mod_eq_of_lt (Nat.lt_trans ascii (by decide))

theorem encode_append (first second : List Char) :
    encode (first ++ second) = encode first ++ encode second :=
  List.flatMap_append

theorem decode_eq_nil_iff {bytes : List UInt8} : decode bytes = some [] ↔ bytes = [] := by
  rw [decode]
  split
  · rename_i c rest read
    have consumed : bytes ≠ [] := by
      rintro rfl
      contradiction
    cases decode rest <;> simp [consumed]
  · simp

theorem decode_eq_cons_iff {bytes : List UInt8} {c : Char} {text : List Char} :
    decode bytes = some (c :: text) ↔
      ∃ rest, decodeFirst? bytes = some (c, rest) ∧ decode rest = some text := by
  rw [decode]
  split
  · rename_i d rest read
    simp only [read, Option.map_eq_some_iff, List.cons.injEq, Option.some.injEq, Prod.mk.injEq]
    constructor
    · rintro ⟨_, decoded, rfl, rfl⟩
      exact ⟨rest, ⟨rfl, rfl⟩, decoded⟩
    · rintro ⟨_, ⟨rfl, rfl⟩, decoded⟩
      exact ⟨text, decoded, rfl, rfl⟩
  · rename_i nothing
    rw [nothing]
    split <;> simp

/-- Every text is read back from its own bytes. -/
theorem decode_encode (text : List Char) : decode (encode text) = some text := by
  induction text with
  | nil => exact decode_eq_nil_iff.mpr rfl
  | cons c text ih =>
    have first : decodeFirst? (encode (c :: text)) = some (c, encode text) :=
      decodeFirst?_utf8EncodeChar_append (encode text) c
    exact decode_eq_cons_iff.mpr ⟨encode text, first, ih⟩

theorem decodeLossy_encode (text : List Char) : decodeLossy (encode text) = text := by
  induction text with
  | nil =>
    rw [decodeLossy]
    rfl
  | cons c text ih =>
    have first : decodeFirst? (encode (c :: text)) = some (c, encode text) :=
      decodeFirst?_utf8EncodeChar_append (encode text) c
    rw [decodeLossy]
    split
    · rename_i read
      rw [first] at read
      cases read
      rw [ih]
    · rename_i read
      rw [first] at read
      contradiction

/-- A byte below 128 is the code of a character that has no other byte. -/
theorem toNat_of_mem_utf8EncodeChar {byte : UInt8} {c : Char} (member : byte ∈ String.utf8EncodeChar c) :
    byte.toNat = c.toNat ∨ 128 ≤ byte.toNat := by
  have code : c.toNat = c.val.toNat := rfl
  simp only [String.utf8EncodeChar] at member
  repeat' split at member
  all_goals
    simp only [List.mem_cons, List.not_mem_nil, or_false, ← UInt8.toNat_inj, UInt8.toNat_ofNat'] at member
    omega

/-- An ASCII character stands in a text if its byte is one of the bytes of the text. -/
theorem mem_of_mem_encode {c : Char} {text : List Char} (ascii : c.toNat < 128)
    (member : c.toUInt8 ∈ encode text) : c ∈ text := by
  obtain ⟨d, own, among⟩ := List.mem_flatMap.mp member
  have value := toNat_toUInt8_of_ascii ascii
  rcases toNat_of_mem_utf8EncodeChar among with same | beyond
  · rwa [Char.toNat_inj.mp (value.symm.trans same)]
  · omega

end TableScript.Text
