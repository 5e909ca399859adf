/-! The UTF-8 form of a text. Decoding refuses overlong forms, surrogates, values above the last
code point and sequences that are cut short. -/
namespace TableScript.Text

def encode (text : List Char) : List UInt8 := text.flatMap String.utf8EncodeChar

private def isFollower (byte : UInt8) : Bool := 0x80 ≤ byte && byte ≤ 0xbf

private def payload (byte : UInt8) : Nat := byte.toNat % 64

private def isSecondOfThree (first second : UInt8) : Bool :=
  isFollower second && (first != 0xe0 || 0xa0 ≤ second) && (first != 0xed || second ≤ 0x9f)

private def isSecondOfFour (first second : UInt8) : Bool :=
  isFollower second && (first != 0xf0 || 0x90 ≤ second) && (first != 0xf4 || second ≤ 0x8f)

def decodeFirst? : List UInt8 → Option (Char × List UInt8)
  | [] => none
  | a :: rest =>
    if a < 0x80 then some (Char.ofNat a.toNat, rest)
    else if 0xc2 ≤ a && a ≤ 0xdf then
      match rest with
      | b :: rest =>
        if isFollower b then some (Char.ofNat (a.toNat % 32 * 64 + payload b), rest) else none
      | _ => none
    else if 0xe0 ≤ a && a ≤ 0xef then
      match rest with
      | b :: c :: rest =>
        if isSecondOfThree a b && isFollower c then
          some (Char.ofNat ((a.toNat % 16 * 64 + payload b) * 64 + payload c), rest)
        else none
      | _ => none
    else if 0xf0 ≤ a && a ≤ 0xf4 then
      match rest with
      | b :: c :: d :: rest =>
        if isSecondOfFour a b && isFollower c && isFollower d then
          some (Char.ofNat (((a.toNat % 8 * 64 + payload b) * 64 + payload c) * 64 + payload d), rest)
        else none
      | _ => none
    else none

/-- What is left after the first character is shorter. -/
theorem length_lt_of_decodeFirst? {bytes rest : List UInt8} {c : Char}
    (read : decodeFirst? bytes = some (c, rest)) : rest.length < bytes.length := by
  unfold decodeFirst? at read
  repeat' split at read
  all_goals first
    | contradiction
    | (simp only [Option.some.injEq, Prod.mk.injEq] at read
       obtain ⟨_, rfl⟩ := read
       simp only [List.length_cons]
       omega)

theorem toNat_ofNat {code : Nat} (valid : code.isValidChar) : (Char.ofNat code).toNat = code := by
  rw [Char.ofNat, dif_pos valid]
  exact UInt32.toNat_ofNatLT

section Reading

variable {code : Nat} {a b c d : UInt8} (rest : List UInt8)

private theorem toNat_byte {value : Nat} (small : value < 256) : (UInt8.ofNat value).toNat = value :=
  UInt8.toNat_ofNat_of_lt' small

private theorem decodeFirst?_one (low : code < 0x80) (first : a.toNat = code) :
    decodeFirst? (a :: rest) = some (Char.ofNat code, rest) := by
  have small : a < 0x80 := by rwa [UInt8.lt_iff_toNat_lt, first]
  simp [decodeFirst?, small, first]

private theorem decodeFirst?_two (low : 0x80 ≤ code) (high : code < 0x800)
    (first : a.toNat = code / 64 + 0xc0) (second : b.toNat = code % 64 + 0x80) :
    decodeFirst? (a :: b :: rest) = some (Char.ofNat code, rest) := by
  have value : a.toNat % 32 * 64 + payload b = code := by
    unfold payload
    omega
  have leads : ¬ a < 0x80 ∧ 0xc2 ≤ a ∧ a ≤ 0xdf := by
    simp only [UInt8.lt_iff_toNat_lt, UInt8.le_iff_toNat_le, UInt8.reduceToNat]
    omega
  have follows : isFollower b = true := by
    simp only [isFollower, Bool.and_eq_true, decide_eq_true_eq, UInt8.le_iff_toNat_le, UInt8.reduceToNat]
    omega
  simp [decodeFirst?, leads, follows, value]

private theorem decodeFirst?_three (low : 0x800 ≤ code) (high : code < 0x10000)
    (noSurrogate : code < 0xd800 ∨ 0xdfff < code) (first : a.toNat = code / 4096 + 0xe0)
    (second : b.toNat = code / 64 % 64 + 0x80) (third : c.toNat = code % 64 + 0x80) :
    decodeFirst? (a :: b :: c :: rest) = some (Char.ofNat code, rest) := by
  have value : (a.toNat % 16 * 64 + payload b) * 64 + payload c = code := by
    unfold payload
    omega
  have leads : ¬ a < 0x80 ∧ ¬ a ≤ 0xdf ∧ 0xe0 ≤ a ∧ a ≤ 0xef := by
    simp only [UInt8.lt_iff_toNat_lt, UInt8.le_iff_toNat_le, UInt8.reduceToNat]
    omega
  have follows : isSecondOfThree a b = true ∧ isFollower c = true := by
    simp only [isSecondOfThree, isFollower, Bool.and_eq_true, Bool.or_eq_true, bne_iff_ne, ne_eq,
      decide_eq_true_eq, UInt8.le_iff_toNat_le, ← UInt8.toNat_inj, UInt8.reduceToNat]
    omega
  simp [decodeFirst?, leads, follows, value]

private theorem decodeFirst?_four (low : 0x10000 ≤ code) (high : code < 0x110000)
    (first : a.toNat = code / 262144 + 0xf0) (second : b.toNat = code / 4096 % 64 + 0x80)
    (third : c.toNat = code / 64 % 64 + 0x80) (fourth : d.toNat = code % 64 + 0x80) :
    decodeFirst? (a :: b :: c :: d :: rest) = some (Char.ofNat code, rest) := by
  have value : ((a.toNat % 8 * 64 + payload b) * 64 + payload c) * 64 + payload d = code := by
    unfold payload
    omega
  have leads : ¬ a < 0x80 ∧ ¬ a ≤ 0xdf ∧ ¬ a ≤ 0xef ∧ 0xf0 ≤ a ∧ a ≤ 0xf4 := by
    simp only [UInt8.lt_iff_toNat_lt, UInt8.le_iff_toNat_le, UInt8.reduceToNat]
    omega
  have follows : isSecondOfFour a b = true ∧ isFollower c = true ∧ isFollower d = true := by
    simp only [isSecondOfFour, isFollower, Bool.and_eq_true, Bool.or_eq_true, bne_iff_ne, ne_eq,
      decide_eq_true_eq, UInt8.le_iff_toNat_le, ← UInt8.toNat_inj, UInt8.reduceToNat]
    omega
  simp [decodeFirst?, leads, follows, value]

/-- A character is read back from its own bytes, whatever follows them. -/
theorem decodeFirst?_utf8EncodeChar_append (character : Char) :
    decodeFirst? (String.utf8EncodeChar character ++ rest) = some (character, rest) := by
  have valid := character.valid
  rw [UInt32.isValidChar, Nat.isValidChar] at valid
  have same : Char.ofNat character.val.toNat = character := Char.ofNat_toNat character
  unfold String.utf8EncodeChar
  generalize character.val.toNat = code at valid same
  subst same
  simp only
  split
  · exact decodeFirst?_one rest (by omega) (toNat_byte (by omega))
  split
  · refine decodeFirst?_two rest (by omega) (by omega) ?_ ?_ <;> rw [toNat_byte] <;> omega
  split
  · refine decodeFirst?_three rest (by omega) (by omega) (by omega) ?_ ?_ ?_ <;> rw [toNat_byte] <;> omega
  · refine decodeFirst?_four rest (by omega) (by omega) ?_ ?_ ?_ ?_ <;> rw [toNat_byte] <;> omega

end Reading

def decode (bytes : List UInt8) : Option (List Char) :=
  match _read : decodeFirst? bytes with
  | some (c, rest) => (decode rest).map (c :: ·)
  | none => if bytes = [] then some [] else none
termination_by bytes.length
decreasing_by exact length_lt_of_decodeFirst? _read

def brokenTail (first : UInt8) (rest : List UInt8) : Nat :=
  match rest with
  | second :: rest =>
    if 0xe0 ≤ first && first ≤ 0xef then if isSecondOfThree first second then 1 else 0
    else if 0xf0 ≤ first && first ≤ 0xf4 && isSecondOfFour first second then
      if rest.head?.any isFollower then 2 else 1
    else 0
  | [] => 0

/-- A readable form of any bytes: what begins no character shows as U+FFFD, one for each longest run
of bytes that a character could begin with, or for a single byte. -/
def decodeLossy (bytes : List UInt8) : List Char :=
  match _read : decodeFirst? bytes with
  | some (c, rest) => c :: decodeLossy rest
  | none => match bytes with
    | [] => []
    | first :: rest => '\uFFFD' :: decodeLossy (rest.drop (brokenTail first rest))
termination_by bytes.length
decreasing_by
  · exact length_lt_of_decodeFirst? _read
  · simp only [List.length_drop, List.length_cons]
    omega

def decodeString (bytes : List UInt8) : Option String := (decode bytes).map String.ofList

def encodeString (text : String) : List UInt8 := encode text.toList

end TableScript.Text
