import TableScript.Text.Alphanumeric
import TableScript.Text.Blank
import TableScript.Text.Case
import Mathlib.Tactic.IntervalCases

/-! How the character classes meet: no white space is alphanumeric, and the ASCII case maps keep
letters alphanumeric. -/
namespace TableScript.Text

private def blankCodes : List Nat :=
  [0x9, 0xa, 0xb, 0xc, 0xd, 0x20, 0x85, 0xa0, 0x1680, 0x2000, 0x2001, 0x2002, 0x2003, 0x2004,
   0x2005, 0x2006, 0x2007, 0x2008, 0x2009, 0x200a, 0x2028, 0x2029, 0x202f, 0x205f, 0x3000]

private theorem mem_blankCodes {code : Nat} (covered : covers blankSpans code = true) :
    code ∈ blankCodes := by
  obtain ⟨span, member, holds⟩ := exists_holds_of_covers covered
  simp only [Span.holds, Bool.and_eq_true, decide_eq_true_eq] at holds
  simp only [blankSpans, List.mem_cons, List.not_mem_nil, or_false] at member
  simp only [blankCodes, List.mem_cons, List.not_mem_nil, or_false]
  rcases member with rfl | rfl | rfl | rfl | rfl | rfl | rfl | rfl | rfl | rfl <;> grind

/-- White space is neither alphabetic nor a number. -/
theorem isAlphanumeric_of_isBlank {c : Char} (blank : isBlank c = true) : isAlphanumeric c = false := by
  have apart : ∀ code ∈ blankCodes, (covers alphabeticSpans code || (covers decimalSpans code ||
      covers otherNumberSpans code)) = false := by decide +kernel
  exact apart c.toNat (mem_blankCodes blank)

theorem not_isBlank_of_isDigit {c : Char} (digit : c.isDigit = true) : isBlank c = false := by
  simp only [Char.isDigit, Bool.and_eq_true, decide_eq_true_eq] at digit
  have low : 0x30 ≤ c.toNat := UInt32.le_iff_toNat_le.mp digit.1
  have high : c.toNat ≤ 0x39 := UInt32.le_iff_toNat_le.mp digit.2
  have above : ¬ c.toNat < 0x20 ∧ ¬ c.toNat ≤ 0x20 ∧ ¬ c.toNat < 9 ∧ ¬ c.toNat ≤ 0xd ∧ c.toNat < 0x85 := by
    omega
  simp [isBlank, blankSpans, covers, above]

/-- The letters of the Latin alphabet stand in the first two spans. -/
private theorem isAlphanumeric_of_latin {c : Char}
    (latin : (0x41 ≤ c.toNat ∧ c.toNat ≤ 0x5a) ∨ (0x61 ≤ c.toNat ∧ c.toNat ≤ 0x7a)) :
    isAlphanumeric c = true := by
  have letter : isAlphabetic c = true := by
    unfold isAlphabetic alphabeticSpans
    rcases latin with ⟨low, high⟩ | ⟨low, high⟩
    · simp [covers, Nat.not_lt_of_le low, high, Nat.mod_one]
    · have above : ¬ c.toNat ≤ 0x5a := by omega
      have within : ¬ c.toNat < 0x41 := by omega
      simp [covers, above, within, Nat.not_lt_of_le low, high, Nat.mod_one]
  simp [isAlphanumeric, letter]

theorem isAlphanumeric_toUpper {c : Char} (member : isAlphanumeric c = true) :
    isAlphanumeric c.toUpper = true := by
  unfold Char.toUpper
  split
  · rename_i lower
    have low : 0x61 ≤ c.val.toNat := UInt32.le_iff_toNat_le.mp lower.1
    have high : c.val.toNat ≤ 0x7a := UInt32.le_iff_toNat_le.mp lower.2
    have shifted : (c.val + ('A'.val - 'a'.val)).toNat = c.val.toNat - 0x20 := by
      rw [UInt32.toNat_add, show ('A'.val - 'a'.val).toNat = 0xffffffe0 from rfl]
      omega
    apply isAlphanumeric_of_latin
    left
    change 0x41 ≤ (c.val + ('A'.val - 'a'.val)).toNat ∧ (c.val + ('A'.val - 'a'.val)).toNat ≤ 0x5a
    omega
  · exact member

theorem isAlphanumeric_toLower {c : Char} (member : isAlphanumeric c = true) :
    isAlphanumeric c.toLower = true := by
  unfold Char.toLower
  split
  · rename_i upper
    have low : 0x41 ≤ c.val.toNat := UInt32.le_iff_toNat_le.mp upper.1
    have high : c.val.toNat ≤ 0x5a := UInt32.le_iff_toNat_le.mp upper.2
    have shifted : (c.val + ('a'.val - 'A'.val)).toNat = c.val.toNat + 0x20 := by
      rw [UInt32.toNat_add, show ('a'.val - 'A'.val).toNat = 0x20 from rfl]
      omega
    apply isAlphanumeric_of_latin
    right
    change 0x61 ≤ (c.val + ('a'.val - 'A'.val)).toNat ∧ (c.val + ('a'.val - 'A'.val)).toNat ≤ 0x7a
    omega
  · exact member

end TableScript.Text
