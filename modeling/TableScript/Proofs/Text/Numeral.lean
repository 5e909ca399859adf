import TableScript.Proofs.Text.Character
import TableScript.Proofs.Text.Trim
import TableScript.Text.Numeral

/-! The value of a numeral is the number that its digits write, whatever zeros stand before them. -/
namespace TableScript.Text

theorem decimalValue_eq_ofDigitChars (digits : List Char) :
    decimalValue digits = Nat.ofDigitChars 10 digits 0 := by
  rw [decimalValue, Nat.ofDigitChars]
  congr 1
  funext value digit
  rw [Nat.mul_comm]

theorem decimalValue_padded (zeros number : Nat) :
    decimalValue (List.replicate zeros '0' ++ Nat.toDigits 10 number) = number := by
  rw [decimalValue_eq_ofDigitChars, Nat.ofDigitChars_append, Nat.ofDigitChars_replicate_zero,
    Nat.mul_zero, Nat.ofDigitChars_toDigits (by decide) (by decide)]

theorem cappedValue_padded {number : Nat} (fits : number ≤ largestWord) (zeros : Nat) :
    cappedValue (List.replicate zeros '0' ++ Nat.toDigits 10 number) = number := by
  rw [cappedValue, decimalValue_padded, Nat.min_eq_left fits]

theorem isDigit_of_mem_padded {zeros number : Nat} {c : Char}
    (member : c ∈ List.replicate zeros '0' ++ Nat.toDigits 10 number) : c.isDigit = true := by
  rcases List.mem_append.mp member with zero | digit
  · rw [List.eq_of_mem_replicate zero]
    rfl
  · exact Nat.isDigit_of_mem_toDigits (by decide) (by decide) digit

theorem readWord?_eq_some_iff {text : List Char} {number : Nat} :
    readWord? text = some number ↔ SignedNumeral number text ∧ number ≤ largestWord := by
  have value_iff (digits : List Char) :
      (if digits ≠ [] ∧ digits.all Char.isDigit = true ∧ decimalValue digits ≤ largestWord then
        some (decimalValue digits) else none) = some number ↔
      (digits ≠ [] ∧ (∀ c ∈ digits, c.isDigit = true) ∧ decimalValue digits = number) ∧
        number ≤ largestWord := by
    rw [Option.ite_none_right_eq_some, Option.some.injEq, List.all_eq_true]
    constructor
    · rintro ⟨⟨nonempty, ascii, fits⟩, rfl⟩
      exact ⟨⟨nonempty, ascii, rfl⟩, fits⟩
    · rintro ⟨⟨nonempty, ascii, rfl⟩, fits⟩
      exact ⟨⟨nonempty, ascii, fits⟩, rfl⟩
  unfold readWord?
  rw [value_iff]
  refine and_congr_left fun _ => ?_
  split
  · constructor
    · rintro ⟨nonempty, ascii, rfl⟩
      exact .signed nonempty ascii
    · intro written
      cases written with
      | signed nonempty ascii => exact ⟨nonempty, ascii, rfl⟩
      | unsigned _ ascii =>
        have digit := ascii '+' List.mem_cons_self
        contradiction
  · rename_i plain
    constructor
    · rintro ⟨nonempty, ascii, rfl⟩
      exact .unsigned nonempty ascii
    · intro written
      cases written with
      | signed => exact absurd rfl (plain _)
      | unsigned nonempty ascii => exact ⟨nonempty, ascii, rfl⟩

theorem SignedNumeral.tight {number : Nat} {text : List Char} (written : SignedNumeral number text) :
    Tight text := by
  cases written with
  | unsigned some ascii => exact .of_solid some fun c member => not_isBlank_of_isDigit (ascii c member)
  | signed _ ascii =>
    refine .of_solid (List.cons_ne_nil _ _) (List.forall_mem_cons.mpr ⟨by decide, ?_⟩)
    exact fun c member => not_isBlank_of_isDigit (ascii c member)

end TableScript.Text
