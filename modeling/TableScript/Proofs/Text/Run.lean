import Mathlib.Data.List.TakeWhile

/-! Runs of accepted characters: a text is parted where the first character stands that is not
accepted. -/
namespace TableScript.Text

theorem takeWhile_dropWhile_iff {accept : Char → Bool} {text front rest : List Char} :
    text.takeWhile accept = front ∧ text.dropWhile accept = rest ↔
      text = front ++ rest ∧ (∀ c ∈ front, accept c = true) ∧ ∀ c ∈ rest.head?, accept c = false := by
  constructor
  · rintro ⟨rfl, rfl⟩
    refine ⟨List.takeWhile_append_dropWhile.symm, fun c member => List.mem_takeWhile_imp member, ?_⟩
    intro c first
    have stops := List.head?_dropWhile_not accept text
    rw [Option.mem_def.mp first] at stops
    exact stops
  · rintro ⟨rfl, accepted, ends⟩
    rw [List.takeWhile_append_of_pos accepted, List.dropWhile_append_of_pos accepted]
    cases rest with
    | nil => simp
    | cons c rest => simp [ends c rfl]

theorem dropWhile_eq_iff {accept : Char → Bool} {text rest : List Char} :
    text.dropWhile accept = rest ↔ ∃ front, (∀ c ∈ front, accept c = true) ∧ text = front ++ rest ∧
      ∀ c ∈ rest.head?, accept c = false := by
  constructor
  · intro left
    obtain ⟨whole, accepted, ends⟩ := takeWhile_dropWhile_iff.mp ⟨rfl, left⟩
    exact ⟨text.takeWhile accept, accepted, whole, ends⟩
  · rintro ⟨front, accepted, whole, ends⟩
    exact (takeWhile_dropWhile_iff.mpr ⟨whole, accepted, ends⟩).2

end TableScript.Text
