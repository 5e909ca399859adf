import TableScript.Model.Name
import TableScript.Proofs.Text.Character
import Mathlib.Data.List.TakeWhile

/-! Class names hold letters and numbers only, whatever the table is called: joining words drops all
other characters, and a rule for the singular keeps parts of its word and adds letters. -/
namespace TableScript.Model

theorem isAlphanumeric_of_mem_write (state : Case) (text : List Char) :
    ∀ c ∈ state.write text, Text.isAlphanumeric c = true := by
  induction text generalizing state with
  | nil => nofun
  | cons d text ih =>
    intro c member
    by_cases separates : Text.isAlphanumeric d = true
    · simp only [Case.write, Case.step, separates, Bool.not_true, Bool.false_eq_true, if_false] at member
      split at member
      · rename_i written next taken
        have kept : Text.isAlphanumeric written = true := by
          split at taken
          · cases taken
            exact separates
          · split at taken
            · cases taken
              exact Text.isAlphanumeric_toUpper separates
            · cases taken
              exact Text.isAlphanumeric_toLower separates
        rcases List.mem_cons.mp member with rfl | later
        · exact kept
        · exact ih next c later
      · exact ih _ c member
    · simp only [Case.write, Case.step, separates, Bool.not_false, if_true] at member
      exact ih _ c member

theorem isAlphanumeric_of_mem_joinWords (name : List Char) :
    ∀ c ∈ joinWords name, Text.isAlphanumeric c = true :=
  isAlphanumeric_of_mem_write _ _

theorem splitReversed?_eq_some {letters : List Letter} {reversed held before : List Char}
    (split : splitReversed? letters reversed = some (held, before)) :
    reversed = held.reverse ++ before := by
  induction letters generalizing reversed held with
  | nil =>
    cases split
    rfl
  | cons letter letters ih =>
    cases reversed with
    | nil => contradiction
    | cons c reversed =>
      simp only [splitReversed?] at split
      split at split
      · obtain ⟨⟨rest, left⟩, found, same⟩ := Option.map_eq_some_iff.mp split
        simp only [Prod.mk.injEq] at same
        obtain ⟨rfl, rfl⟩ := same
        simp [ih found]
      · contradiction

/-- What a rule makes of a word consists of characters of the word and of the rule's ending. -/
theorem mem_of_apply? {rule : Rule} {word result : List Char} (applied : rule.apply? word = some result) :
    ∀ c ∈ result, c ∈ word ∨ c ∈ rule.added.toList := by
  obtain ⟨dropped, _, applied⟩ := List.exists_of_findSome?_eq_some applied
  split at applied
  · contradiction
  · rename_i ending reversed found
    obtain ⟨kept, _, applied⟩ := List.exists_of_findSome?_eq_some applied
    split at applied
    · contradiction
    · rename_i held before taken
      have outer := splitReversed?_eq_some found
      have inner := splitReversed?_eq_some taken
      have inside : ∀ c, c ∈ held ∨ c ∈ before → c ∈ word := by
        intro c member
        rw [← List.mem_reverse, outer, inner]
        rcases member with first | last
        · simp [first]
        · simp [last]
      obtain rfl := Option.some.inj applied
      intro c member
      simp only [List.mem_append] at member
      rcases member with (run | kept) | added
      · split at run
        · exact .inl (inside c (.inr ((List.takeWhile_sublist _).subset (List.mem_reverse.mp run))))
        · contradiction
      · exact .inl (inside c (.inl kept))
      · exact .inr added

theorem isAlphanumeric_of_mem_singular {word : List Char}
    (alphanumeric : ∀ c ∈ word, Text.isAlphanumeric c = true) :
    ∀ c ∈ singular word, Text.isAlphanumeric c = true := by
  have endings : ∀ rule ∈ singularRules, rule.added.toList.all Text.isAlphanumeric = true := by decide
  intro c member
  unfold singular at member
  cases applied : singularRules.findSome? fun rule => rule.apply? word with
  | none =>
    rw [applied] at member
    exact alphanumeric c member
  | some result =>
    rw [applied] at member
    obtain ⟨rule, present, made⟩ := List.exists_of_findSome?_eq_some applied
    rcases mem_of_apply? made c member with old | added
    · exact alphanumeric c old
    · exact List.all_eq_true.mp (endings rule present) c added

theorem splitLastWord_append (text : List Char) :
    (splitLastWord text).1 ++ (splitLastWord text).2 = text := by
  have whole := congrArg List.reverse
    (List.takeWhile_append_dropWhile (p := fun c => !Text.isUppercase c) (l := text.reverse))
  rw [List.reverse_append, List.reverse_reverse] at whole
  unfold splitLastWord
  split
  · rename_i none
    rw [none] at whole
    exact whole
  · rename_i capital before found
    rw [found] at whole
    simpa using whole

theorem isAlphanumeric_of_mem_className (table : String) :
    ∀ c ∈ (className table).toList, Text.isAlphanumeric c = true := by
  have joined := isAlphanumeric_of_mem_joinWords table.toList
  have parts : ∀ c ∈ (splitLastWord (joinWords table.toList)).1 ++
      (splitLastWord (joinWords table.toList)).2, c ∈ joinWords table.toList := by
    rw [splitLastWord_append]
    exact fun _ member => member
  intro c member
  simp only [className, String.toList_ofList, List.mem_append] at member
  rcases member with before | word
  · exact joined c (parts c (List.mem_append_left _ before))
  · exact isAlphanumeric_of_mem_singular
      (fun d inside => joined d (parts d (List.mem_append_right _ inside))) c word

end TableScript.Model
