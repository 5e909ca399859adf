import TableScript.Proofs.Selection.Expression
import TableScript.Proofs.Text.Numeral
import TableScript.Selection.Print

/-! Reading undoes writing: a selection is read back from each of its texts, whatever white space stands
between its tokens and whatever zeros before its numbers. -/
namespace TableScript.Selection

open Text (cappedValue)

theorem isNumeral_numeral (zeros id : Nat) : IsNumeral (numeral zeros id) :=
  ⟨by simp [numeral, Nat.toDigits_ne_nil], fun _ => Text.isDigit_of_mem_padded⟩

theorem cappedValue_numeral {id : Nat} (word : id ≤ Text.largestWord) (zeros : Nat) :
    cappedValue (numeral zeros id) = id :=
  Text.cappedValue_padded word zeros

/-- What a list is written with after its opening bracket, up to the closing one. -/
theorem exists_itemsWritten {ids : List Nat} (nonempty : ids ≠ [])
    (words : ∀ id ∈ ids, id ≤ Text.largestWord) (zeros : Nat → Nat) (gap : Nat → List Char)
    (gaps : ∀ place, IsGap (gap place)) :
    ∃ items after, ItemsWritten cappedValue ids items ∧ IsGap after ∧
      spaced gap ((numerals zeros ids).intersperse [','] ++ [[']']]) = items ++ ']' :: after := by
  induction ids generalizing zeros gap with
  | nil => exact absurd rfl nonempty
  | cons id ids ih =>
    have value : cappedValue (numeral (zeros 0) id) = id :=
      cappedValue_numeral (words id List.mem_cons_self) (zeros 0)
    cases ids with
    | nil =>
      have written : ItemsWritten cappedValue [cappedValue (numeral (zeros 0) id)]
          (gap 0 ++ numeral (zeros 0) id ++ gap 1) :=
        .last (gaps 0) (isNumeral_numeral _ _) (gaps 1)
      rw [value] at written
      exact ⟨_, gap 2, written, gaps 2, by simp [numerals, spaced]⟩
    | cons next ids =>
      obtain ⟨items, after, others, gapAfter, whole⟩ := ih (by simp)
        (fun other member => words other (List.mem_cons_of_mem id member))
        (fun place => zeros (place + 1)) (fun place => gap (place + 2)) (fun place => gaps (place + 2))
      have written : ItemsWritten cappedValue (cappedValue (numeral (zeros 0) id) :: next :: ids)
          (gap 0 ++ numeral (zeros 0) id ++ gap 1 ++ ',' :: items) :=
        .more (gaps 0) (isNumeral_numeral _ _) (gaps 1) others
      rw [value] at written
      refine ⟨_, after, written, gapAfter, ?_⟩
      simp only [numerals, List.intersperse_cons_cons] at whole ⊢
      simp [spaced, whole]

theorem written_spaced {selection : Selection} (printable : selection.Printable) (zeros : Nat → Nat)
    (gap : Nat → List Char) (gaps : ∀ place, IsGap (gap place)) :
    Written cappedValue selection (spaced gap (selection.tokens zeros)) := by
  obtain ⟨words, nonempty⟩ := printable
  cases selection with
  | all => exact .around (gaps 0) .all (gaps 1)
  | single id =>
    have written : FormWritten cappedValue (.single (cappedValue (numeral (zeros 0) id)))
        (numeral (zeros 0) id) := .single (isNumeral_numeral _ _)
    rw [cappedValue_numeral (words id (by simp [numbers]))] at written
    exact .around (gaps 0) written (gaps 1)
  | range first last =>
    have written : FormWritten cappedValue
        (.range (cappedValue (numeral (zeros 0) first)) (cappedValue (numeral (zeros 1) last)))
        ('(' :: gap 1 ++ numeral (zeros 0) first ++ gap 2 ++ ['.', '.'] ++ gap 3 ++
          numeral (zeros 1) last ++ gap 4 ++ [')']) :=
      .range (gaps 1) (isNumeral_numeral _ _) (gaps 2) (gaps 3) (isNumeral_numeral _ _) (gaps 4)
    rw [cappedValue_numeral (words first (by simp [numbers])),
      cappedValue_numeral (words last (by simp [numbers]))] at written
    simpa [spaced, tokens] using Written.around (gaps 0) written (gaps 5)
  | list ids =>
    have some_ids : ids ≠ [] := fun empty => nonempty (congrArg Selection.list empty)
    obtain ⟨items, after, written, gapAfter, whole⟩ := exists_itemsWritten some_ids words zeros
      (fun place => gap (place + 1)) (fun place => gaps (place + 1))
    have text : spaced gap ((list ids).tokens zeros) = gap 0 ++ ('[' :: items ++ [']']) ++ after := by
      simp [tokens, spaced, whole]
    rw [text]
    exact .around (gaps 0) (.list written) gapAfter

/-- An expression is read as a selection exactly when it is a text of that selection; a text of none
is refused and named without the white space at its ends. A selection that has a text is read back
from each of its texts, whatever white space is between its tokens and zeros before its numbers. -/
theorem read_exact :
    (∀ (input : String) (selection : Selection),
      read input = .ok selection ↔ Written cappedValue selection input.toList) ∧
    (∀ input : String, (¬ ∃ selection, Written cappedValue selection input.toList) →
      read input = .error (.invalidSelection (Text.trimmed input))) ∧
    ∀ (selection : Selection) (zeros : Nat → Nat) (gap : Nat → List Char), selection.Printable →
      (∀ place, IsGap (gap place)) → read (selection.print zeros gap) = .ok selection := by
  refine ⟨fun input selection => read_eq_ok_iff, ?_, ?_⟩
  · intro input unwritten
    rw [read]
    cases found : read? input.toList with
    | none => rfl
    | some selection => exact absurd ⟨selection, read?_sound found⟩ unwritten
  · intro selection zeros gap printable gaps
    rw [read_eq_ok_iff, print, String.toList_ofList]
    exact written_spaced printable zeros gap gaps

theorem read_exact_samples :
    let gap (_ : Nat) : List Char := ['\t']
    Written cappedValue (.range 4 6) "( 04..6 )\n".toList ∧ read "( 04..6 )\n" = .ok (.range 4 6) ∧
      (¬ ∃ selection, Written cappedValue selection " [4,] ".toList) ∧
      read " [4,] " = .error (.invalidSelection "[4,]") ∧
      (list [6, 4]).Printable ∧ (∀ place, IsGap (gap place)) ∧
      read ((list [6, 4]).print (fun place => place) gap) = .ok (.list [6, 4]) := by
  intro gap
  have written : Written cappedValue (.range 4 6) "( 04..6 )\n".toList :=
    read?_sound (by decide +kernel)
  have unwritten : ¬ ∃ selection, Written cappedValue selection " [4,] ".toList := by
    rintro ⟨selection, other⟩
    have absent : read? " [4,] ".toList = none := by decide +kernel
    rw [read?_complete other] at absent
    contradiction
  have printable : (list [6, 4]).Printable := ⟨by decide, by simp⟩
  have gaps : ∀ place, IsGap (gap place) := fun _ => by simp [gap, IsGap, isGapChar]
  have named : Text.trimmed " [4,] " = "[4,]" := by decide +kernel
  refine ⟨written, (read_exact.1 _ _).mpr written, unwritten, ?_, printable, gaps,
    read_exact.2.2 _ _ gap printable gaps⟩
  rw [read_exact.2.1 _ unwritten, named]

end TableScript.Selection
