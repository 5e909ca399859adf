import TableScript.Selection.Enumeration
import Mathlib.Data.List.Nodup

/-! Resolving a selection agrees with looking at its numbers one by one. A range is resolved by its
two bounds alone; that its first missing number is then known without enumerating it is the main
step here. -/
namespace TableScript.Selection

private theorem foldl_keepFirst (ids seen : List Nat) :
    ids.foldl (fun seen id => if id ∈ seen then seen else seen ++ [id]) seen =
      seen ++ (ids.filter (· ∉ seen)).eraseDups := by
  induction ids generalizing seen with
  | nil => simp
  | cons id ids ih =>
    rw [List.foldl_cons, ih]
    by_cases member : id ∈ seen
    · simp [member]
    · have later : ids.filter (· ∉ seen ++ [id]) =
          (ids.filter (· ∉ seen)).filter fun other => !other == id := by
        rw [List.filter_filter]
        apply List.filter_congr
        intro other _
        simp [Bool.and_comm, Bool.beq_eq_decide_eq]
      simp only [member, if_false, not_false_eq_true, decide_true, List.filter_cons_of_pos,
        List.eraseDups_cons, later, List.append_assoc, List.singleton_append]

theorem firstOccurrences_eq_eraseDups (ids : List Nat) : firstOccurrences ids = ids.eraseDups := by
  rw [firstOccurrences, foldl_keepFirst]
  simp

private theorem eraseDups_of_nodup {ids : List Nat} (distinct : ids.Nodup) : ids.eraseDups = ids := by
  induction ids with
  | nil => rfl
  | cons id ids ih =>
    obtain ⟨absent, rest⟩ := List.nodup_cons.mp distinct
    have kept : ids.filter (fun other => !other == id) = ids := by
      rw [List.filter_eq_self]
      intro other member
      simpa using fun same : other = id => absent (same ▸ member)
    rw [List.eraseDups_cons, kept, ih rest]

/-- Leaving out repetitions does not change which element with a property comes first. -/
theorem find?_eraseDups (p : Nat → Bool) (ids : List Nat) :
    ids.eraseDups.find? p = ids.find? p := by
  match ids with
  | [] => rfl
  | id :: ids =>
    rw [List.eraseDups_cons, List.find?_cons, List.find?_cons]
    by_cases found : p id
    · simp [found]
    · simp only [found]
      rw [find?_eraseDups p (ids.filter _), List.find?_filter]
      congr 1
      funext other
      by_cases same : other = id
      · simp [same, found]
      · simp [same]
termination_by ids.length
decreasing_by
  exact Nat.lt_succ_of_le (List.length_filter_le _ _)

theorem not_contains_eq (catalogue : Catalogue) (id : Nat) :
    (!catalogue.contains id) = decide (id = 0 ∨ catalogue.size < id) := by
  rw [Bool.eq_iff_iff, Bool.not_eq_true', Bool.eq_false_iff, Ne, Catalogue.contains_iff,
    decide_eq_true_eq]
  omega

/-- Checking the numbers of a selection, each once, gives the plain outcome. -/
theorem checked_enumerated (selection : Selection) (catalogue : Catalogue) (input : String) :
    checked catalogue (Text.trimmed input) (selection.enumerated catalogue.size).eraseDups =
      outcome.ofEnumerated catalogue.size input selection := by
  have absent : (fun id => !catalogue.contains id) =
      fun id => decide (id = 0 ∨ catalogue.size < id) :=
    funext (not_contains_eq catalogue)
  have none_left : (selection.enumerated catalogue.size).eraseDups = [] ↔
      selection.enumerated catalogue.size = [] := by
    cases selection.enumerated catalogue.size with
    | nil => simp
    | cons id ids => simp [List.eraseDups_cons]
  cases missing : (selection.enumerated catalogue.size).find? fun id =>
      decide (id = 0 ∨ catalogue.size < id) with
  | some id => simp only [checked, outcome.ofEnumerated, find?_eraseDups, absent, missing]
  | none =>
    simp only [checked, outcome.ofEnumerated, find?_eraseDups, absent, missing, none_left,
      firstOccurrences_eq_eraseDups]

/-- The first number of a range without a table, when one of the bounds has none: numbers below the
first bound do not count, and those up to the size have a table. -/
theorem find?_range'_absent {size first last : Nat} (ordered : first ≤ last)
    (outside : first = 0 ∨ size < last) :
    (List.range' first (last + 1 - first)).find? (fun id => id = 0 ∨ size < id) =
      some (firstMissing size first) := by
  rw [List.find?_range'_eq_some]
  unfold firstMissing
  split
  · rename_i zero
    refine ⟨by simp, ?_, ?_⟩
    · simp only [List.mem_range'_1]
      omega
    · intro id low high
      omega
  · rename_i positive
    refine ⟨?_, ?_, ?_⟩
    · simp only [decide_eq_true_eq]
      omega
    · simp only [List.mem_range'_1]
      omega
    · intro id low high
      simp only [Bool.not_eq_true', decide_eq_false_iff_not]
      omega

private theorem resolve_range (first last : Nat) (catalogue : Catalogue) (input : String)
    (ordered : first ≤ last) :
    (if catalogue.contains first && catalogue.contains last then
        checked catalogue (Text.trimmed input) (List.range' first (last + 1 - first))
      else .error (.unknownTable (firstMissing catalogue.size first) (Text.trimmed input))) =
      outcome.ofEnumerated catalogue.size input (.range first last) := by
  by_cases bounds : (catalogue.contains first && catalogue.contains last) = true
  · rw [if_pos bounds, ← checked_enumerated]
    simp only [enumerated, eraseDups_of_nodup List.nodup_range']
  · rw [if_neg bounds]
    simp only [Bool.and_eq_true, Catalogue.contains_iff] at bounds
    have outside : first = 0 ∨ catalogue.size < last := by omega
    simp only [outcome.ofEnumerated, enumerated, find?_range'_absent ordered outside]

/-- In every catalogue every selection resolves to what its numbers give one by one: the first
number without a table is the failure, and else each number counts where it first occurs. An
expression is resolved in this way once it is read, and nothing is read against no tables. -/
theorem resolve_eq_outcome (catalogue : Catalogue) (input : String) :
    (∀ selection : Selection,
      selection.resolve catalogue input = selection.outcome catalogue.size input) ∧
    catalogue.select input =
      if catalogue.size = 0 then .error .noTables
      else (Selection.read input).bind fun selection => selection.outcome catalogue.size input := by
  have resolved (selection : Selection) :
      selection.resolve catalogue input = selection.outcome catalogue.size input := by
    unfold resolve outcome
    by_cases empty : catalogue.size = 0
    · simp [Catalogue.isEmpty_iff.mpr empty, empty]
    · rw [if_neg (mt Catalogue.isEmpty_iff.mp empty), if_neg empty]
      cases selection with
      | all =>
        simp only [← checked_enumerated, enumerated, eraseDups_of_nodup List.nodup_range',
          Catalogue.ids_eq_range']
      | single id =>
        simp only [← checked_enumerated, enumerated, eraseDups_of_nodup (List.nodup_singleton id)]
      | range first last =>
        by_cases inverted : last < first
        · simp only [inverted, if_true]
        · simp only [inverted, if_false]
          exact resolve_range first last catalogue input (Nat.le_of_not_lt inverted)
      | list ids => exact checked_enumerated (.list ids) catalogue input
  refine ⟨resolved, ?_⟩
  unfold Catalogue.select
  by_cases empty : catalogue.size = 0
  · simp [Catalogue.isEmpty_iff.mpr empty, empty]
  · rw [if_neg (mt Catalogue.isEmpty_iff.mp empty), if_neg empty]
    cases Selection.read input with
    | error failure => rfl
    | ok selection => exact resolved selection

end TableScript.Selection
