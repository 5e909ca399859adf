import TableScript.Proofs.Selection.Expression
import TableScript.Proofs.Selection.Scripts

/-! Expressions with numbers that no word holds. They are read with such numbers capped at the largest
word, which a catalogue has no table for. So they select what they would select over all numbers, or
fail in the same way, except where capping makes the bounds of an inverted range equal. -/
namespace TableScript

def Text.capped (number : Nat) : Nat := min number largestWord

def Failure.mapNumbers (f : Nat → Nat) : Failure → Failure
  | .unknownTable id input => .unknownTable (f id) input
  | .invalidRange first last => .invalidRange (f first) (f last)
  | failure => failure

namespace Selection

open Text (capped cappedValue decimalValue largestWord)

def map (f : Nat → Nat) : Selection → Selection
  | .all => .all
  | .single id => .single (f id)
  | .range first last => .range (f first) (f last)
  | .list ids => .list (ids.map f)

/-- Whether a selection is an inverted range whose bounds are equal once they are capped. -/
def LosesOrder : Selection → Prop
  | .range first last => last < first ∧ largestWord ≤ last
  | _ => False

section Reading

variable {value : List Char → Nat} (f : Nat → Nat)

theorem ItemsWritten.map {ids : List Nat} {items : List Char} (written : ItemsWritten value ids items) :
    ItemsWritten (f ∘ value) (ids.map f) items := by
  induction written with
  | last gapBefore numeral gapAfter => exact .last gapBefore numeral gapAfter
  | more gapBefore numeral gapAfter _ ih => exact .more gapBefore numeral gapAfter ih

/-- A text of a selection is one of the selection with other numbers, if its digits stand for these. -/
theorem Written.map {selection : Selection} {text : List Char} (written : Written value selection text) :
    Written (f ∘ value) (selection.map f) text := by
  obtain ⟨gapBefore, form, gapAfter⟩ := written
  refine .around gapBefore ?_ gapAfter
  cases form with
  | all => exact .all
  | single numeral => exact .single numeral
  | range gapA first gapB gapC last gapD => exact .range gapA first gapB gapC last gapD
  | list items => exact .list (items.map f)

/-- What is read from an expression over all numbers: the numbers are capped. -/
theorem read_capped {selection : Selection} {input : String}
    (written : Written decimalValue selection input.toList) :
    read input = .ok (selection.map capped) :=
  read_eq_ok_iff.mpr (written.map capped)

end Reading

/-- Capping keeps the order of the bounds or, unless the range loses it, their inversion. -/
theorem capped_lt_capped_iff {first last : Nat} (kept : ¬ (range first last).LosesOrder) :
    capped last < capped first ↔ last < first := by
  simp only [LosesOrder] at kept
  simp only [capped]
  omega

section Resolving

variable {catalogue : Catalogue} {input : String} {ids : List Nat}

theorem mapError_checked_of_contained (f : Nat → Nat)
    (present : ∀ id ∈ ids, catalogue.contains id = true) :
    (checked catalogue input ids).mapError (Failure.mapNumbers f) = checked catalogue input ids := by
  have none_missing : (ids.find? fun id => !catalogue.contains id) = none := by simpa using present
  simp only [checked, none_missing]
  split <;> rfl

variable (few : catalogue.size < largestWord)

include few

theorem contains_capped (id : Nat) : catalogue.contains (capped id) = catalogue.contains id := by
  rw [Bool.eq_iff_iff, Catalogue.contains_iff, Catalogue.contains_iff, capped]
  omega

theorem capped_of_contains {id : Nat} (listed : catalogue.contains id = true) : capped id = id := by
  have bounds := Catalogue.contains_iff.mp listed
  rw [capped]
  omega

theorem checked_capped (ids : List Nat) :
    checked catalogue input (ids.map capped).eraseDups =
      (checked catalogue input ids.eraseDups).mapError (Failure.mapNumbers capped) := by
  cases missing : ids.find? fun id => !catalogue.contains id with
  | some id =>
    have same : ((ids.map capped).find? fun id => !catalogue.contains id) = some (capped id) := by
      rw [List.find?_map]
      simp only [Function.comp_def, contains_capped few, missing, Option.map_some]
    simp only [checked, find?_eraseDups, same, missing]
    rfl
  | none =>
    have present : ∀ id ∈ ids, catalogue.contains id = true := by simpa using missing
    have same : ids.map capped = ids :=
      (List.map_congr_left fun id member => capped_of_contains few (present id member)).trans (List.map_id ids)
    rw [same, mapError_checked_of_contained]
    simpa using present

theorem firstMissing_capped (first : Nat) :
    firstMissing catalogue.size (capped first) = capped (firstMissing catalogue.size first) := by
  by_cases zero : first = 0
  · simp [firstMissing, capped, zero]
  · have positive : min first largestWord ≠ 0 := by omega
    simp only [firstMissing, capped, zero, positive, if_false]
    omega

/-- Capping the numbers of a selection caps the numbers that its failure names and changes nothing
else, unless the selection loses its order. -/
theorem resolve_map_capped {selection : Selection} (kept : ¬ selection.LosesOrder) :
    (selection.map capped).resolve catalogue input =
      (selection.resolve catalogue input).mapError (Failure.mapNumbers capped) := by
  unfold resolve
  split
  · rfl
  · cases selection with
    | all => exact (mapError_checked_of_contained capped fun _ => Catalogue.contains_of_mem_ids).symm
    | single id => exact checked_capped few [id]
    | list ids => exact checked_capped few ids
    | range first last =>
      simp only [map, capped_lt_capped_iff kept, contains_capped few, firstMissing_capped few]
      split
      · rfl
      · split
        · rename_i bounds
          rw [Bool.and_eq_true] at bounds
          have present : ∀ id ∈ List.range' first (last + 1 - first), catalogue.contains id = true := by
            simp only [Catalogue.contains_iff, List.mem_range'_1] at bounds ⊢
            omega
          rw [capped_of_contains few bounds.1, capped_of_contains few bounds.2]
          exact (mapError_checked_of_contained capped present).symm
        · rfl

/-- A range that loses its order asks for the largest word, which no table has, and not for its first
bound. -/
theorem resolve_of_losesOrder {selection : Selection} (some_table : catalogue.size ≠ 0)
    (loses : selection.LosesOrder) :
    (selection.map capped).resolve catalogue input =
        .error (.unknownTable largestWord (Text.trimmed input)) ∧
      ∃ first last, last < first ∧
        selection.resolve catalogue input = .error (.invalidRange first last) := by
  have nonempty : ¬ catalogue.isEmpty = true := mt Catalogue.isEmpty_iff.mp some_table
  cases selection with
  | range first last =>
    obtain ⟨inverted, large⟩ := loses
    have lastCapped : capped last = largestWord := Nat.min_eq_right large
    have firstCapped : capped first = largestWord := Nat.min_eq_right (large.trans inverted.le)
    have absent : catalogue.contains largestWord = false := by
      rw [Bool.eq_false_iff, Ne, Catalogue.contains_iff]
      omega
    have missing : firstMissing catalogue.size largestWord = largestWord := by
      rw [firstMissing, if_neg (Nat.ne_zero_of_lt few)]
      omega
    refine ⟨?_, first, last, inverted, ?_⟩
    · simp [resolve, map, nonempty, firstCapped, lastCapped, absent, missing]
    · simp [resolve, nonempty, inverted]
  | _ => exact loses.elim

end Resolving

end Selection

namespace Catalogue

open Text (capped decimalValue largestWord)

/-- What an expression selects does not depend on how large a number a word holds, as long as there are
fewer tables: it selects the same numbers as over all numbers, or fails in the same way and names the
numbers of the failure as a word holds them. Exactly the inverted ranges with both bounds beyond what
a word holds, or at its limit, are an exception: they name an unknown table. -/
theorem select_saturates_iff {catalogue : Catalogue} {selection : Selection} {input : String}
    (some_table : catalogue.size ≠ 0) (few : catalogue.size < largestWord)
    (written : Selection.Written decimalValue selection input.toList) :
    (catalogue.select input =
        (selection.resolve catalogue input).mapError (Failure.mapNumbers capped) ↔
      ¬ selection.LosesOrder) ∧
    (selection.LosesOrder →
      catalogue.select input = .error (.unknownTable largestWord (Text.trimmed input)) ∧
      ∃ first last, last < first ∧
        selection.resolve catalogue input = .error (.invalidRange first last)) := by
  rw [select_of_read (Selection.read_capped written)]
  refine ⟨⟨fun same loses => ?_, Selection.resolve_map_capped few⟩,
    Selection.resolve_of_losesOrder few some_table⟩
  obtain ⟨unknown, first, last, _, inverted⟩ := Selection.resolve_of_losesOrder few some_table loses
  rw [unknown, inverted] at same
  simp [Except.mapError, Failure.mapNumbers] at same

section Oversized

def ofUsers : Catalogue := (Schema.read "create_table :users").catalogue

def oversizedRange : String := "(18446744073709551617..18446744073709551616)"

theorem written_oversizedRange : Selection.Written decimalValue
    (.range 18446744073709551617 18446744073709551616) oversizedRange.toList := by
  let first := "18446744073709551617".toList
  let last := "18446744073709551616".toList
  have numerals : Selection.IsNumeral first ∧ Selection.IsNumeral last := by decide +kernel
  have values : decimalValue first = 18446744073709551617 ∧
      decimalValue last = 18446744073709551616 := by decide +kernel
  have form : Selection.FormWritten decimalValue (.range (decimalValue first) (decimalValue last))
      ('(' :: [] ++ first ++ [] ++ ['.', '.'] ++ [] ++ last ++ [] ++ [')']) :=
    .range Selection.isGap_nil numerals.1 Selection.isGap_nil Selection.isGap_nil numerals.2
      Selection.isGap_nil
  rw [values.1, values.2] at form
  exact .around Selection.isGap_nil form Selection.isGap_nil

/-- Capped, the bounds of the range are equal: it is not refused as an inverted range. -/
theorem select_oversizedRange :
    ofUsers.size = 1 ∧
      Selection.Written decimalValue (.range 18446744073709551617 18446744073709551616)
        oversizedRange.toList ∧
      (Selection.range 18446744073709551617 18446744073709551616).resolve ofUsers oversizedRange =
        .error (.invalidRange 18446744073709551617 18446744073709551616) ∧
      ofUsers.select oversizedRange =
        .error (.unknownTable 18446744073709551615 oversizedRange) := by
  refine ⟨?_, written_oversizedRange, ?_, ?_⟩ <;> decide +kernel

theorem select_saturates_iff_oversized :
    let number := "36893488147419103232"
    ofUsers.size ≠ 0 ∧ ofUsers.size < largestWord ∧
      Selection.Written decimalValue (.single 36893488147419103232) number.toList ∧
      ofUsers.select number = ((Selection.single 36893488147419103232).resolve ofUsers number).mapError
        (Failure.mapNumbers capped) ∧
      (Selection.range 18446744073709551617 18446744073709551616).LosesOrder ∧
      ofUsers.select oversizedRange =
        .error (.unknownTable largestWord (Text.trimmed oversizedRange)) := by
  intro number
  have some_table : ofUsers.size ≠ 0 := by decide +kernel
  have few : ofUsers.size < largestWord := by decide +kernel
  have numeral : Selection.IsNumeral number.toList := by decide +kernel
  have value : decimalValue number.toList = 36893488147419103232 := by decide +kernel
  have form : Selection.FormWritten decimalValue (.single (decimalValue number.toList)) number.toList :=
    .single numeral
  have written : Selection.Written decimalValue (.single 36893488147419103232) number.toList := by
    rw [value] at form
    exact List.append_nil number.toList ▸ Selection.Written.around Selection.isGap_nil form Selection.isGap_nil
  have loses : (Selection.range 18446744073709551617 18446744073709551616).LosesOrder := by
    simp only [Selection.LosesOrder]
    decide
  exact ⟨some_table, few, written, (select_saturates_iff some_table few written).1.mpr not_false, loses,
    ((select_saturates_iff some_table few written_oversizedRange).2 loses).1⟩

end Oversized

end Catalogue

end TableScript
