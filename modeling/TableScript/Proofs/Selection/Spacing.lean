import TableScript.Proofs.Selection.Expression
import TableScript.Proofs.Selection.Scripts
import TableScript.Proofs.Text.Character
import TableScript.Proofs.Text.Trim

/-! White space around an expression. Every gap is white space, but not all white space is a gap: where an
expression has other white space at its ends, only its trimmed text is read. -/
namespace TableScript

namespace Selection

open Text (AllBlank Tight cappedValue)

/-- The texts of an expression with white space around it that is no gap. -/
inductive OddlySpaced : List Char → Prop
  | around {before form after : List Char} {selection : Selection} (blankBefore : AllBlank before)
      (written : FormWritten cappedValue selection form) (blankAfter : AllBlank after)
      (odd : ¬ (IsGap before ∧ IsGap after)) : OddlySpaced (before ++ form ++ after)

section Forms

variable {value : List Char → Nat} {selection : Selection} {text : List Char}

theorem IsGap.allBlank {gap : List Char} (all : IsGap gap) : AllBlank gap := by
  intro c member
  have here := all c member
  simp only [isGapChar, Bool.or_eq_true, beq_iff_eq] at here
  rcases here with ((rfl | rfl) | rfl) | rfl <;> rfl

/-- A form begins and ends with a mark or a digit. -/
theorem FormWritten.tight (written : FormWritten value selection text) : Tight text := by
  cases written with
  | all => decide
  | single numeral => exact .of_solid numeral.1 fun c member => Text.not_isBlank_of_isDigit (numeral.2 c member)
  | @range a first b c last d =>
    have brackets : Tight ['('] ∧ Tight [')'] := by decide
    simpa using brackets.1.append brackets.2 (a ++ first ++ b ++ ['.', '.'] ++ c ++ last ++ d)
  | @list _ items =>
    have brackets : Tight ['['] ∧ Tight [']'] := by decide
    simpa using brackets.1.append brackets.2 items

theorem FormWritten.ne_list_nil (written : FormWritten value selection text) : selection ≠ .list [] := by
  cases written with
  | list items => cases items <;> simp
  | _ => simp

theorem FormWritten.written (written : FormWritten value selection text) : Written value selection text := by
  simpa using Written.around isGap_nil written isGap_nil

theorem Written.form_trim (written : Written value selection text) :
    FormWritten value selection (Text.trim text) := by
  obtain ⟨gapBefore, form, gapAfter⟩ := written
  rwa [form.tight.trim_around gapBefore.allBlank gapAfter.allBlank]

end Forms

section Reading

variable {selection : Selection} {text : List Char} {input : String}

theorem OddlySpaced.form_trim (odd : OddlySpaced text) :
    ∃ selection, FormWritten cappedValue selection (Text.trim text) := by
  obtain ⟨blankBefore, form, blankAfter, _⟩ := odd
  exact ⟨_, (form.tight.trim_around blankBefore blankAfter).symm ▸ form⟩

/-- An oddly spaced text is a text of no selection: its form, and so the white space around it, is told by
the whole. -/
theorem OddlySpaced.unwritten (odd : OddlySpaced text) : ¬ Written cappedValue selection text := by
  intro written
  obtain ⟨blankBefore, form, blankAfter, odd⟩ := odd
  rename_i before core after _
  generalize whole : before ++ core ++ after = text at written
  obtain ⟨gapBefore, other, gapAfter⟩ := written
  have same := congrArg Text.trim whole
  rw [form.tight.trim_around blankBefore blankAfter,
    other.tight.trim_around gapBefore.allBlank gapAfter.allBlank] at same
  subst same
  obtain ⟨rfl, rfl⟩ := form.tight.around_inj blankBefore gapBefore.allBlank whole
  exact odd ⟨gapBefore, gapAfter⟩

/-- Unless a text is oddly spaced, it is written as what its trimmed text is written as. -/
theorem written_trim_iff (even : ¬ OddlySpaced text) :
    Written cappedValue selection (Text.trim text) ↔ Written cappedValue selection text := by
  refine ⟨fun written => ?_, fun written => written.form_trim.written⟩
  have form := written.form_trim
  rw [Text.trim_trim] at form
  obtain ⟨before, after, blankBefore, blankAfter, whole⟩ := Text.exists_eq_append_trim text
  have gaps : IsGap before ∧ IsGap after := by
    by_contra odd
    exact even (whole ▸ .around blankBefore form blankAfter odd)
  exact whole ▸ .around gaps.1 form gaps.2

theorem read_trimmed (even : ¬ OddlySpaced input.toList) : read (Text.trimmed input) = read input := by
  have same : read? (Text.trim input.toList) = read? input.toList := by
    ext selection
    simp only [read?_eq_some_iff, written_trim_iff even]
  rw [read, read, Text.trimmed_trimmed, Text.trimmed, String.toList_ofList, same]

theorem read_of_oddlySpaced (odd : OddlySpaced input.toList) :
    read input = .error (.invalidSelection (Text.trimmed input)) := by
  rw [read]
  cases found : read? input.toList with
  | none => rfl
  | some selection => exact absurd (read?_sound found) odd.unwritten

theorem exists_read_trimmed (odd : OddlySpaced input.toList) :
    ∃ selection, selection ≠ .list [] ∧ read (Text.trimmed input) = .ok selection := by
  obtain ⟨selection, form⟩ := odd.form_trim
  refine ⟨selection, form.ne_list_nil, read_eq_ok_iff.mpr ?_⟩
  rw [Text.trimmed, String.toList_ofList]
  exact form.written

end Reading

section Resolving

variable {catalogue : Catalogue}

theorem resolve_trimmed (selection : Selection) (input : String) :
    selection.resolve catalogue (Text.trimmed input) = selection.resolve catalogue input := by
  simp only [resolve, Text.trimmed_trimmed]

theorem checked_ne_invalidSelection {input text : String} {ids : List Nat} (some_ids : ids ≠ []) :
    checked catalogue input ids ≠ .error (.invalidSelection text) := by
  unfold checked
  split <;> simp [some_ids]

/-- What is read from an expression never resolves to nothing. -/
theorem resolve_ne_invalidSelection {selection : Selection} {input text : String}
    (some_table : catalogue.size ≠ 0) (some_ids : selection ≠ .list []) :
    selection.resolve catalogue input ≠ .error (.invalidSelection text) := by
  have nonempty : ¬ catalogue.isEmpty = true := mt Catalogue.isEmpty_iff.mp some_table
  rw [resolve, if_neg nonempty]
  cases selection with
  | all =>
    refine checked_ne_invalidSelection ?_
    rwa [Catalogue.ids_eq_range', Ne, List.range'_eq_nil_iff]
  | single id => exact checked_ne_invalidSelection (List.cons_ne_nil id [])
  | range first last =>
    simp only
    split
    · simp
    · split
      · refine checked_ne_invalidSelection ?_
        rw [Ne, List.range'_eq_nil_iff]
        omega
      · simp
  | list ids =>
    refine checked_ne_invalidSelection ?_
    obtain ⟨id, rest, rfl⟩ := List.exists_cons_of_ne_nil fun empty => some_ids (congrArg list empty)
    simp [List.eraseDups_cons]

end Resolving

end Selection

namespace Catalogue

variable {catalogue : Catalogue} {input : String}

theorem select_of_oddlySpaced (some_table : catalogue.size ≠ 0)
    (odd : Selection.OddlySpaced input.toList) :
    catalogue.select input = .error (.invalidSelection (Text.trimmed input)) := by
  have nonempty : ¬ catalogue.isEmpty = true := mt isEmpty_iff.mp some_table
  simp [select, nonempty, Selection.read_of_oddlySpaced odd]

theorem exists_select_of_oddlySpaced (catalogue : Catalogue) (odd : Selection.OddlySpaced input.toList) :
    ∃ failure, catalogue.select input = .error failure := by
  by_cases empty : catalogue.size = 0
  · exact ⟨.noTables, if_pos (isEmpty_iff.mpr empty)⟩
  · exact ⟨_, select_of_oddlySpaced empty odd⟩

theorem select_trimmed (even : ¬ Selection.OddlySpaced input.toList) :
    catalogue.select (Text.trimmed input) = catalogue.select input := by
  simp only [select, Selection.read_trimmed even, Selection.resolve_trimmed]

/-- White space around an expression changes what is selected exactly where it is no gap. -/
theorem select_eq_select_trimmed_iff (some_table : catalogue.size ≠ 0) :
    catalogue.select input = catalogue.select (Text.trimmed input) ↔
      ¬ Selection.OddlySpaced input.toList := by
  refine ⟨fun same odd => ?_, fun even => (select_trimmed even).symm⟩
  obtain ⟨selection, some_ids, read⟩ := Selection.exists_read_trimmed odd
  rw [select_of_oddlySpaced some_table odd, select_of_read read] at same
  exact Selection.resolve_ne_invalidSelection some_table some_ids same.symm

/-- A no-break space before a number makes it an invalid selection, which is reported without the space. -/
theorem select_after_noBreakSpace :
    let catalogue := (Schema.read "create_table :users").catalogue
    catalogue.size = 1 ∧ Text.trimmed "\u00a01" = "1" ∧
      catalogue.select "\u00a01" = .error (.invalidSelection "1") ∧ catalogue.select "1" = .ok [1] := by
  refine ⟨?_, ?_, ?_, ?_⟩ <;> decide +kernel

end Catalogue

end TableScript
