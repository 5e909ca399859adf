import TableScript.Proofs.Catalogue
import TableScript.Proofs.Selection.Resolution
import TableScript.Schema.Reader
import TableScript.Script

/-! The scripts for a list of numbers: one for each of them, or none at all if a number has no table.
The numbers that an expression selects always have their scripts. -/
namespace TableScript

namespace Catalogue

variable {catalogue : Catalogue} {ids : List Nat}

/-- Tables are given out exactly when each number finds its own. -/
theorem tablesAt_eq_ok_iff {tables : List Table} :
    catalogue.tablesAt ids = .ok tables ↔ ids.map catalogue.get? = tables.map some := by
  induction ids generalizing tables with
  | nil => cases tables <;> simp [tablesAt]
  | cons id ids ih =>
    cases found : catalogue.get? id with
    | none => cases tables <;> simp [tablesAt, found]
    | some table =>
      have rest (others : List Table) : catalogue.tablesAt (id :: ids) = .ok (table :: others) ↔
          catalogue.tablesAt ids = .ok others := by
        cases tail : catalogue.tablesAt ids <;> simp [tablesAt, found, tail]
      cases tables with
      | nil => cases tail : catalogue.tablesAt ids <;> simp [tablesAt, found, tail]
      | cons other others =>
        by_cases same : other = table
        · rw [same, rest, ih]
          simp [found]
        · cases tail : catalogue.tablesAt ids <;> simp [tablesAt, found, tail, Ne.symm same]

/-- The first number without a table is the failure, whatever follows it. -/
theorem tablesAt_of_first_absent {before after : List Nat} {id : Nat}
    (present : ∀ other ∈ before, catalogue.contains other = true)
    (absent : catalogue.contains id = false) :
    catalogue.tablesAt (before ++ id :: after) = .error (.unknownTable id (toString id)) := by
  induction before with
  | nil =>
    have missing : catalogue.get? id = none := by simpa [contains] using absent
    simp only [List.nil_append, tablesAt, missing]
  | cons first before ih =>
    obtain ⟨table, found⟩ := Option.isSome_iff_exists.mp (present first List.mem_cons_self)
    have rest := ih fun other member => present other (List.mem_cons_of_mem first member)
    simp only [List.cons_append, tablesAt, found, rest]

theorem exists_tables (present : ∀ id ∈ ids, catalogue.contains id = true) :
    ∃ tables : List Table, ids.map catalogue.get? = tables.map some := by
  induction ids with
  | nil => exact ⟨[], rfl⟩
  | cons id ids ih =>
    obtain ⟨table, found⟩ := Option.isSome_iff_exists.mp (present id List.mem_cons_self)
    obtain ⟨tables, others⟩ := ih fun other member => present other (List.mem_cons_of_mem id member)
    exact ⟨table :: tables, by simp [found, others]⟩

/-- Either each number has a table, or there is a first one that has none. -/
theorem contained_or_first_absent (catalogue : Catalogue) (ids : List Nat) :
    (∀ id ∈ ids, catalogue.contains id = true) ∨
    ∃ before id after, ids = before ++ id :: after ∧
      (∀ other ∈ before, catalogue.contains other = true) ∧ catalogue.contains id = false := by
  cases missing : ids.find? fun id => !catalogue.contains id with
  | none => exact .inl fun id member => by simpa using List.find?_eq_none.mp missing id member
  | some id =>
    obtain ⟨absent, before, after, whole, present⟩ := List.find?_eq_some_iff_append.mp missing
    exact .inr ⟨before, id, after, whole, by simpa using present, by simpa using absent⟩

theorem scripts_eq_ok_iff {options : ScriptOptions} {scripts : List String} :
    catalogue.scripts ids options = .ok scripts ↔ ∃ tables : List Table,
      ids.map catalogue.get? = tables.map some ∧ scripts = tables.map (Table.script · options) := by
  simp only [← tablesAt_eq_ok_iff, Catalogue.scripts]
  cases catalogue.tablesAt ids <;> simp [Except.map, eq_comm]

theorem scripts_of_first_absent {options : ScriptOptions} {before after : List Nat} {id : Nat}
    (present : ∀ other ∈ before, catalogue.contains other = true)
    (absent : catalogue.contains id = false) :
    catalogue.scripts (before ++ id :: after) options = .error (.unknownTable id (toString id)) := by
  rw [Catalogue.scripts, tablesAt_of_first_absent present absent]
  rfl

/-- Found tables carry the numbers that they were found by. -/
theorem map_id_of_map_get? {tables : List Table} (found : ids.map catalogue.get? = tables.map some) :
    tables.map Table.id = ids := by
  induction ids generalizing tables with
  | nil => simpa using found.symm
  | cons id ids ih =>
    cases tables with
    | nil => simp at found
    | cons table tables =>
      simp only [List.map_cons, List.cons.injEq] at found
      rw [List.map_cons, ih found.2, (get?_eq_some_iff.mp found.1).2]

theorem map_get?_ids (catalogue : Catalogue) :
    catalogue.ids.map catalogue.get? = catalogue.tables.map some := by
  rw [ids, List.map_map]
  exact List.map_congr_left fun table member => get?_eq_some_iff.mpr ⟨member, rfl⟩

end Catalogue

namespace Selection

theorem nodup_eraseDups (ids : List Nat) : ids.eraseDups.Nodup := by
  match ids with
  | [] => simp
  | id :: ids =>
    rw [List.eraseDups_cons, List.nodup_cons, List.mem_eraseDups]
    exact ⟨by simp, nodup_eraseDups (ids.filter _)⟩
termination_by ids.length
decreasing_by
  exact Nat.lt_succ_of_le (List.length_filter_le _ _)

theorem checked_eq_ok_iff {catalogue : Catalogue} {input : String} {ids given : List Nat} :
    checked catalogue input given = .ok ids ↔
      given = ids ∧ ids ≠ [] ∧ ∀ id ∈ ids, catalogue.contains id = true := by
  unfold checked
  cases missing : given.find? fun id => !catalogue.contains id with
  | some id =>
    have absent := List.find?_some missing
    have member := List.mem_of_find?_eq_some missing
    simp only [reduceCtorEq, false_iff, not_and]
    rintro rfl _ present
    simp [present id member] at absent
  | none =>
    have present : ∀ id ∈ given, catalogue.contains id = true := by
      simpa using List.find?_eq_none.mp missing
    by_cases empty : given = []
    · simp only [empty, if_true, reduceCtorEq, false_iff]
      rintro ⟨rfl, some, _⟩
      exact some rfl
    · simp only [empty, if_false, Except.ok.injEq]
      constructor
      · rintro rfl
        exact ⟨rfl, empty, present⟩
      · exact And.left

/-- What a selection resolves to is never empty, has no number twice, and has tables only. -/
theorem resolve_eq_ok {selection : Selection} {catalogue : Catalogue} {input : String} {ids : List Nat}
    (resolved : selection.resolve catalogue input = .ok ids) :
    ids.Nodup ∧ ids ≠ [] ∧ ∀ id ∈ ids, catalogue.contains id = true := by
  have kept {given : List Nat} (distinct : given.Nodup)
      (accepted : checked catalogue (Text.trimmed input) given = .ok ids) :
      ids.Nodup ∧ ids ≠ [] ∧ ∀ id ∈ ids, catalogue.contains id = true := by
    obtain ⟨rfl, facts⟩ := checked_eq_ok_iff.mp accepted
    exact ⟨distinct, facts⟩
  unfold resolve at resolved
  split at resolved
  · contradiction
  · cases selection with
    | all =>
      have distinct : catalogue.ids.Nodup := by
        rw [Catalogue.ids_eq_range']
        exact List.nodup_range'
      exact kept distinct resolved
    | single id => exact kept (List.nodup_singleton id) resolved
    | range first last =>
      simp only at resolved
      split at resolved
      · contradiction
      · split at resolved
        · exact kept List.nodup_range' resolved
        · contradiction
    | list given => exact kept (nodup_eraseDups given) resolved

end Selection

namespace Catalogue

variable {catalogue : Catalogue}

/-- What is read from an expression is all that decides what it selects. -/
theorem select_of_read {selection : Selection} {input : String}
    (read : Selection.read input = .ok selection) :
    catalogue.select input = selection.resolve catalogue input := by
  unfold select
  split
  · rename_i empty
    rw [Selection.resolve, if_pos empty]
  · rw [read]

theorem select_eq_ok {input : String} {ids : List Nat} (selected : catalogue.select input = .ok ids) :
    ids.Nodup ∧ ids ≠ [] ∧ ∀ id ∈ ids, catalogue.contains id = true := by
  unfold select at selected
  split at selected
  · contradiction
  · split at selected
    · exact Selection.resolve_eq_ok selected
    · contradiction

theorem select_all (some : catalogue.size ≠ 0) : catalogue.select "*" = .ok catalogue.ids := by
  have nonempty : catalogue.isEmpty = false := by
    rw [Bool.eq_false_iff, Ne, isEmpty_iff]
    exact some
  have read : Selection.read "*" = .ok .all := by decide +kernel
  have given : catalogue.ids ≠ [] := by
    rw [ids_eq_range', Ne, List.range'_eq_nil_iff]
    exact some
  simp only [select_of_read read, Selection.resolve, nonempty, Bool.false_eq_true, if_false]
  exact Selection.checked_eq_ok_iff.mpr ⟨rfl, given, fun _ => contains_of_mem_ids⟩

/-- Scripts are written for a list of numbers all together or not at all: one for each number in its
place, or the failure that names the first number without a table. So what an expression selects has
one script for each of different tables, and selecting all tables gives the script of the catalogue. -/
theorem scripts_all_or_none (catalogue : Catalogue) (options : ScriptOptions) :
    (∀ ids : List Nat,
      ((∃ scripts, catalogue.scripts ids options = .ok scripts) ↔
        ∀ id ∈ ids, 1 ≤ id ∧ id ≤ catalogue.size) ∧
      (∀ scripts, catalogue.scripts ids options = .ok scripts → ∃ tables : List Table,
        ids.map catalogue.get? = tables.map some ∧ scripts = tables.map (Table.script · options)) ∧
      ∀ failure, catalogue.scripts ids options = .error failure → ∃ before id after,
        ids = before ++ id :: after ∧ (∀ other ∈ before, 1 ≤ other ∧ other ≤ catalogue.size) ∧
          ¬ (1 ≤ id ∧ id ≤ catalogue.size) ∧ failure = .unknownTable id (toString id)) ∧
    (∀ (input : String) (ids : List Nat), catalogue.select input = .ok ids →
      ∃ tables : List Table, tables.Nodup ∧ ids.map catalogue.get? = tables.map some ∧
        catalogue.scripts ids options = .ok (tables.map (Table.script · options))) ∧
    (catalogue.size ≠ 0 → ∃ ids scripts, catalogue.select "*" = .ok ids ∧
      catalogue.scripts ids options = .ok scripts ∧ String.join scripts = catalogue.script options) := by
  simp only [← contains_iff]
  refine ⟨fun ids => ⟨⟨?_, ?_⟩, fun scripts => scripts_eq_ok_iff.mp, ?_⟩, ?_, ?_⟩
  · rintro ⟨scripts, written⟩
    rcases contained_or_first_absent catalogue ids with present | ⟨before, id, after, rfl, present, absent⟩
    · exact present
    · rw [scripts_of_first_absent present absent] at written
      contradiction
  · intro present
    obtain ⟨tables, found⟩ := exists_tables present
    exact ⟨_, scripts_eq_ok_iff.mpr ⟨tables, found, rfl⟩⟩
  · intro failure failed
    rcases contained_or_first_absent catalogue ids with present | ⟨before, id, after, rfl, present, absent⟩
    · obtain ⟨tables, found⟩ := exists_tables present
      rw [scripts_eq_ok_iff.mpr ⟨tables, found, rfl⟩] at failed
      contradiction
    · rw [scripts_of_first_absent present absent] at failed
      exact ⟨before, id, after, rfl, present, by simp [absent], (Except.error.inj failed).symm⟩
  · intro input ids selected
    obtain ⟨distinct, _, present⟩ := select_eq_ok selected
    obtain ⟨tables, found⟩ := exists_tables present
    rw [← map_id_of_map_get? found] at distinct
    exact ⟨tables, distinct.of_map, found, scripts_eq_ok_iff.mpr ⟨tables, found, rfl⟩⟩
  · intro some
    exact ⟨catalogue.ids, _, select_all some,
      scripts_eq_ok_iff.mpr ⟨catalogue.tables, catalogue.map_get?_ids, rfl⟩, rfl⟩

theorem scripts_all_or_none_usersAndTeams :
    let catalogue := (Schema.read "create_table :users\ncreate_table :teams").catalogue
    (∃ scripts, catalogue.scripts [2, 1, 2] .default = .ok scripts) ∧
      (∃ tables : List Table, tables.Nodup ∧ [2, 1].map catalogue.get? = tables.map some ∧
        catalogue.scripts [2, 1] .default = .ok (tables.map (Table.script · .default))) ∧
      ∃ ids scripts, catalogue.select "*" = .ok ids ∧ catalogue.scripts ids .default = .ok scripts ∧
        String.join scripts = catalogue.script .default := by
  intro catalogue
  obtain ⟨each, selected, all⟩ := scripts_all_or_none catalogue .default
  refine ⟨(each [2, 1, 2]).1.mpr ?_, selected "[2, 1, 2]" [2, 1] ?_, all ?_⟩ <;> decide +kernel

end Catalogue

end TableScript
