import TableScript.Proofs.Schema.Reader
import Mathlib.Data.List.Nodup

/-! Finding tables again. A number finds the table that carries it and a name finds the one table of
that name, because the catalogue numbers its tables without gaps and never takes a name twice. -/
namespace TableScript

namespace Catalogue

variable {catalogue : Catalogue} {table : Table}

theorem id_of_getElem? {place : Nat} (placed : catalogue.tables[place]? = some table) :
    table.id = place + 1 := by
  have number : (catalogue.tables.map Table.id)[place]? = some table.id := by
    rw [List.getElem?_map, placed]
    rfl
  rw [catalogue.numbered, List.getElem?_eq_some_iff] at number
  obtain ⟨_, same⟩ := number
  rw [List.getElem_range', Nat.one_mul] at same
  omega

theorem get?_eq_some_iff {id : Nat} :
    catalogue.get? id = some table ↔ table ∈ catalogue.tables ∧ table.id = id := by
  constructor
  · intro found
    unfold get? at found
    split at found
    · contradiction
    · rename_i positive
      have number := id_of_getElem? found
      exact ⟨List.mem_of_getElem? found, by omega⟩
  · rintro ⟨member, rfl⟩
    obtain ⟨place, placed⟩ := List.mem_iff_getElem?.mp member
    rw [id_of_getElem? placed, get?, if_neg (Nat.succ_ne_zero place), Nat.add_sub_cancel, placed]

theorem eq_of_name_eq {other : Table} (member : table ∈ catalogue.tables)
    (otherMember : other ∈ catalogue.tables) (same : table.name = other.name) : table = other :=
  List.inj_on_of_nodup_map catalogue.distinct member otherMember same

theorem named?_eq_some_iff {name : String} :
    catalogue.named? name = some table ↔ table ∈ catalogue.tables ∧ table.name = name := by
  constructor
  · intro found
    exact ⟨List.mem_of_find?_eq_some found, by simpa using List.find?_some found⟩
  · rintro ⟨member, rfl⟩
    cases found : catalogue.named? table.name with
    | none =>
      have absent := List.find?_eq_none.mp found table member
      simp at absent
    | some other =>
      have same : other.name = table.name := by simpa using List.find?_some found
      rw [eq_of_name_eq (List.mem_of_find?_eq_some found) member same]

theorem isSome_named?_iff {name : String} :
    (catalogue.named? name).isSome = true ↔ ∃ table ∈ catalogue.tables, table.name = name := by
  simp only [Option.isSome_iff_exists, named?_eq_some_iff]

theorem contains_of_mem_ids {id : Nat} (member : id ∈ catalogue.ids) : catalogue.contains id = true := by
  rw [ids_eq_range', List.mem_range'_1] at member
  exact contains_iff.mpr (by omega)

theorem listing_eq (catalogue : Catalogue) : catalogue.listing = catalogue.ids.zip catalogue.names := by
  rw [listing, ids, names, List.zip_map']

/-- Adding a table appends it under the next number, or refuses a name that is taken. -/
theorem add?_cases (catalogue : Catalogue) (name : String) (columns : List Column) :
    (name ∉ catalogue.names ∧ ∃ next, catalogue.add? name columns = some next ∧
      next.tables = catalogue.tables ++ [⟨catalogue.size + 1, name, columns⟩]) ∨
    (name ∈ catalogue.names ∧ catalogue.add? name columns = none) := by
  cases added : catalogue.add? name columns with
  | none => exact .inr ⟨add?_eq_none_iff.mp added, rfl⟩
  | some next =>
    refine .inl ⟨fun taken => ?_, next, rfl, tables_add? added⟩
    rw [add?_eq_none_iff.mpr taken] at added
    contradiction

/-- The numbers and names of a catalogue lead back to its tables. -/
structure Coherent (catalogue : Catalogue) : Prop where
  placed : ∀ place table, catalogue.tables[place]? = some table → table.id = place + 1
  ids : catalogue.ids = List.range' 1 catalogue.size
  listing : catalogue.listing = (List.range' 1 catalogue.size).zip catalogue.names
  distinct : catalogue.names.Nodup
  numbers : ∀ id, (catalogue.get? id).isSome = true ↔ 1 ≤ id ∧ id ≤ catalogue.size
  own : ∀ id table, catalogue.get? id = some table ↔ table ∈ catalogue.tables ∧ table.id = id
  contains : ∀ id, catalogue.contains id = (catalogue.get? id).isSome
  names : ∀ name, (catalogue.named? name).isSome = true ↔ ∃ table ∈ catalogue.tables, table.name = name
  named : ∀ name table,
    catalogue.named? name = some table ↔ table ∈ catalogue.tables ∧ table.name = name

theorem coherent (catalogue : Catalogue) : catalogue.Coherent where
  placed _ _ := id_of_getElem?
  ids := catalogue.ids_eq_range'
  listing := by rw [listing_eq, ids_eq_range']
  distinct := catalogue.distinct
  numbers _ := contains_iff
  own _ _ := get?_eq_some_iff
  contains _ := rfl
  names _ := isSome_named?_iff
  named _ _ := named?_eq_some_iff

end Catalogue

namespace Schema

theorem Reader.catalogue_declare_of_taken {reader : Reader} {name : String}
    (taken : name ∈ reader.catalogue.names) (columns : List Column) :
    (reader.declare name columns).catalogue = reader.catalogue := by
  rw [Reader.declare, Catalogue.add?_eq_none_iff.mpr taken]

/-- Whatever the text, the numbers and names of its catalogue lead back to its tables, and all names
are well formed. A table that is added goes last under the next number and leaves the others as they
are; one whose name is taken is refused, and the reader keeps its catalogue. -/
theorem coherent_read (text : String) :
    (read text).catalogue.Coherent ∧
    (∀ table ∈ (read text).catalogue.tables, IsTableName table.name.toList ∧
      ∀ column ∈ table.columns,
        IsIdentifier column.name.toList ∧ IsIdentifier column.kind.toList) ∧
    ∀ (catalogue : Catalogue) (name : String) (columns : List Column),
      (name ∉ catalogue.names ∧ ∃ next, catalogue.add? name columns = some next ∧
        next.tables = catalogue.tables ++ [⟨catalogue.size + 1, name, columns⟩]) ∨
      (name ∈ catalogue.names ∧ catalogue.add? name columns = none ∧
        ∀ reader : Reader, reader.catalogue = catalogue →
          (reader.declare name columns).catalogue = catalogue) := by
  refine ⟨Catalogue.coherent _, fun table member => isNamedTable_of_mem_read member, ?_⟩
  intro catalogue name columns
  rcases catalogue.add?_cases name columns with added | ⟨taken, refused⟩
  · exact .inl added
  · refine .inr ⟨taken, refused, ?_⟩
    rintro reader rfl
    exact Reader.catalogue_declare_of_taken taken columns

end Schema

end TableScript
