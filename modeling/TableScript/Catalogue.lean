/-! The tables that a schema declares. A catalogue numbers its tables from 1 in the order of their
declarations and holds each name once; both facts are part of its type. -/
namespace TableScript

structure Column where
  name : String
  kind : String
  deriving DecidableEq, Repr

def Column.isReference (column : Column) : Bool :=
  column.kind == "references" || column.kind == "belongs_to"

def Column.isBookkeeping (column : Column) : Bool :=
  column.name == "id" || column.name == "created_at" || column.name == "updated_at"

structure Table where
  id : Nat
  name : String
  columns : List Column
  deriving DecidableEq, Repr

@[ext] structure Catalogue where
  tables : List Table
  numbered : tables.map Table.id = List.range' 1 tables.length
  distinct : (tables.map Table.name).Nodup

namespace Catalogue

def empty : Catalogue := ⟨[], rfl, by simp⟩

instance : Inhabited Catalogue := ⟨empty⟩

def size (catalogue : Catalogue) : Nat := catalogue.tables.length

def isEmpty (catalogue : Catalogue) : Bool := catalogue.tables.isEmpty

theorem isEmpty_iff {catalogue : Catalogue} : catalogue.isEmpty = true ↔ catalogue.size = 0 := by
  simp [isEmpty, size]

def ids (catalogue : Catalogue) : List Nat := catalogue.tables.map Table.id

def names (catalogue : Catalogue) : List String := catalogue.tables.map Table.name

def listing (catalogue : Catalogue) : List (Nat × String) :=
  catalogue.tables.map fun table => (table.id, table.name)

/-- The table with the given number. Numbers run from 1, so the table stands one place earlier. -/
def get? (catalogue : Catalogue) (id : Nat) : Option Table :=
  if id = 0 then none else catalogue.tables[id - 1]?

def contains (catalogue : Catalogue) (id : Nat) : Bool := (catalogue.get? id).isSome

def named? (catalogue : Catalogue) (name : String) : Option Table :=
  catalogue.tables.find? fun table => table.name == name

def add? (catalogue : Catalogue) (name : String) (columns : List Column) : Option Catalogue :=
  if taken : name ∈ catalogue.tables.map Table.name then none
  else some {
    tables := catalogue.tables ++ [⟨catalogue.tables.length + 1, name, columns⟩]
    numbered := by
      simp [catalogue.numbered, List.range'_concat, Nat.add_comm]
    distinct := by
      rw [List.map_append, List.nodup_append]
      refine ⟨catalogue.distinct, by simp, ?_⟩
      intro a member b final
      simp only [List.map_cons, List.map_nil, List.mem_singleton] at final
      exact fun equal => taken (final ▸ equal ▸ member) }

/-- A name is refused exactly when some table has it. -/
theorem add?_eq_none_iff {catalogue : Catalogue} {name : String} {columns : List Column} :
    catalogue.add? name columns = none ↔ name ∈ catalogue.names := by
  simp [add?, names]

/-- A new table goes last and the others stay as they are. -/
theorem tables_add? {catalogue next : Catalogue} {name : String} {columns : List Column}
    (added : catalogue.add? name columns = some next) :
    next.tables = catalogue.tables ++ [⟨catalogue.size + 1, name, columns⟩] := by
  unfold add? at added
  split at added
  · contradiction
  · cases added
    rfl

theorem ids_eq_range' (catalogue : Catalogue) : catalogue.ids = List.range' 1 catalogue.size :=
  catalogue.numbered

/-- Exactly the numbers from 1 up to the size belong to a table. -/
theorem contains_iff {catalogue : Catalogue} {id : Nat} :
    catalogue.contains id = true ↔ 1 ≤ id ∧ id ≤ catalogue.size := by
  by_cases zero : id = 0
  · simp [contains, get?, zero]
  · simp [contains, get?, zero, size]
    omega

end Catalogue

end TableScript
