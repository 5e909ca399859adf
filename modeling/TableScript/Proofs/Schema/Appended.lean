import TableScript.Proofs.Schema.Declared
import Mathlib.Data.List.Nodup

/-! Reading a text that goes on after a line break. What was read before stays, up to the columns of
a block that the break leaves open; what follows is read as on its own, but for the names that are
taken by then. -/
namespace TableScript.Schema

def renumbered (first : Nat) (tables : List Table) : List Table :=
  (tables.zipIdx first).map fun (table, id) => { table with id }

theorem renumbered_append (first : Nat) (tables : List Table) (table : Table) :
    renumbered first (tables ++ [table]) =
      renumbered first tables ++ [{ table with id := first + tables.length }] := by
  simp [renumbered, List.zipIdx_append]

theorem length_renumbered (first : Nat) (tables : List Table) :
    (renumbered first tables).length = tables.length := by
  simp [renumbered]

theorem map_name_renumbered (first : Nat) (tables : List Table) :
    (renumbered first tables).map Table.name = tables.map Table.name := by
  rw [renumbered, List.map_map]
  conv_rhs => rw [← List.zipIdx_map_fst first tables, List.map_map]
  rfl

namespace Reader

theorem names_declare_perm (reader : Reader) (name : String) (columns : List Column) :
    ((reader.declare name columns).catalogue.names ++ (reader.declare name columns).skipped).Perm
      (reader.catalogue.names ++ reader.skipped ++ [name]) := by
  rcases reader.declare_cases name columns with ⟨_, next, same, tables⟩ | ⟨_, same⟩
  · have names : next.names = reader.catalogue.names ++ [name] := by
      simp only [Catalogue.names, tables, List.map_append, List.map_singleton]
    rw [same, names, List.append_assoc, List.append_assoc]
    exact List.perm_append_comm.append_left _
  · rw [same, List.append_assoc]

/-- No declaration is lost: each gives its name to a table or to what is skipped. -/
theorem names_declareAll_perm (reader : Reader) (declared : List Declared) :
    ((reader.declareAll declared).catalogue.names ++ (reader.declareAll declared).skipped).Perm
      (reader.catalogue.names ++ reader.skipped ++ declared.map Declared.name) := by
  induction declared generalizing reader with
  | nil => simp [declareAll]
  | cons table declared ih =>
    rw [declareAll_cons, List.map_cons, ← List.singleton_append, ← List.append_assoc]
    exact (ih _).trans ((reader.names_declare_perm table.name table.columns).append_right _)

end Reader

/-- A reading that holds all of an earlier one, with nothing put before it or in between. -/
structure Extends (earlier later : Reading) : Prop where
  tables : earlier.catalogue.tables <+: later.catalogue.tables
  skipped : earlier.skipped <+: later.skipped

namespace Extends

theorem refl (reading : Reading) : Extends reading reading :=
  ⟨List.prefix_refl _, List.prefix_refl _⟩

theorem trans {first second third : Reading} (earlier : Extends first second)
    (later : Extends second third) : Extends first third :=
  ⟨earlier.tables.trans later.tables, earlier.skipped.trans later.skipped⟩

theorem declare (reader : Reader) (name : String) (columns : List Column) :
    Extends reader.reading (reader.declare name columns).reading := by
  rcases reader.declare_cases name columns with ⟨_, next, same, tables⟩ | ⟨_, same⟩
  · rw [same]
    refine ⟨?_, List.prefix_refl _⟩
    change reader.catalogue.tables <+: next.tables
    rw [tables]
    exact List.prefix_append _ _
  · rw [same]
    exact ⟨List.prefix_refl _, List.prefix_append _ _⟩

theorem declareAll (reader : Reader) (declared : List Declared) :
    Extends reader.reading (reader.declareAll declared).reading := by
  induction declared generalizing reader with
  | nil => exact refl _
  | cons table declared ih =>
    rw [Reader.declareAll_cons]
    exact (declare reader table.name table.columns).trans (ih _)

end Extends

/-- A catalogue that holds the tables of a first one and, under the numbers that follow, those of a
second one whose names the first one lacks. -/
def Joined (first second whole : Catalogue) : Prop :=
  whole.tables = first.tables ++
    renumbered (first.size + 1) (second.tables.filter (·.name ∉ first.names))

namespace Joined

variable {first : Catalogue}

theorem empty (first : Catalogue) : Joined first .empty first := by
  simp [Joined, Catalogue.empty, renumbered]

theorem mem_names {second whole : Catalogue} (joined : Joined first second whole) {name : String} :
    name ∈ whole.names ↔ name ∈ first.names ∨ name ∈ second.names := by
  rw [Catalogue.names, joined, List.map_append, List.mem_append, map_name_renumbered]
  constructor
  · rintro (old | new)
    · exact .inl old
    · obtain ⟨table, member, rfl⟩ := List.mem_map.mp new
      exact .inr (List.mem_map_of_mem (List.mem_filter.mp member).1)
  · rintro (old | new)
    · exact .inl old
    · obtain ⟨table, member, rfl⟩ := List.mem_map.mp new
      by_cases taken : table.name ∈ first.names
      · exact .inl taken
      · exact .inr (List.mem_map_of_mem (List.mem_filter.mpr ⟨member, decide_eq_true taken⟩))

theorem size_eq {second whole : Catalogue} (joined : Joined first second whole) :
    whole.size = first.size + (second.tables.filter (·.name ∉ first.names)).length := by
  rw [Catalogue.size, joined, List.length_append, length_renumbered, Catalogue.size]

/-- A name that both parts have is counted once in the whole. -/
theorem count_names {second whole : Catalogue} (joined : Joined first second whole) (name : String) :
    whole.names.count name + (if name ∈ first.names ∧ name ∈ second.names then 1 else 0) =
      first.names.count name + second.names.count name := by
  have once (catalogue : Catalogue) :
      catalogue.names.count name = if name ∈ catalogue.names then 1 else 0 :=
    List.Nodup.count catalogue.distinct
  simp only [once, joined.mem_names]
  by_cases inFirst : name ∈ first.names <;> by_cases inSecond : name ∈ second.names <;>
    simp [inFirst, inSecond]

/-- One more declaration, made to the reader of the second part and to the reader of the whole. -/
theorem declare {second whole : Reader} (joined : Joined first second.catalogue whole.catalogue)
    (name : String) (columns : List Column) :
    Joined first (second.declare name columns).catalogue (whole.declare name columns).catalogue := by
  have names : name ∈ whole.catalogue.names ↔ name ∈ first.names ∨ name ∈ second.catalogue.names :=
    joined.mem_names
  rcases second.declare_cases name columns with ⟨fresh, next, same, tables⟩ | ⟨taken, same⟩
  · rcases whole.declare_cases name columns with ⟨new, wider, wholeSame, wholeTables⟩ | ⟨old, wholeSame⟩
    · -- New to both: the table is kept, under the next number of the whole.
      have absent : name ∉ first.names := fun earlier => new (names.mpr (.inl earlier))
      have kept : next.tables.filter (·.name ∉ first.names) =
          second.catalogue.tables.filter (·.name ∉ first.names) ++
            [⟨second.catalogue.size + 1, name, columns⟩] := by
        rw [tables, List.filter_append]
        simp [absent]
      rw [same, wholeSame, Joined, wholeTables, kept, renumbered_append, ← List.append_assoc,
        ← joined, joined.size_eq, Nat.add_right_comm]
    · -- New to the second part only: the whole skips what the second part keeps.
      have earlier : name ∈ first.names := (names.mp old).resolve_right fresh
      have kept : next.tables.filter (·.name ∉ first.names) =
          second.catalogue.tables.filter (·.name ∉ first.names) := by
        rw [tables, List.filter_append]
        simp [earlier]
      rw [same, wholeSame, Joined, kept]
      exact joined
  · rcases whole.declare_cases name columns with ⟨new, _⟩ | ⟨_, wholeSame⟩
    · exact absurd (names.mpr (.inr taken)) new
    · rw [same, wholeSame]
      exact joined

theorem declareAll {second whole : Reader} (joined : Joined first second.catalogue whole.catalogue)
    (declared : List Declared) :
    Joined first (second.declareAll declared).catalogue (whole.declareAll declared).catalogue := by
  induction declared generalizing second whole with
  | nil => exact joined
  | cons table declared ih =>
    rw [Reader.declareAll_cons, Reader.declareAll_cons]
    exact ih (joined.declare table.name table.columns)

end Joined

/-- Reading is compositional at every line break outside of blocks. The tables of the first part come
first and stay as they are; those of the second follow, unless the first has their name. Each
declaration is either a table or skipped, so a name is skipped once more if both parts have it. -/
theorem read_append_of_closed (first second : String) (closed : (scan first).block = none) :
    (read (first ++ "\n" ++ second)).catalogue.tables =
      (read first).catalogue.tables ++ renumbered ((read first).catalogue.size + 1)
        ((read second).catalogue.tables.filter (·.name ∉ (read first).catalogue.names)) ∧
    (read first).skipped <+: (read (first ++ "\n" ++ second)).skipped ∧
    (∀ name, (read (first ++ "\n" ++ second)).skipped.count name =
      (read first).skipped.count name + (read second).skipped.count name +
        if name ∈ (read first).catalogue.names ∧ name ∈ (read second).catalogue.names then 1 else 0) ∧
    (read (first ++ "\n" ++ second)).catalogue.size + (read (first ++ "\n" ++ second)).skipped.length =
      (read first).catalogue.size + (read first).skipped.length +
        ((read second).catalogue.size + (read second).skipped.length) := by
  obtain ⟨declared, follows⟩ := Reader.exists_declared none (trimmedLines second)
  have before : read first = (scan first).reading := Reader.finish_of_closed closed
  have alone : read second = (Reader.start.declareAll declared).reading := follows Reader.start rfl
  have whole : read (first ++ "\n" ++ second) = ((scan first).declareAll declared).reading := by
    rw [read_append]
    exact follows (scan first) closed
  have joined : Joined (read first).catalogue (read second).catalogue
      (read (first ++ "\n" ++ second)).catalogue := by
    have none_second : Joined (scan first).catalogue Reader.start.catalogue (scan first).catalogue :=
      Joined.empty _
    rw [before, alone, whole]
    exact none_second.declareAll declared
  have shared : ((read (first ++ "\n" ++ second)).catalogue.names ++
      (read (first ++ "\n" ++ second)).skipped).Perm
      ((read first).catalogue.names ++ (read first).skipped ++
        ((read second).catalogue.names ++ (read second).skipped)) := by
    rw [before, alone, whole]
    refine ((scan first).names_declareAll_perm declared).trans (List.Perm.append_left _ ?_)
    exact (Reader.start.names_declareAll_perm declared).symm
  refine ⟨joined, ?_, fun name => ?_, ?_⟩
  · rw [before, whole]
    exact (Extends.declareAll _ declared).skipped
  · have counted := shared.count_eq name
    have names := joined.count_names name
    simp only [List.count_append] at counted
    omega
  · simpa [Catalogue.names, Catalogue.size, Nat.add_assoc] using shared.length_eq

theorem read_append_of_closed_users :
    let first := "create_table :users do |t|\n  t.string :email\nend"
    let second := "create_table 'users'\ncreate_table :teams\ncreate_table :teams do |t|"
    (scan first).block = none ∧
      (read (first ++ "\n" ++ second)).catalogue.tables =
        [⟨1, "users", [⟨"email", "string"⟩]⟩, ⟨2, "teams", []⟩] ∧
      (read (first ++ "\n" ++ second)).skipped.count "users" = 1 := by
  intro first second
  have closed : (scan first).block = none := by decide +kernel
  obtain ⟨tables, _, counts, _⟩ := read_append_of_closed first second closed
  refine ⟨closed, tables.trans ?_, (counts "users").trans ?_⟩
  · decide +kernel
  · decide +kernel

/-- A reading that holds the tables of an earlier one under their numbers and names. Only the last of
them may have got more columns. -/
structure Grows (earlier later : Reading) : Prop where
  size : earlier.catalogue.size ≤ later.catalogue.size
  tables : ∀ place table, earlier.catalogue.tables[place]? = some table →
    ∃ grown, later.catalogue.tables[place]? = some grown ∧ grown.id = table.id ∧
      grown.name = table.name ∧ table.columns <+: grown.columns ∧
      (place + 1 < earlier.catalogue.size → grown.columns = table.columns)
  skipped : earlier.skipped <+: later.skipped

namespace Grows

theorem refl (reading : Reading) : Grows reading reading where
  size := le_rfl
  tables _ table placed := ⟨table, placed, rfl, rfl, List.prefix_refl _, fun _ => rfl⟩
  skipped := List.prefix_refl _

theorem extend {first second third : Reading} (grows : Grows first second)
    (wider : Extends second third) : Grows first third where
  size := grows.size.trans wider.tables.length_le
  tables place table placed := by
    obtain ⟨grown, found, facts⟩ := grows.tables place table placed
    obtain ⟨rest, whole⟩ := wider.tables
    refine ⟨grown, ?_, facts⟩
    rw [← whole, List.getElem?_append_left (List.getElem?_eq_some_iff.mp found).1, found]
  skipped := grows.skipped.trans wider.skipped

theorem of_last {earlier later : Reading} {kept : List Table} {last grown : Table}
    (tables : earlier.catalogue.tables = kept ++ [last])
    (laterTables : later.catalogue.tables = kept ++ [grown]) (id : grown.id = last.id)
    (name : grown.name = last.name) (columns : last.columns <+: grown.columns)
    (skipped : earlier.skipped <+: later.skipped) : Grows earlier later := by
  have size : earlier.catalogue.size = kept.length + 1 := by simp [Catalogue.size, tables]
  have laterSize : later.catalogue.size = kept.length + 1 := by simp [Catalogue.size, laterTables]
  refine ⟨(size.trans laterSize.symm).le, fun place table placed => ?_, skipped⟩
  rw [tables] at placed
  rw [laterTables, size]
  by_cases old : place < kept.length
  · rw [List.getElem?_append_left old] at placed ⊢
    exact ⟨table, placed, rfl, rfl, List.prefix_refl _, fun _ => rfl⟩
  · rw [List.getElem?_append_right (Nat.le_of_not_lt old), List.getElem?_singleton] at placed ⊢
    split at placed
    · rename_i here
      obtain rfl := Option.some.inj placed
      exact ⟨grown, if_pos here, id, name, columns, fun before => by omega⟩
    · contradiction

/-- A table that is declared with more columns takes the same place, or is skipped all the same. -/
theorem declare (reader : Reader) (name : String) (columns more : List Column) :
    Grows (reader.declare name columns).reading (reader.declare name (columns ++ more)).reading := by
  rcases reader.declare_cases name columns with ⟨fresh, next, same, tables⟩ | ⟨taken, same⟩
  · rcases reader.declare_cases name (columns ++ more) with
      ⟨_, wider, widerSame, widerTables⟩ | ⟨taken, _⟩
    · rw [same, widerSame]
      exact of_last tables widerTables rfl rfl (List.prefix_append _ _) (List.prefix_refl _)
    · exact absurd taken fresh
  · rcases reader.declare_cases name (columns ++ more) with ⟨fresh, _⟩ | ⟨_, widerSame⟩
    · exact absurd taken fresh
    · rw [same, widerSame]
      exact refl _

end Grows

/-- The lines that leave all declarations as they are, as a reader takes them: blank lines, comments
and the ends of blocks. -/
def IsIdle (line : List Char) : Prop :=
  line = [] ∨ ['#'] <+: line ∨ line = "end".toList ∨ line = r"}".toList

theorem IsIdle.reads_nothing {line : List Char} (idle : IsIdle line) :
    declaration? line = none ∧ column? line = none := by
  rcases idle with rfl | ⟨rest, rfl⟩ | rfl | rfl <;> exact ⟨rfl, rfl⟩

/-- Reading on after a line break keeps all tables under their numbers and names, also where the break
stands inside a block: only that block's table, the last one, may get more columns. Lines that declare
nothing change nothing. -/
theorem read_append_grows (first second : String) :
    Grows (read first) (read (first ++ "\n" ++ second)) ∧
    ((∀ line ∈ trimmedLines second, IsIdle line) → read (first ++ "\n" ++ second) = read first) := by
  rw [read_append]
  refine ⟨?_, fun idle => ?_⟩
  · cases state : (scan first).block with
    | none =>
      obtain ⟨declared, follows⟩ := Reader.exists_declared none (trimmedLines second)
      rw [follows (scan first) state, read, Reader.finish_of_closed state]
      exact (Grows.refl _).extend (Extends.declareAll _ declared)
    | some block =>
      obtain ⟨columns, declared, follows⟩ :=
        Reader.exists_declared_of_open block (trimmedLines second)
      rw [follows (scan first) state, read, Reader.finish_of_open state]
      exact (Grows.declare _ block.name block.columns columns).extend (Extends.declareAll _ declared)
  · exact Reader.finish_foldl_of_idle (fun line member => (idle line member).reads_nothing) _

theorem read_append_grows_openUsers :
    let first := "create_table :users\ncreate_table :teams do |t|\n  t.string :title"
    let more := "  t.integer :rank\nend\ncreate_table :notes"
    let idle := "  # the last block\n\n  end\n" ++ r"}"
    (∀ line ∈ trimmedLines idle, IsIdle line) ∧ read (first ++ "\n" ++ idle) = read first ∧
      (∃ grown, (read (first ++ "\n" ++ more)).catalogue.tables[1]? = some grown ∧ grown.id = 2 ∧
        grown.name = "teams" ∧ [⟨"title", "string"⟩] <+: grown.columns) := by
  intro first more idle
  have lines : trimmedLines idle = ["# the last block".toList, [], "end".toList, r"}".toList] := by
    decide +kernel
  have allIdle : ∀ line ∈ trimmedLines idle, IsIdle line := by
    rw [lines]
    simp [IsIdle]
  refine ⟨allIdle, (read_append_grows first idle).2 allIdle, ?_⟩
  have placed : (read first).catalogue.tables[1]? = some ⟨2, "teams", [⟨"title", "string"⟩]⟩ := by
    decide +kernel
  obtain ⟨grown, found, id, name, columns, _⟩ := (read_append_grows first more).1.tables 1 _ placed
  exact ⟨grown, found, id, name, columns⟩

end TableScript.Schema
