import TableScript.Proofs.Schema.Declaration
import TableScript.Schema.Reader

/-! What one line does to a reader, and what every reading keeps: the names and kinds that reach the
catalogue are made of the accepted characters, whatever the text. -/
namespace TableScript.Schema

namespace Reader

/-- Declaring a table ends the block and appends the table unless its name is taken; a taken name is
skipped and recorded. -/
theorem declare_cases (reader : Reader) (name : String) (columns : List Column) :
    (name ∉ reader.catalogue.names ∧ ∃ catalogue,
      reader.declare name columns = ⟨catalogue, reader.skipped, none⟩ ∧ catalogue.tables =
        reader.catalogue.tables ++ [⟨reader.catalogue.size + 1, name, columns⟩]) ∨
    (name ∈ reader.catalogue.names ∧
      reader.declare name columns = ⟨reader.catalogue, reader.skipped ++ [name], none⟩) := by
  unfold declare
  cases added : reader.catalogue.add? name columns with
  | none => exact .inr ⟨Catalogue.add?_eq_none_iff.mp added, rfl⟩
  | some catalogue =>
    refine .inl ⟨fun taken => ?_, catalogue, rfl, Catalogue.tables_add? added⟩
    rw [Catalogue.add?_eq_none_iff.mpr taken] at added
    contradiction

@[simp] theorem block_declare (reader : Reader) (name : String) (columns : List Column) :
    (reader.declare name columns).block = none := by
  unfold declare
  split <;> rfl

theorem tables_declare_start (name : String) (columns : List Column) :
    (start.declare name columns).catalogue.tables = [⟨1, name, columns⟩] := by
  rcases start.declare_cases name columns with ⟨_, catalogue, same, tables⟩ | ⟨taken, _⟩
  · rw [same]
    exact tables
  · contradiction

def enter (reader : Reader) (name : String) : Shape → Reader
  | .bare => reader.declare name []
  | .opened closer => { reader with block := some ⟨name, closer, []⟩ }
  | .inline body => reader.declare name (inlineColumns body)

theorem step_of_declaration? {reader : Reader} (closed : reader.block = none) {line name rest : List Char}
    (read : declaration? line = some (name, rest)) :
    reader.step line = reader.enter (String.ofList name) (.ofRest rest) := by
  simp only [step, closed, outside, read]
  cases Shape.ofRest rest <;> rfl

theorem step_of_undeclared {reader : Reader} (closed : reader.block = none) {line : List Char}
    (read : declaration? line = none) : reader.step line = reader := by
  simp only [step, closed, outside, read]

/-- A line that does not end the block adds at most a column to it. -/
theorem step_of_open {reader : Reader} {block : Block} (isOpen : reader.block = some block)
    {line : List Char} (inside : block.closer.closes line = false) :
    reader.step line =
      { reader with block := some { block with columns := block.columns ++ (column? line).toList } } := by
  simp only [step, isOpen, Reader.inside, inside, Bool.false_eq_true, if_false]
  cases column? line with
  | some column => rfl
  | none =>
    rw [Option.toList_none, List.append_nil, ← isOpen]

theorem step_of_closes {reader : Reader} {block : Block} (isOpen : reader.block = some block)
    {line : List Char} (ends : block.closer.closes line = true) :
    reader.step line = reader.declare block.name block.columns := by
  simp only [step, isOpen, Reader.inside, ends, if_true]

/-- While no line ends the block, it collects the columns among the lines. -/
theorem foldl_step_of_open {reader : Reader} {block : Block} (isOpen : reader.block = some block)
    {lines : List (List Char)} (inside : ∀ line ∈ lines, block.closer.closes line = false) :
    lines.foldl step reader =
      { reader with block := some { block with columns := block.columns ++ lines.filterMap column? } } := by
  induction lines generalizing reader block with
  | nil =>
    rw [List.filterMap_nil, List.append_nil, ← isOpen]
    rfl
  | cons line lines ih =>
    have here := step_of_open isOpen (inside line List.mem_cons_self)
    have later := @ih (reader.step line)
      { block with columns := block.columns ++ (column? line).toList } (by rw [here])
      fun other member => inside other (List.mem_cons_of_mem line member)
    rw [List.foldl_cons, later, here]
    cases read : column? line <;> simp [read]

/-- While no block is open, lines that declare nothing are passed over. -/
theorem foldl_step_of_undeclared {reader : Reader} (closed : reader.block = none)
    {lines : List (List Char)} (passed : ∀ line ∈ lines, declaration? line = none) :
    lines.foldl step reader = reader := by
  induction lines with
  | nil => rfl
  | cons line lines ih =>
    rw [List.foldl_cons, step_of_undeclared closed (passed line List.mem_cons_self)]
    exact ih fun other member => passed other (List.mem_cons_of_mem line member)


end Reader

def IsNamedColumn (column : Column) : Prop :=
  IsIdentifier column.name.toList ∧ IsIdentifier column.kind.toList

def IsNamedTable (table : Table) : Prop :=
  IsTableName table.name.toList ∧ ∀ column ∈ table.columns, IsNamedColumn column

def Block.Named (block : Block) : Prop :=
  IsTableName block.name.toList ∧ ∀ column ∈ block.columns, IsNamedColumn column

/-- The invariant of reading: all names in the catalogue and in the open block are well formed. -/
structure Reader.Named (reader : Reader) : Prop where
  tables : ∀ table ∈ reader.catalogue.tables, IsNamedTable table
  block : ∀ block ∈ reader.block, block.Named

theorem ColumnLine.isNamedColumn {line : List Char} {column : Column}
    (written : ColumnLine line column) : IsNamedColumn column := by
  cases written with
  | typed quote identifier ordinary unstated separates named ends =>
    exact ⟨by simpa using named, by simpa using identifier⟩
  | stated first second separates named gapBefore gapAfter identifier ends =>
    exact ⟨by simpa using named, by simpa using identifier⟩

theorem isNamedColumn_of_column? {line : List Char} {column : Column}
    (read : column? line = some column) : IsNamedColumn column :=
  (column?_eq_some_iff.mp read).isNamedColumn

theorem isTableName_of_declaration? {line name rest : List Char}
    (read : declaration? line = some (name, rest)) : IsTableName name := by
  obtain ⟨_, _, _, isName, _⟩ := declaration?_eq_some_iff.mp read
  exact isName

theorem isNamedColumn_of_mem_inlineColumns {body : List Char} {column : Column}
    (member : column ∈ inlineColumns body) : IsNamedColumn column := by
  obtain ⟨piece, _, read⟩ := List.mem_filterMap.mp member
  exact isNamedColumn_of_column? read

namespace Reader.Named

theorem start : Reader.start.Named := ⟨nofun, nofun⟩

theorem declare {reader : Reader} (named : reader.Named) {name : String} {columns : List Column}
    (isName : IsTableName name.toList) (columnsNamed : ∀ column ∈ columns, IsNamedColumn column) :
    (reader.declare name columns).Named := by
  rcases reader.declare_cases name columns with ⟨_, catalogue, same, tables⟩ | ⟨_, same⟩
  · rw [same]
    refine ⟨fun table member => ?_, nofun⟩
    rw [tables, List.mem_append, List.mem_singleton] at member
    rcases member with old | rfl
    · exact named.tables table old
    · exact ⟨isName, columnsNamed⟩
  · rw [same]
    exact ⟨named.tables, nofun⟩

theorem outside {reader : Reader} (named : reader.Named) (line : List Char) :
    (reader.outside line).Named := by
  unfold Reader.outside
  split
  · exact named
  · rename_i name rest read
    have isName : IsTableName (String.ofList name).toList := by
      simpa using isTableName_of_declaration? read
    split
    · exact named.declare isName (by simp)
    · refine ⟨named.tables, fun block opened => ?_⟩
      obtain rfl := Option.some.inj opened
      exact ⟨isName, by simp⟩
    · exact named.declare isName fun _ => isNamedColumn_of_mem_inlineColumns

theorem inside {reader : Reader} (named : reader.Named) {block : Block} (open_ : reader.block = some block)
    (line : List Char) : (reader.inside block line).Named := by
  obtain ⟨isName, columnsNamed⟩ := named.block block open_
  unfold Reader.inside
  split
  · exact named.declare isName columnsNamed
  · split
    · rename_i column read
      refine ⟨named.tables, fun next grown => ?_⟩
      obtain rfl := Option.some.inj grown
      refine ⟨isName, fun other member => ?_⟩
      rcases List.mem_append.mp member with old | new
      · exact columnsNamed other old
      · obtain rfl := List.mem_singleton.mp new
        exact isNamedColumn_of_column? read
    · exact named

theorem step {reader : Reader} (named : reader.Named) (line : List Char) :
    (reader.step line).Named := by
  unfold Reader.step
  split
  · rename_i block isOpen
    exact named.inside isOpen line
  · exact named.outside line

theorem foldl {reader : Reader} (named : reader.Named) (lines : List (List Char)) :
    (lines.foldl Reader.step reader).Named := by
  induction lines generalizing reader with
  | nil => exact named
  | cons line lines ih => exact ih (named.step line)

end Reader.Named

/-- Whatever the text, every table that is read has a table name and columns with identifiers as
names and kinds. -/
theorem isNamedTable_of_mem_read {text : String} {table : Table}
    (member : table ∈ (read text).catalogue.tables) : IsNamedTable table := by
  have scanned : (scan text).Named := Reader.Named.start.foldl _
  unfold read Reader.finish at member
  split at member
  · rename_i block isOpen
    obtain ⟨isName, columnsNamed⟩ := scanned.block block isOpen
    exact (scanned.declare isName columnsNamed).tables table member
  · exact scanned.tables table member

end TableScript.Schema
