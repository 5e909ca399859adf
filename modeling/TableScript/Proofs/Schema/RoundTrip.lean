import TableScript.Proofs.Schema.Written

/-! Reading undoes writing. Whatever forms the tables of a schema are written in, side by side, each
declaration leaves the reader as it found it but for one more table, so the next one is read as if it
stood alone. -/
namespace TableScript.Schema

open Text (trim)

/-- Written lines are read before whatever follows them. -/
theorem trimmedLines_textOf {lines : List (List Char)} (parts : ∀ line ∈ lines, IsLinePart line)
    (rest : String) : trimmedLines (textOf lines ++ rest) = lines.map trim ++ trimmedLines rest := by
  rw [trimmedLines, Text.lines, String.toList_append, textOf, String.toList_ofList,
    Text.splitOn_terminated parts, List.map_append]
  rfl

theorem scan_textOf {lines : List (List Char)} (parts : ∀ line ∈ lines, IsLinePart line) (rest : String) :
    scan (textOf lines ++ rest) =
      (trimmedLines rest).foldl Reader.step ((lines.map trim).foldl Reader.step .start) := by
  rw [scan, trimmedLines_textOf parts, List.foldl_append]

/-- A text that ends with its last line break has an empty line at its end, which declares nothing. -/
theorem read_textOf_eq {lines : List (List Char)} (parts : ∀ line ∈ lines, IsLinePart line)
    {reader : Reader} (closed : reader.block = none)
    (scanned : (lines.map trim).foldl Reader.step .start = reader) :
    read (textOf lines) = ⟨reader.catalogue, reader.skipped⟩ := by
  have whole := scan_textOf parts ""
  have last : (trimmedLines "").foldl Reader.step reader = reader :=
    Reader.foldl_step_of_undeclared closed (by decide)
  rw [String.append_empty, scanned, last] at whole
  rw [read, whole, Reader.finish, closed]

def numbered (first : Nat) (tables : List WrittenTable) : List Table :=
  (tables.zipIdx first).map fun (written, id) => ⟨id, written.name, written.declared⟩

theorem isLinePart_of_mem_plain {tables : List WrittenTable}
    (plain : ∀ written ∈ tables, written.WellFormed ∧ written.options = []) :
    ∀ line ∈ tables.flatMap WrittenTable.lines, IsLinePart line := by
  intro line member
  obtain ⟨written, present, inside⟩ := List.mem_flatMap.mp member
  obtain ⟨wellFormed, unoptioned⟩ := plain written present
  exact wellFormed.isLinePart_lines unoptioned line inside

theorem isLinePart_of_mem_flatMap {tables : List WrittenTable}
    (wellFormed : ∀ written ∈ tables, written.WellFormed)
    (plain : ∀ written ∈ tables, written.options = [] ∧ written.remark = none) :
    ∀ line ∈ tables.flatMap WrittenTable.lines, IsLinePart line :=
  isLinePart_of_mem_plain fun written member => ⟨wellFormed written member, (plain written member).1⟩

/-- Tables with new names are declared one after the other, and no block stays open between them. -/
theorem foldl_step_tables {tables : List WrittenTable} (wellFormed : ∀ written ∈ tables, written.WellFormed)
    (plain : ∀ written ∈ tables, written.options = [] ∧ written.remark = none)
    (distinct : (tables.map WrittenTable.name).Nodup) {reader : Reader} (closed : reader.block = none)
    (fresh : ∀ written ∈ tables, written.name ∉ reader.catalogue.names) :
    ∃ catalogue, ((tables.flatMap WrittenTable.lines).map trim).foldl Reader.step reader =
        ⟨catalogue, reader.skipped, none⟩ ∧
      catalogue.tables = reader.catalogue.tables ++ numbered (reader.catalogue.size + 1) tables := by
  induction tables generalizing reader with
  | nil =>
    refine ⟨reader.catalogue, ?_, by simp [numbered]⟩
    rw [← closed]
    rfl
  | cons written tables ih =>
    obtain ⟨options, remark⟩ := plain written List.mem_cons_self
    have declared := (wellFormed written List.mem_cons_self).foldl_step_lines options remark closed
    -- The rest is read from a catalogue with one name more, so the names to come must be fresh again.
    rcases reader.declare_cases written.name written.declared with
      ⟨_, catalogue, next, extended⟩ | ⟨taken, _⟩
    · rw [List.map_cons, List.nodup_cons] at distinct
      have size : catalogue.size = reader.catalogue.size + 1 := by
        simp [Catalogue.size, extended]
      have still : ∀ other ∈ tables, other.name ∉ catalogue.names := by
        intro other member
        rw [Catalogue.names, extended, List.map_append, List.mem_append, List.map_singleton,
          List.mem_singleton, not_or]
        refine ⟨fresh other (List.mem_cons_of_mem written member), fun same => distinct.1 ?_⟩
        rw [show written.name = other.name from same.symm]
        exact List.mem_map_of_mem member
      have stillClosed : (⟨catalogue, reader.skipped, none⟩ : Reader).block = none := rfl
      obtain ⟨final, run, appended⟩ := ih
        (fun other member => wellFormed other (List.mem_cons_of_mem written member))
        (fun other member => plain other (List.mem_cons_of_mem written member)) distinct.2 stillClosed still
      refine ⟨final, ?_, ?_⟩
      · rw [List.flatMap_cons, List.map_append, List.foldl_append, declared, next, run]
      · rw [appended, extended, size]
        simp [numbered, List.zipIdx_cons]
    · exact absurd taken (fresh written List.mem_cons_self)

/-- A schema is read as the tables it was written from, numbered in their order, with all their
columns and nothing skipped. Forms may be mixed freely among tables and columns. -/
theorem read_textOf_tables {tables : List WrittenTable} (wellFormed : ∀ written ∈ tables, written.WellFormed)
    (plain : ∀ written ∈ tables, written.options = [] ∧ written.remark = none)
    (distinct : (tables.map WrittenTable.name).Nodup) :
    (read (textOf (tables.flatMap WrittenTable.lines))).catalogue.tables = numbered 1 tables ∧
      (read (textOf (tables.flatMap WrittenTable.lines))).skipped = [] := by
  have parts := isLinePart_of_mem_flatMap wellFormed plain
  obtain ⟨catalogue, run, appended⟩ := foldl_step_tables wellFormed plain distinct
    (rfl : Reader.start.block = none) (fun _ _ => List.not_mem_nil)
  rw [read_textOf_eq parts rfl run]
  exact ⟨appended, rfl⟩

def usersAndTeams : List WrittenTable :=
  [{ name := "audit.users", quote := .double, options := [], block := .opened .word, indent := "  ".toList,
     columns := [⟨⟨"email", "string"⟩, .typed .single, "\t".toList, some " null: false".toList, none⟩,
       ⟨⟨"index", "index"⟩, .stated .symbol .double, [], none, none⟩],
     remark := none, lastIndent := [], lastRemark := none },
   { name := "teams", quote := .symbol, options := [], block := .inline .brace, indent := [],
     columns := [⟨⟨"end", "text"⟩, .typed .symbol, [' '], none, none⟩,
       ⟨⟨"do", "text"⟩, .typed .double, [], none, none⟩],
     remark := none, lastIndent := [], lastRemark := none }]

theorem read_textOf_usersAndTeams :
    (∀ written ∈ usersAndTeams, written.WellFormed) ∧
      (read (textOf (usersAndTeams.flatMap WrittenTable.lines))).catalogue.tables =
        [⟨1, "audit.users", [⟨"email", "string"⟩, ⟨"index", "index"⟩]⟩,
          ⟨2, "teams", [⟨"end", "text"⟩, ⟨"do", "text"⟩]⟩] := by
  have columns : ∀ written ∈ usersAndTeams, ∀ column ∈ written.columns, column.WellFormed := by
    simp only [usersAndTeams, List.forall_mem_cons, List.not_mem_nil, false_implies, implies_true, and_true]
    refine ⟨⟨?_, ?_⟩, ?_, ?_⟩ <;> constructor <;> first | decide | exact fun _ _ => by decide | nofun
  have wellFormed : ∀ written ∈ usersAndTeams, written.WellFormed := by
    intro written member
    have inner := columns written member
    simp only [usersAndTeams, List.mem_cons, List.not_mem_nil, or_false] at member
    rcases member with rfl | rfl <;>
      exact ⟨by decide, by decide, inner, nofun, by decide, by decide, nofun, nofun⟩
  exact ⟨wellFormed, (read_textOf_tables wellFormed (by decide) (by decide)).1⟩

end TableScript.Schema
