import TableScript.Proofs.Schema.RoundTrip
import Mathlib.Tactic.TFAE

/-! When lines at the front of a text can stand for other lines, whatever follows them. If both declare
one table they must give it the same columns; lines that leave a block open stand for none that do not. -/
namespace TableScript.Schema

open Text (trim)

namespace WrittenTable

def named (name : String) : WrittenTable := ⟨name, .double, [], .bare, [], [], none, [], none⟩

theorem wellFormed_named {name : String} (isName : IsTableName name.toList) : (named name).WellFormed :=
  ⟨isName, nofun, nofun, fun _ => rfl, ⟨nofun, nofun⟩, ⟨nofun, nofun⟩, nofun, nofun⟩

theorem isLinePart_of_mem_named {name : String} (isName : IsTableName name.toList) :
    ∀ line ∈ (named name).lines, IsLinePart line :=
  (wellFormed_named isName).isLinePart_of_mem_lines (nofun : IsLinePart [])

end WrittenTable

open WrittenTable (named wellFormed_named isLinePart_of_mem_named)

theorem closes_of_declaration? {line name rest : List Char} (read : declaration? line = some (name, rest))
    (closer : Closer) : closer.closes line = false := by
  obtain ⟨_, _, _, _, _, _, rfl⟩ := declaration?_eq_some_iff.mp read
  cases closer <;> rfl

/-- A table without a block stands on one line, which ends no block, and an empty line follows it. -/
theorem closes_of_mem_named {name : String} (isName : IsTableName name.toList) {line : List Char}
    (member : line ∈ trimmedLines (textOf (named name).lines)) (closer : Closer) :
    closer.closes line = false := by
  have whole := trimmedLines_textOf (isLinePart_of_mem_named isName) ""
  rw [String.append_empty] at whole
  rw [whole] at member
  rcases List.mem_append.mp member with header | last
  · obtain rfl : line = trim ((named name).header ++ []) := List.mem_singleton.mp header
    exact closes_of_declaration? ((wellFormed_named isName).declaration?_header rfl) closer
  · obtain rfl : line = [] := List.mem_singleton.mp last
    cases closer <;> rfl

/-- Ending a reading declares one more table at most. -/
theorem size_read_le (text : String) : (read text).catalogue.size ≤ (scan text).catalogue.size + 1 := by
  unfold read Reader.finish
  split
  · rename_i block _
    rcases (scan text).declare_cases block.name block.columns with ⟨_, catalogue, same, tables⟩ | ⟨_, same⟩
    · simp [same, Catalogue.size, tables]
    · simp [same]
  · exact Nat.le_succ _

/-- What lines come to where no block is open: they declare a table with certain columns, or they leave a
block open. -/
def Declares (lines : List (List Char)) (name : String) (outcome : Option (List Column)) : Prop :=
  ∀ reader : Reader, reader.block = none → match outcome with
    | some columns => (lines.map trim).foldl Reader.step reader = reader.declare name columns
    | none => ∃ block, (lines.map trim).foldl Reader.step reader = { reader with block := some block }

theorem declares_of_enter {lines : List (List Char)} {name : String} {shape : Shape}
    (run : ∀ reader : Reader, reader.block = none →
      (lines.map trim).foldl Reader.step reader = reader.enter name shape) :
    Declares lines name shape.columns? := by
  intro reader closed
  cases shape with
  | opened closer => exact ⟨_, run reader closed⟩
  | bare => exact run reader closed
  | inline body => exact run reader closed

/-- Groups of lines that each declare a table at once declare their tables one after the other. -/
theorem foldl_step_groups {tables : List WrittenTable} {lines : WrittenTable → List (List Char)}
    (declares : ∀ written ∈ tables, Declares (lines written) written.name (some written.declared))
    {reader : Reader} (closed : reader.block = none) :
    ((tables.flatMap lines).map trim).foldl Reader.step reader =
      tables.foldl (fun reader written => reader.declare written.name written.declared) reader := by
  induction tables generalizing reader with
  | nil => rfl
  | cons written tables ih =>
    have first : ((lines written).map trim).foldl Reader.step reader =
        reader.declare written.name written.declared := declares written List.mem_cons_self reader closed
    have rest := ih (fun other member => declares other (List.mem_cons_of_mem written member))
      (Reader.block_declare reader written.name written.declared)
    rw [List.flatMap_cons, List.map_append, List.foldl_append, first, rest, List.foldl_cons]

section Block

variable {written : WrittenTable} (wellFormed : written.WellFormed)

include wellFormed

/-- The lines of a block declare no table and end no block of another kind. -/
theorem WrittenTable.WellFormed.marks_of_mem_block {closer : Closer} {line : List Char}
    (member : line ∈ (written.columns.map WrittenColumn.line ++
      [written.lastIndent ++ closer.mark ++ comment written.lastRemark]).map trim) :
    declaration? line = none ∧ ∀ other ≠ closer, other.closes line = false := by
  obtain ⟨source, present, rfl⟩ := List.mem_map.mp member
  rcases List.mem_append.mp present with indented | last
  · obtain ⟨column, isColumn, rfl⟩ := List.mem_map.mp indented
    obtain ⟨ends, declares⟩ := marks_of_column? (wellFormed.columns column isColumn).column?_line
    exact ⟨declares, fun other _ => ends other⟩
  · obtain rfl := List.mem_singleton.mp last
    rw [List.append_assoc, Text.trim_append_left wellFormed.lastIndent.2, closer.tight_mark.trim_append]
    cases closer with
    | word => exact ⟨rfl, fun other differs => by cases other <;> first | contradiction | rfl⟩
    | brace => exact ⟨rfl, fun other differs => by cases other <;> first | contradiction | rfl⟩

/-- A block on lines of its own is read if the declaration's line opens it; if that line has the block
already, the lines after it are passed over. -/
theorem WrittenTable.WellFormed.declares_opened {closer : Closer} {shape : Shape}
    (run : ∀ reader : Reader, reader.block = none → (written.lines.map trim).foldl Reader.step reader =
      ((written.columns.map WrittenColumn.line ++
        [written.lastIndent ++ closer.mark ++ comment written.lastRemark]).map trim).foldl Reader.step
          (reader.enter written.name shape)) :
    Declares written.lines written.name
      (if shape = .opened closer then some written.declared else shape.columns?) := by
  intro reader closed
  have here := run reader closed
  have undeclared : ∀ line ∈ (written.columns.map WrittenColumn.line ++
      [written.lastIndent ++ closer.mark ++ comment written.lastRemark]).map trim,
        declaration? line = none := fun line member => (wellFormed.marks_of_mem_block member).1
  have passed (columns : List Column) := Reader.foldl_step_of_undeclared
    (Reader.block_declare reader written.name columns) undeclared
  cases shape with
  | bare => exact here.trans (passed [])
  | inline body => exact here.trans (passed (inlineColumns body))
  | opened other =>
    by_cases same : other = closer
    · subst same
      rw [if_pos rfl]
      exact here.trans (wellFormed.foldl_step_block rfl)
    · rw [if_neg (mt Shape.opened.inj same)]
      rw [Reader.foldl_step_of_open rfl fun line member =>
        (wellFormed.marks_of_mem_block member).2 other same] at here
      exact ⟨_, here⟩

end Block

section Front

variable {lines others : List (List Char)} (parts : ∀ line ∈ lines, IsLinePart line)
  (otherParts : ∀ line ∈ others, IsLinePart line) {name : String} {otherColumns : List Column}
  (otherDeclared : Declares others name (some otherColumns))

include otherParts otherDeclared

/-- A table that is declared by lines and another one after it are two. -/
theorem size_read_named {next : String} (isName : IsTableName next.toList) (other : next ≠ name) :
    (read (textOf others ++ textOf (named next).lines)).catalogue.size = 2 := by
  have joined : textOf others ++ textOf (named next).lines = textOf (others ++ (named next).lines) := by
    simp [textOf]
  have bothParts : ∀ line ∈ others ++ (named next).lines, IsLinePart line := by
    intro line member
    rcases List.mem_append.mp member with first | second
    · exact otherParts line first
    · exact isLinePart_of_mem_named isName line second
  have run : ((others ++ (named next).lines).map trim).foldl Reader.step .start =
      (Reader.start.declare name otherColumns).declare next [] := by
    rw [List.map_append, List.foldl_append, otherDeclared .start rfl]
    exact (wellFormed_named isName).foldl_step_lines rfl rfl (Reader.block_declare _ _ _)
  have first := Reader.tables_declare_start name otherColumns
  rw [joined, read_textOf_eq bothParts (Reader.block_declare _ _ _) run, Catalogue.size]
  rcases (Reader.start.declare name otherColumns).declare_cases next [] with
    ⟨_, catalogue, same, tables⟩ | ⟨taken, _⟩
  · simp [same, tables, first]
  · rw [Catalogue.names, first] at taken
    exact absurd (List.mem_singleton.mp taken) other

include parts

/-- Lines that leave a block open swallow the table after them. -/
theorem not_alike_of_open (isOpen : Declares lines name none) :
    ¬ ∀ rest : String,
      (read (textOf lines ++ rest)).catalogue = (read (textOf others ++ rest)).catalogue := by
  obtain ⟨block, run⟩ := isOpen .start rfl
  obtain ⟨next, isName, other⟩ : ∃ next : String, IsTableName next.toList ∧ next ≠ name := by
    by_cases first : name = "a"
    · exact ⟨"b", by decide, by rw [first]; decide⟩
    · exact ⟨"a", by decide, Ne.symm first⟩
  have swallowed : (scan (textOf lines ++ textOf (named next).lines)).catalogue = .empty := by
    rw [scan_textOf parts, run, Reader.foldl_step_of_open rfl fun line member =>
      closes_of_mem_named isName member block.closer]
    rfl
  have less := size_read_le (textOf lines ++ textOf (named next).lines)
  intro alike
  rw [swallowed, alike, size_read_named otherParts otherDeclared isName other] at less
  contradiction

/-- Lines can stand for others that declare a table at once exactly when they declare it too, with the
same columns. -/
theorem alike_tfae {outcome : Option (List Column)} (comes : Declares lines name outcome) :
    List.TFAE [
      ∀ rest : String, read (textOf lines ++ rest) = read (textOf others ++ rest),
      ∀ rest : String, (read (textOf lines ++ rest)).catalogue = (read (textOf others ++ rest)).catalogue,
      outcome = some otherColumns] := by
  tfae_have 1 → 2 := fun alike rest => congrArg Reading.catalogue (alike rest)
  tfae_have 2 → 3 := by
    intro alike
    cases outcome with
    | none => exact absurd alike (not_alike_of_open parts otherParts otherDeclared comes)
    | some columns =>
      have same := alike ""
      rw [String.append_empty, String.append_empty, read_textOf_eq parts (by simp) (comes .start rfl),
        read_textOf_eq otherParts (by simp) (otherDeclared .start rfl)] at same
      have tables := congrArg Catalogue.tables same
      simpa [Reader.tables_declare_start] using tables
  tfae_have 3 → 1 := by
    rintro rfl rest
    rw [read, read, scan_textOf parts, scan_textOf otherParts, comes .start rfl, otherDeclared .start rfl]
  tfae_finish

end Front

end TableScript.Schema
