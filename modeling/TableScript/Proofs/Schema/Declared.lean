import TableScript.Proofs.Schema.Reader

/-! What lines declare. A line looks at the open block and never at the catalogue, so lines declare
the same tables in the same order to all readers that come to them with the same block. Taken names
only matter afterwards, where the tables are declared one after the other. -/
namespace TableScript.Schema

structure Declared where
  name : String
  columns : List Column

namespace Reader

def reading (reader : Reader) : Reading := ⟨reader.catalogue, reader.skipped⟩

def declareAll (reader : Reader) (declared : List Declared) : Reader :=
  declared.foldl (fun reader table => reader.declare table.name table.columns)
    { reader with block := none }

theorem finish_of_closed {reader : Reader} (closed : reader.block = none) :
    reader.finish = reader.reading := by
  simp only [finish, closed, reading]

theorem finish_of_open {reader : Reader} {block : Block} (isOpen : reader.block = some block) :
    reader.finish = (reader.declare block.name block.columns).reading := by
  simp only [finish, isOpen, reading]

theorem finish_declare (reader : Reader) (name : String) (columns : List Column) :
    (reader.declare name columns).finish = (reader.declare name columns).reading :=
  finish_of_closed (reader.block_declare name columns)

theorem declareAll_nil {reader : Reader} (closed : reader.block = none) :
    reader.declareAll [] = reader := by
  rw [declareAll, List.foldl_nil, ← closed]

theorem declareAll_cons (reader : Reader) (table : Declared) (declared : List Declared) :
    reader.declareAll (table :: declared) =
      (reader.declare table.name table.columns).declareAll declared := by
  have closed := reader.block_declare table.name table.columns
  simp only [declareAll, List.foldl_cons]
  congr 1
  calc ({ reader with block := none } : Reader).declare table.name table.columns
    _ = reader.declare table.name table.columns := rfl
    _ = { reader.declare table.name table.columns with block := none } := by rw [← closed]

/-- A line either declares a table, which ends the block, or changes nothing but the block. -/
theorem step_cases (block : Option Block) (line : List Char) :
    (∃ table : Declared, ∀ reader : Reader, reader.block = block →
      reader.step line = reader.declare table.name table.columns) ∨
    ∃ next : Option Block, ∀ reader : Reader, reader.block = block →
      reader.step line = { reader with block := next } := by
  cases block with
  | none =>
    cases read : declaration? line with
    | none =>
      refine .inr ⟨none, fun reader closed => ?_⟩
      rw [step_of_undeclared closed read, ← closed]
    | some header =>
      obtain ⟨name, rest⟩ := header
      cases shape : Shape.ofRest rest with
      | bare =>
        refine .inl ⟨⟨String.ofList name, []⟩, fun reader closed => ?_⟩
        rw [step_of_declaration? closed read, shape, enter]
      | opened closer =>
        refine .inr ⟨some ⟨String.ofList name, closer, []⟩, fun reader closed => ?_⟩
        rw [step_of_declaration? closed read, shape, enter]
      | inline body =>
        refine .inl ⟨⟨String.ofList name, inlineColumns body⟩, fun reader closed => ?_⟩
        rw [step_of_declaration? closed read, shape, enter]
  | some block =>
    cases ends : block.closer.closes line with
    | true => exact .inl ⟨⟨block.name, block.columns⟩, fun reader isOpen => step_of_closes isOpen ends⟩
    | false => exact .inr ⟨_, fun reader isOpen => step_of_open isOpen ends⟩

/-- What lines declare depends on the block before them alone. -/
theorem exists_declared (block : Option Block) (lines : List (List Char)) :
    ∃ declared, ∀ reader : Reader, reader.block = block →
      (lines.foldl step reader).finish = (reader.declareAll declared).reading := by
  induction lines generalizing block with
  | nil =>
    cases block with
    | none =>
      refine ⟨[], fun reader closed => ?_⟩
      rw [declareAll_nil closed]
      exact finish_of_closed closed
    | some block => exact ⟨[⟨block.name, block.columns⟩], fun reader isOpen => finish_of_open isOpen⟩
  | cons line lines ih =>
    rcases step_cases block line with ⟨table, declares⟩ | ⟨next, moves⟩
    · obtain ⟨declared, rest⟩ := ih none
      refine ⟨table :: declared, fun reader same => ?_⟩
      rw [List.foldl_cons, declares reader same, declareAll_cons]
      exact rest _ (reader.block_declare table.name table.columns)
    · obtain ⟨declared, rest⟩ := ih next
      refine ⟨declared, fun reader same => ?_⟩
      rw [List.foldl_cons, moves reader same]
      exact rest { reader with block := next } rfl

/-- Lines that follow an open block declare its table first. They may give it more columns, but
cannot take back its name or the columns it has. -/
theorem exists_declared_of_open (block : Block) (lines : List (List Char)) :
    ∃ columns declared, ∀ reader : Reader, reader.block = some block →
      (lines.foldl step reader).finish =
        ((reader.declare block.name (block.columns ++ columns)).declareAll declared).reading := by
  induction lines generalizing block with
  | nil =>
    refine ⟨[], [], fun reader isOpen => ?_⟩
    rw [List.append_nil, declareAll_nil (reader.block_declare _ _)]
    exact finish_of_open isOpen
  | cons line lines ih =>
    cases ends : block.closer.closes line with
    | true =>
      obtain ⟨declared, rest⟩ := exists_declared none lines
      refine ⟨[], declared, fun reader isOpen => ?_⟩
      rw [List.foldl_cons, step_of_closes isOpen ends, List.append_nil]
      exact rest _ (reader.block_declare block.name block.columns)
    | false =>
      obtain ⟨columns, declared, rest⟩ :=
        ih { block with columns := block.columns ++ (column? line).toList }
      refine ⟨(column? line).toList ++ columns, declared, fun reader isOpen => ?_⟩
      rw [List.foldl_cons, step_of_open isOpen ends, ← List.append_assoc]
      exact rest { reader with
        block := some { block with columns := block.columns ++ (column? line).toList } } rfl

/-- Lines that declare neither a table nor a column may end the open block, which then declares
what it would declare at the end of the text. -/
theorem finish_foldl_of_idle {lines : List (List Char)}
    (idle : ∀ line ∈ lines, declaration? line = none ∧ column? line = none) (reader : Reader) :
    (lines.foldl step reader).finish = reader.finish := by
  induction lines generalizing reader with
  | nil => rfl
  | cons line lines ih =>
    obtain ⟨undeclared, noColumn⟩ := idle line List.mem_cons_self
    rw [List.foldl_cons, ih fun other member => idle other (List.mem_cons_of_mem line member)]
    cases state : reader.block with
    | none => rw [step_of_undeclared state undeclared]
    | some block =>
      cases ends : block.closer.closes line with
      | true => rw [step_of_closes state ends, finish_declare, finish_of_open state]
      | false =>
        rw [step_of_open state ends, noColumn, Option.toList_none, List.append_nil, ← state]

end Reader

/-- A text after a line break is read on from where the text before it leaves the reader. -/
theorem read_append (first second : String) :
    read (first ++ "\n" ++ second) = ((trimmedLines second).foldl Reader.step (scan first)).finish := by
  have parted : (first ++ "\n" ++ second).toList = first.toList ++ '\n' :: second.toList := by simp
  rw [read, scan, scan, trimmedLines, Text.lines, parted, List.splitOn_append_cons_self, List.map_append,
    List.foldl_append]
  rfl

end TableScript.Schema
