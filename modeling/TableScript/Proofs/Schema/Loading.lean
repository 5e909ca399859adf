import TableScript.Command.Session
import TableScript.Proofs.Schema.Appended

/-! Loading a text. Outside of blocks a declaration is never passed over, and before the first one no
block can be open; so the first line that declares a table decides that the text loads, and names its
first table, whatever becomes of the block that it may open. -/
namespace TableScript.Schema

open Text (trim)

theorem declarationLine_iff {line : List Char} {name : String} :
    DeclarationLine line name ↔ ∃ rest, declaration? line = some (name.toList, rest) := by
  constructor
  · rintro ⟨quote, separates, named, symbol, ends⟩
    refine ⟨_, declaration?_eq_some_iff.mpr ⟨_, quote, separates, ?_, ?_, ends, ?_⟩⟩
    · simpa using named
    · simpa using symbol
    · simp
  · rintro ⟨rest, read⟩
    obtain ⟨separator, quote, separates, named, symbol, ends, rfl⟩ := declaration?_eq_some_iff.mp read
    simpa using DeclarationLine.intro quote separates named symbol ends

theorem declaration?_eq_none_iff {line : List Char} :
    declaration? line = none ↔ ∀ name, ¬ DeclarationLine line name := by
  constructor
  · intro undeclared name written
    obtain ⟨rest, read⟩ := declarationLine_iff.mp written
    rw [undeclared] at read
    contradiction
  · intro nothing
    cases read : declaration? line with
    | none => rfl
    | some header =>
      have written : DeclarationLine line (String.ofList header.1) :=
        declarationLine_iff.mpr ⟨header.2, by simpa using read⟩
      exact absurd written (nothing _)

/-- A declaration outside of blocks declares its table before all tables of the lines after it. -/
theorem Reader.exists_declared_of_declaration? {line name rest : List Char}
    (read : declaration? line = some (name, rest)) (lines : List (List Char)) :
    ∃ columns declared, ∀ reader : Reader, reader.block = none →
      ((line :: lines).foldl step reader).finish =
        ((reader.declare (String.ofList name) columns).declareAll declared).reading := by
  cases shape : Shape.ofRest rest with
  | bare =>
    obtain ⟨declared, follows⟩ := exists_declared none lines
    refine ⟨[], declared, fun reader closed => ?_⟩
    rw [List.foldl_cons, step_of_declaration? closed read, shape]
    exact follows _ (reader.block_declare _ [])
  | inline body =>
    obtain ⟨declared, follows⟩ := exists_declared none lines
    refine ⟨inlineColumns body, declared, fun reader closed => ?_⟩
    rw [List.foldl_cons, step_of_declaration? closed read, shape]
    exact follows _ (reader.block_declare _ _)
  | opened closer =>
    obtain ⟨columns, declared, follows⟩ :=
      exists_declared_of_open ⟨String.ofList name, closer, []⟩ lines
    refine ⟨columns, declared, fun reader closed => ?_⟩
    rw [List.foldl_cons, step_of_declaration? closed read, shape, enter]
    exact follows { reader with block := some ⟨String.ofList name, closer, []⟩ } rfl

theorem catalogue_read_of_undeclared {text : String}
    (undeclared : ∀ line ∈ trimmedLines text, declaration? line = none) :
    (read text).catalogue = .empty := by
  have untouched : scan text = Reader.start := Reader.foldl_step_of_undeclared rfl undeclared
  rw [read, untouched]
  rfl

/-- The lines before the first declaration leave the reader at its start. -/
theorem tables_read_of_first {text : String} {before after : List (List Char)}
    {line name rest : List Char} (split : trimmedLines text = before ++ line :: after)
    (undeclared : ∀ earlier ∈ before, declaration? earlier = none)
    (declares : declaration? line = some (name, rest)) :
    ∃ columns more, (read text).catalogue.tables = ⟨1, String.ofList name, columns⟩ :: more := by
  obtain ⟨columns, declared, follows⟩ := Reader.exists_declared_of_declaration? declares after
  have whole : read text =
      ((Reader.start.declare (String.ofList name) columns).declareAll declared).reading := by
    rw [read, scan, split, List.foldl_append, Reader.foldl_step_of_undeclared rfl undeclared]
    exact follows .start rfl
  obtain ⟨more, extended⟩ :=
    (Extends.declareAll (Reader.start.declare (String.ofList name) columns) declared).tables
  rw [← whole] at extended
  refine ⟨columns, more, extended.symm.trans ?_⟩
  change (Reader.start.declare (String.ofList name) columns).catalogue.tables ++ more = _
  rw [Reader.tables_declare_start]
  rfl

theorem exists_first_declaration {text : String}
    (declared : ∃ line ∈ Text.lines text, ∃ name, DeclarationLine (trim line) name) :
    ∃ before line after name, Text.lines text = before ++ line :: after ∧
      (∀ earlier ∈ before, ∀ other, ¬ DeclarationLine (trim earlier) other) ∧
      DeclarationLine (trim line) name := by
  obtain ⟨line, member, name, written⟩ := declared
  obtain ⟨rest, read⟩ := declarationLine_iff.mp written
  have present : ((Text.lines text).find? fun line => (declaration? (trim line)).isSome).isSome := by
    rw [List.find?_isSome]
    exact ⟨line, member, by simp [read]⟩
  obtain ⟨first, found⟩ := Option.isSome_iff_exists.mp present
  obtain ⟨declares, before, after, split, earlier⟩ := List.find?_eq_some_iff_append.mp found
  obtain ⟨⟨header, tail⟩, header_read⟩ := Option.isSome_iff_exists.mp declares
  refine ⟨before, first, after, String.ofList header, split, ?_, ?_⟩
  · intro other member
    refine declaration?_eq_none_iff.mp ?_
    simpa using earlier other member
  · exact declarationLine_iff.mpr ⟨tail, by simpa using header_read⟩

theorem load_of_undeclared {text : String}
    (undeclared : ∀ line ∈ Text.lines text, ∀ name, ¬ DeclarationLine (trim line) name) :
    load text = .error .noTables := by
  have empty : (read text).catalogue = .empty := by
    refine catalogue_read_of_undeclared fun line member => ?_
    obtain ⟨source, present, rfl⟩ := List.mem_map.mp member
    exact declaration?_eq_none_iff.mpr (undeclared source present)
  rw [load, empty]
  rfl

theorem load_of_first {text name : String} {before after : List (List Char)} {line : List Char}
    (split : Text.lines text = before ++ line :: after)
    (first : ∀ earlier ∈ before, ∀ other, ¬ DeclarationLine (trim earlier) other)
    (written : DeclarationLine (trim line) name) :
    load text = .ok (read text).catalogue ∧
      ((read text).catalogue.get? 1).map Table.name = some name := by
  obtain ⟨rest, declares⟩ := declarationLine_iff.mp written
  have trimmedSplit : trimmedLines text = before.map trim ++ trim line :: after.map trim := by
    rw [trimmedLines, split, List.map_append, List.map_cons]
  have undeclared : ∀ earlier ∈ before.map trim, declaration? earlier = none := by
    intro earlier member
    obtain ⟨source, present, rfl⟩ := List.mem_map.mp member
    exact declaration?_eq_none_iff.mpr (first source present)
  obtain ⟨columns, more, tables⟩ := tables_read_of_first trimmedSplit undeclared declares
  rw [String.ofList_toList] at tables
  constructor
  · simp [load, Catalogue.isEmpty, tables]
  · simp [Catalogue.get?, tables]

/-- A text loads unless none of its lines declares a table. What it loads is its whole reading, and the
first table has the name that the first such line gives. -/
theorem load_first_declaration (text : String) :
    (load text = .error .noTables ↔
      ∀ line ∈ Text.lines text, ∀ name, ¬ DeclarationLine (trim line) name) ∧
    ((∃ line ∈ Text.lines text, ∃ name, DeclarationLine (trim line) name) →
      load text = .ok (read text).catalogue ∧
      ∃ before line after name, Text.lines text = before ++ line :: after ∧
        (∀ earlier ∈ before, ∀ other, ¬ DeclarationLine (trim earlier) other) ∧
        DeclarationLine (trim line) name ∧
        ((read text).catalogue.get? 1).map Table.name = some name) := by
  refine ⟨⟨fun failed line member name written => ?_, load_of_undeclared⟩, fun declared => ?_⟩
  · obtain ⟨before, first, after, given, split, earlier, declares⟩ :=
      exists_first_declaration ⟨line, member, name, written⟩
    have loaded := (load_of_first split earlier declares).1
    rw [failed] at loaded
    contradiction
  · obtain ⟨before, line, after, name, split, earlier, declares⟩ := exists_first_declaration declared
    obtain ⟨loaded, named⟩ := load_of_first split earlier declares
    exact ⟨loaded, before, line, after, name, split, earlier, declares, named⟩

theorem load_first_declaration_openUsers :
    let text := "# create_table :ghosts\nend\n" ++ r#"  create_table("audit.users") { |t|"# ++
      "\n  t.string :email\nend\n  create_table :teams do |t|\n"
    (∃ line ∈ Text.lines text, ∃ name, DeclarationLine (trim line) name) ∧
      load text = .ok (read text).catalogue ∧
      ∃ before line after, Text.lines text = before ++ line :: after ∧
        DeclarationLine (trim line) "audit.users" ∧
        ((read text).catalogue.get? 1).map Table.name = some "audit.users" := by
  intro text
  have named : ((read text).catalogue.get? 1).map Table.name = some "audit.users" := by
    decide +kernel
  have declared : ∃ line ∈ Text.lines text, ∃ name, DeclarationLine (trim line) name := by
    refine ⟨r#"  create_table("audit.users") { |t|"#.toList, by decide +kernel, "audit.users", ?_⟩
    exact declarationLine_iff.mpr ⟨r") { |t|".toList, by decide +kernel⟩
  obtain ⟨loaded, before, line, after, name, split, _, declares, given⟩ :=
    (load_first_declaration text).2 declared
  obtain rfl : name = "audit.users" := Option.some.inj (given.symm.trans named)
  exact ⟨declared, loaded, before, line, after, split, declares, named⟩

end TableScript.Schema
