import TableScript.Proofs.Schema.Reader
import TableScript.Proofs.Schema.Shape
import TableScript.Proofs.Text.Split

/-! What a reader makes of written lines. Each line of a written table is taken for what it is: its
columns for columns, also on the declaration's line, and its last line for the end of its block. -/
namespace TableScript.Schema

open Text (Tight trim trimEnd)

theorem Quote.tight_write (quote : Quote) {name : List Char} (isName : IsTableName name) :
    Tight (quote.write name) := by
  cases quote with
  | double => simpa [Quote.write] using (show Tight ['"'] by decide).append (show Tight ['"'] by decide) name
  | single => simpa [Quote.write] using (show Tight ['\''] by decide).append (show Tight ['\''] by decide) name
  | symbol => simpa [Quote.write] using (show Tight [':'] by decide).append isName.tight []

def isWrittenChar (c : Char) : Bool :=
  isIdentifierChar c || ['.', ' ', ':', '"', '\'', ','].contains c

theorem Quote.isWrittenChar_of_mem {quote : Quote} {name : List Char} {c : Char}
    (identifier : IsIdentifier name) (member : c ∈ quote.write name) : isWrittenChar c = true := by
  have inName : c ∈ name → isWrittenChar c = true := fun inside => by
    simp [isWrittenChar, identifier.2 c inside]
  have marks : isWrittenChar '"' = true ∧ isWrittenChar '\'' = true ∧ isWrittenChar ':' = true := by decide
  cases quote <;> simp only [write, List.mem_cons, List.mem_append, List.not_mem_nil, or_false] at member <;>
    grind

theorem beginsApart_trimEnd {text : List Char} (apart : beginsApart text = true) :
    beginsApart (trimEnd text) = true := by
  rw [beginsApart_iff] at apart ⊢
  intro c first
  obtain ⟨rest, whole⟩ := List.head?_eq_some_iff.mp first
  obtain ⟨blank, kept⟩ := Text.trimEnd_isPrefix text
  refine apart c ?_
  rw [← kept, whole]
  rfl

theorem isSeparator_blank : IsSeparator [' '] := .gap (by simp) (by simp [IsGap, isGapChar])

/-- What is read as a column neither ends a block nor declares a table. -/
theorem marks_of_column? {line : List Char} {column : Column} (read : column? line = some column) :
    (∀ closer : Closer, closer.closes line = false) ∧ declaration? line = none := by
  obtain ⟨rest, rfl⟩ : ∃ rest, line = 't' :: rest := by
    cases column?_eq_some_iff.mp read with
    | typed => exact ⟨_, rfl⟩
    | stated => exact ⟨_, rfl⟩
  exact ⟨fun closer => by cases closer <;> rfl, rfl⟩

theorem isLinePart_comment {remark : Option (List Char)} (part : ∀ text ∈ remark, IsLinePart text) :
    IsLinePart (comment remark) := by
  cases remark with
  | none => nofun
  | some text => simpa [comment, IsLinePart] using part text rfl

namespace WrittenColumn

def tail (written : WrittenColumn) : List Char :=
  (written.options.map (',' :: ·)).getD [] ++ comment written.remark

theorem line_eq (written : WrittenColumn) :
    written.line = written.indent ++ (written.write ++ written.tail) := by
  simp [line, tail]

theorem beginsApart_tail (written : WrittenColumn) : beginsApart written.tail = true := by
  unfold tail
  cases written.options with
  | some text => rfl
  | none => cases written.remark <;> rfl

namespace WellFormed

variable {written : WrittenColumn} (wellFormed : written.WellFormed)

include wellFormed

theorem columnLine {tail : List Char} (apart : beginsApart tail = true) :
    ColumnLine (written.write ++ tail) written.column := by
  have name : IsIdentifier written.column.name.toList := wellFormed.name
  have kind : IsIdentifier written.column.kind.toList := wellFormed.kind
  rw [show written.column = ⟨String.ofList written.column.name.toList,
    String.ofList written.column.kind.toList⟩ by simp]
  unfold write
  cases form : written.form with
  | typed quote =>
    obtain ⟨ordinary, unstated⟩ := wellFormed.typed quote form
    simpa [ColumnForm.write_typed] using ColumnLine.typed quote kind (by simpa using ordinary)
      (by simpa using unstated) isSeparator_blank name (fun _ => apart)
  | stated first second =>
    simpa [ColumnForm.write_stated] using ColumnLine.stated first second isSeparator_blank name
      (show IsGap [] by simp [IsGap]) (show IsGap [' '] by simp [IsGap, isGapChar]) kind (fun _ => apart)

theorem tight_write : Tight written.write := by
  have name := wellFormed.name.isTableName
  have kind := wellFormed.kind.isTableName
  unfold write
  cases written.form with
  | typed quote =>
    simpa [ColumnForm.write_typed] using (show Tight "t.".toList by decide).append (quote.tight_write name)
      (written.column.kind.toList ++ [' '])
  | stated first second =>
    simpa [ColumnForm.write_stated] using (show Tight "t.column".toList by decide).append
      (second.tight_write kind) (' ' :: (first.write written.column.name.toList ++ ", ".toList))

/-- A written column is read from its text, whatever the white space before it, and nothing that may
follow it matters. -/
theorem column?_trim {tail : List Char} (apart : beginsApart tail = true) :
    column? (trim (written.indent ++ (written.write ++ tail))) = some written.column := by
  rw [Text.trim_append_left wellFormed.indent.2, wellFormed.tight_write.trim_append]
  exact column?_eq_some_iff.mpr (wellFormed.columnLine (beginsApart_trimEnd apart))

theorem column?_line : column? (trim written.line) = some written.column := by
  rw [line_eq]
  exact wellFormed.column?_trim written.beginsApart_tail

theorem isWrittenChar_of_mem {c : Char} (member : c ∈ written.write) : isWrittenChar c = true := by
  have name (quote : Quote) (inside : c ∈ quote.write written.column.name.toList) :=
    Quote.isWrittenChar_of_mem wellFormed.name inside
  have kind (quote : Quote) (inside : c ∈ quote.write written.column.kind.toList) :=
    Quote.isWrittenChar_of_mem wellFormed.kind inside
  unfold write at member
  cases form : written.form with
  | typed quote =>
    rw [form, ColumnForm.write_typed] at member
    simp only [List.mem_append, List.mem_cons] at member
    rcases member with (mark | inKind) | rfl | inName
    · exact List.all_eq_true.mp (by decide) c mark
    · simp [isWrittenChar, wellFormed.kind.2 c inKind]
    · decide
    · exact name quote inName
  | stated first second =>
    rw [form, ColumnForm.write_stated] at member
    simp only [List.mem_append] at member
    rcases member with ((mark | inName) | comma) | inKind
    · exact List.all_eq_true.mp (by decide) c mark
    · exact name first inName
    · exact List.all_eq_true.mp (by decide) c comma
    · exact kind second inKind

/-- A mark that no column is written with stands in no column, nor in the white space before it. -/
theorem not_mem_indented {c : Char} (unwritten : isWrittenChar c = false)
    (indent : c ∉ written.indent) : c ∉ written.indent ++ written.write := by
  rw [List.mem_append, not_or]
  refine ⟨indent, fun member => ?_⟩
  rw [wellFormed.isWrittenChar_of_mem member] at unwritten
  contradiction

theorem not_mem_indent {c : Char} (solid : Text.isBlank c = false) : c ∉ written.indent :=
  fun member => by simp [wellFormed.indent.2 c member] at solid

theorem isLinePart_line : IsLinePart written.line := by
  have front : '\n' ∉ written.indent ++ written.write :=
    wellFormed.not_mem_indented (by decide) wellFormed.indent.1
  have options : '\n' ∉ (written.options.map (',' :: ·)).getD [] := by
    cases given : written.options with
    | none => nofun
    | some text => simpa [IsLinePart] using wellFormed.options text given
  have remark : '\n' ∉ comment written.remark := isLinePart_comment wellFormed.remark
  simp only [IsLinePart, line, List.mem_append, not_or] at front ⊢
  exact ⟨⟨front, options⟩, remark⟩

end WellFormed

end WrittenColumn

theorem beginsApart_writeOptions (options : List (List Char × OptionValue)) {tail : List Char}
    (apart : beginsApart tail = true) : beginsApart (writeOptions options ++ tail) = true := by
  cases options with
  | nil => exact apart
  | cons => rfl

theorem Closer.tight_mark (closer : Closer) : Tight closer.mark := by
  cases closer <;> decide

theorem Closer.beginsApart_opening (closer : Closer) (tail : List Char) :
    beginsApart (closer.opening ++ tail) = true := by
  cases closer <;> rfl

theorem Closer.trimEnd_append_opening (closer : Closer) (text : List Char) :
    trimEnd (text ++ closer.opening) = text ++ closer.opening := by
  have last : closer.opening = closer.opening.dropLast ++ ['|'] := by cases closer <;> rfl
  rw [last, ← List.append_assoc, Text.trimEnd_append_cons (by decide), Text.trimEnd_nil]

/-- The last line of a block ends it, whatever comment follows. -/
theorem Closer.closes_mark (closer : Closer) (remark : Option (List Char)) :
    closer.closes (closer.mark ++ trimEnd (comment remark)) = true := by
  cases closer with
  | brace => rfl
  | word =>
    cases remark with
    | none => rfl
    | some text =>
      have kept := Text.trimEnd_append_cons (c := '#') (by decide) [' '] text
      rw [show comment (some text) = [' '] ++ '#' :: text from rfl, kept]
      rfl

namespace WrittenTable.WellFormed

variable {written : WrittenTable} (wellFormed : written.WellFormed)

include wellFormed

theorem declaration?_header {tail : List Char} (apart : beginsApart tail = true) :
    declaration? (trim (written.header ++ tail)) =
      some (written.name.toList, trimEnd (writeOptions written.options ++ tail)) := by
  have name : Tight (written.quote.write written.name.toList) := written.quote.tight_write wellFormed.name
  have tight : Tight ("create_table ".toList ++ written.quote.write written.name.toList) := by
    simpa using (show Tight "create_table".toList by decide).append name [' ']
  have whole : written.header ++ tail = written.indent ++
      (("create_table ".toList ++ written.quote.write written.name.toList) ++
        (writeOptions written.options ++ tail)) := by
    simp [header]
  rw [whole, Text.trim_append_left wellFormed.indent.2, tight.trim_append]
  refine declaration?_eq_some_iff.mpr ⟨[' '], written.quote, isSeparator_blank, wellFormed.name,
    wellFormed.symbol, fun _ => beginsApart_trimEnd (beginsApart_writeOptions _ apart), ?_⟩
  simp

/-- The declaration's line leads where the rest of the line does. -/
theorem step_header {reader : Reader} (closed : reader.block = none) {tail : List Char}
    (apart : beginsApart tail = true) :
    reader.step (trim (written.header ++ tail)) =
      reader.enter written.name (.ofRest (trimEnd (writeOptions written.options ++ tail))) := by
  rw [Reader.step_of_declaration? closed (wellFormed.declaration?_header apart), String.ofList_toList]

theorem column?_lines : (written.columns.map fun column => trim column.line).filterMap column? =
    written.declared := by
  rw [List.filterMap_map, declared, ← List.filterMap_eq_map]
  refine List.filterMap_congr fun column member => ?_
  exact (wellFormed.columns column member).column?_line

theorem foldl_step_block {reader : Reader} {closer : Closer}
    (isOpen : reader.block = some ⟨written.name, closer, []⟩) :
    ((written.columns.map WrittenColumn.line ++
        [written.lastIndent ++ closer.mark ++ comment written.lastRemark]).map trim).foldl
      Reader.step reader = reader.declare written.name written.declared := by
  have inside : ∀ line ∈ written.columns.map fun column => trim column.line, closer.closes line = false := by
    intro line member
    obtain ⟨column, present, rfl⟩ := List.mem_map.mp member
    exact (marks_of_column? (wellFormed.columns column present).column?_line).1 closer
  have last : trim (written.lastIndent ++ closer.mark ++ comment written.lastRemark) =
      closer.mark ++ trimEnd (comment written.lastRemark) := by
    rw [List.append_assoc, Text.trim_append_left wellFormed.lastIndent.2, closer.tight_mark.trim_append]
  rw [List.map_append, List.map_map, List.map_singleton, last, List.foldl_append, List.foldl_cons,
    List.foldl_nil]
  change Reader.step ((written.columns.map fun column => trim column.line).foldl _ _) _ = _
  rw [Reader.foldl_step_of_open isOpen inside, wellFormed.column?_lines,
    Reader.step_of_closes rfl (closer.closes_mark written.lastRemark)]
  rfl

/-- The declaration's line is read first and then the lines of the block. -/
theorem foldl_step_header_block {closer : Closer} (form : written.block = .opened closer)
    {reader : Reader} (closed : reader.block = none) :
    (written.lines.map trim).foldl Reader.step reader =
      ((written.columns.map WrittenColumn.line ++
        [written.lastIndent ++ closer.mark ++ comment written.lastRemark]).map trim).foldl Reader.step
        (reader.enter written.name (.ofRest
          (trimEnd (writeOptions written.options ++ (closer.opening ++ comment written.remark))))) := by
  have header := wellFormed.step_header closed (closer.beginsApart_opening (comment written.remark))
  simp only [lines, form, List.cons_append, List.map_cons, List.foldl_cons]
  rw [List.append_assoc written.header, header]

theorem foldl_step_opened {closer : Closer} (form : written.block = .opened closer)
    (unremarked : written.remark = none) {reader : Reader} (closed : reader.block = none) :
    (written.lines.map trim).foldl Reader.step reader =
      ((written.columns.map WrittenColumn.line ++
        [written.lastIndent ++ closer.mark ++ comment written.lastRemark]).map trim).foldl Reader.step
        (reader.enter written.name (.ofRest (writeOptions written.options ++ closer.opening))) := by
  rw [wellFormed.foldl_step_header_block form closed, unremarked, comment_none, List.append_nil,
    closer.trimEnd_append_opening]

/-- What follows the columns on their line belongs to the last of them, or declares nothing. -/
theorem inlineColumns_inlineBody_append {back : List Char} (absent : ';' ∉ back)
    (apart : beginsApart back = true) (nothing : column? (trim back) = none) :
    inlineColumns (written.inlineBody ++ back) = written.declared := by
  have whole : ∀ piece ∈ written.columns.map fun column => column.indent ++ column.write, ';' ∉ piece := by
    intro piece member
    obtain ⟨column, present, rfl⟩ := List.mem_map.mp member
    have columnFormed := wellFormed.columns column present
    exact columnFormed.not_mem_indented (by decide) (columnFormed.not_mem_indent (by decide))
  have read (column : WrittenColumn) (member : column ∈ written.columns) (tail : List Char)
      (parted : beginsApart tail = true) :
      column? (trim (column.indent ++ column.write ++ tail)) = some column.column := by
    rw [List.append_assoc]
    exact (wellFormed.columns column member).column?_trim parted
  rcases written.columns.eq_nil_or_concat with none | ⟨front, last, all⟩
  · have empty : written.inlineBody = [] := by simp [inlineBody, none]
    rw [empty, List.nil_append, inlineColumns_eq, List.splitOn_eq_singleton absent]
    simp [nothing, declared, none]
  · rw [List.concat_eq_append] at all
    obtain ⟨pieces, piece, cut, joined⟩ := Text.splitOn_back absent written.inlineBody
    rw [inlineBody, List.splitOn_intercalate _ whole (by simp [all]), all, List.map_append,
      List.map_singleton] at cut
    obtain ⟨rfl, same⟩ := List.append_inj' cut rfl
    obtain rfl := List.singleton_inj.mp same
    have firsts : ((front.map fun column => column.indent ++ column.write).map trim).filterMap column? =
        front.map WrittenColumn.column := by
      rw [List.map_map, List.filterMap_map, ← List.filterMap_eq_map]
      refine List.filterMap_congr fun column member => ?_
      simpa using read column (by simp [all, member]) [] rfl
    rw [inlineColumns_eq, joined, List.map_append, List.filterMap_append, firsts, declared, all,
      List.map_append, List.map_singleton, List.filterMap_cons_some (read last (by simp [all]) back apart)]
    rfl

theorem inlineColumns_inlineBody : inlineColumns written.inlineBody = written.declared := by
  simpa using wellFormed.inlineColumns_inlineBody_append (nofun : ';' ∉ []) rfl rfl

theorem not_mem_inlineBody {c : Char} (unwritten : isWrittenChar c = false)
    (indents : ∀ column ∈ written.columns, c ∉ column.indent) (other : c ≠ ';') :
    c ∉ written.inlineBody := by
  intro member
  rcases Text.mem_intercalate member with parts | ⟨piece, present, inside⟩
  · exact other parts
  · obtain ⟨column, isColumn, rfl⟩ := List.mem_map.mp present
    exact (wellFormed.columns column isColumn).not_mem_indented unwritten (indents column isColumn) inside

theorem isLinePart_header (options : IsLinePart (writeOptions written.options)) :
    IsLinePart written.header := by
  have name : '\n' ∉ written.quote.write written.name.toList := by
    have inside : '\n' ∉ written.name.toList := fun member =>
      absurd (wellFormed.name.2 '\n' member) (by decide)
    cases written.quote <;> simpa [Quote.write] using inside
  have mark : '\n' ∉ "create_table ".toList := by decide
  have indent : '\n' ∉ written.indent := wellFormed.indent.1
  simp only [IsLinePart, header, List.mem_append, not_or] at options ⊢
  exact ⟨⟨⟨indent, mark⟩, name⟩, options⟩

theorem isLinePart_of_mem_lines (options : IsLinePart (writeOptions written.options)) :
    ∀ line ∈ written.lines, IsLinePart line := by
  have header : '\n' ∉ written.header := wellFormed.isLinePart_header options
  have remark : '\n' ∉ comment written.remark := isLinePart_comment wellFormed.remark
  have lastRemark : '\n' ∉ comment written.lastRemark := isLinePart_comment wellFormed.lastRemark
  have opening (closer : Closer) : '\n' ∉ closer.opening := by cases closer <;> decide
  have mark (closer : Closer) : '\n' ∉ closer.mark := by cases closer <;> decide
  intro line member
  unfold IsLinePart
  unfold lines at member
  split at member
  · obtain rfl := List.mem_singleton.mp member
    simp [header, remark]
  · rename_i closer _
    have body : '\n' ∉ written.inlineBody := wellFormed.not_mem_inlineBody (by decide)
      (fun column inside => (wellFormed.columns column inside).indent.1) (by decide)
    obtain rfl := List.mem_singleton.mp member
    simp [header, remark, body, opening closer, mark closer]
  · rename_i closer _
    rw [List.mem_append, List.mem_cons, List.mem_singleton] at member
    rcases member with (rfl | isColumn) | rfl
    · simp [header, remark, opening closer]
    · obtain ⟨column, present, rfl⟩ := List.mem_map.mp isColumn
      exact (wellFormed.columns column present).isLinePart_line
    · have lastIndent : '\n' ∉ written.lastIndent := wellFormed.lastIndent.1
      simp [lastIndent, mark closer, lastRemark]

theorem isLinePart_lines (plain : written.options = []) : ∀ line ∈ written.lines, IsLinePart line := by
  refine wellFormed.isLinePart_of_mem_lines ?_
  rw [plain]
  nofun

/-- A table without options and without a comment after its declaration is declared by its lines, in
every form. -/
theorem foldl_step_lines (plain : written.options = []) (unremarked : written.remark = none)
    {reader : Reader} (closed : reader.block = none) :
    (written.lines.map trim).foldl Reader.step reader = reader.declare written.name written.declared := by
  cases form : written.block with
  | bare =>
    have header := wellFormed.step_header closed (rfl : beginsApart [] = true)
    have noColumns : written.declared = [] := by simp [declared, wellFormed.bare form]
    rw [plain] at header
    simp only [lines, form, unremarked, comment_none, List.map_singleton, List.foldl_cons, List.foldl_nil,
      header, noColumns]
    rfl
  | inline closer =>
    have header := wellFormed.step_header closed
      (closer.beginsApart_opening (written.inlineBody ++ ' ' :: closer.mark))
    have body := Shape.ofRest_inline closer
      (wellFormed.not_mem_inlineBody (c := '{') (by decide)
        (fun column member => (wellFormed.columns column member).not_mem_indent (by decide)) (by decide))
    have trimmed : trimEnd (closer.opening ++ (written.inlineBody ++ ' ' :: closer.mark)) =
        closer.opening ++ written.inlineBody ++ ' ' :: closer.mark := by
      simpa using closer.tight_mark.trimEnd_append (closer.opening ++ written.inlineBody ++ [' '])
    have columns : inlineColumns (dropParameter (" |t|".toList ++ written.inlineBody ++ [' '])) =
        written.declared := by
      rw [List.append_assoc, inlineColumns_dropParameter, inlineColumns_append_blank (by decide),
        wellFormed.inlineColumns_inlineBody]
    rw [plain, show writeOptions [] = [] from rfl, List.nil_append, trimmed, body] at header
    simp only [lines, form, unremarked, comment_none, List.append_nil, List.map_singleton, List.foldl_cons,
      List.foldl_nil]
    rw [List.append_assoc, List.append_assoc, header, Reader.enter, columns]
  | opened closer =>
    have run := wellFormed.foldl_step_opened form unremarked closed
    rw [plain, show writeOptions [] = [] from rfl, List.nil_append, Shape.ofRest_opening] at run
    have isOpen : (reader.enter written.name (.opened closer)).block = some ⟨written.name, closer, []⟩ := rfl
    exact run.trans (wellFormed.foldl_step_block isOpen)

end WrittenTable.WellFormed

end TableScript.Schema
