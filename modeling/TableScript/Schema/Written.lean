import TableScript.Schema.Grammar
import TableScript.Schema.HeaderOption
import TableScript.Schema.Reader

/-! Writing schemas. A table has many written forms: its name and those of its columns in one of
three quotes, its columns typed or stated, its block on lines of its own, on the declaration's
line, or nowhere. A form holds all these choices beside the table, and gives its lines. -/
namespace TableScript.Schema

inductive ColumnForm where
  | typed (name : Quote)
  | stated (name kind : Quote)

def ColumnForm.write : ColumnForm → Column → List Char
  | .typed quote, column =>
    "t.".toList ++ column.kind.toList ++ ' ' :: quote.write column.name.toList
  | .stated first second, column =>
    "t.column ".toList ++ first.write column.name.toList ++ ", ".toList ++
      second.write column.kind.toList

theorem ColumnForm.write_typed (quote : Quote) (column : Column) :
    (typed quote).write column =
      "t.".toList ++ column.kind.toList ++ ' ' :: quote.write column.name.toList := rfl

theorem ColumnForm.write_stated (first second : Quote) (column : Column) :
    (stated first second).write column =
      "t.column ".toList ++ first.write column.name.toList ++ ", ".toList ++
        second.write column.kind.toList := rfl

def comment : Option (List Char) → List Char
  | none => []
  | some text => " #".toList ++ text

@[simp] theorem comment_none : comment none = [] := rfl

/-- A column in one of its written forms: it may be indented, and on a line of its own a comma and
options or a comment may follow. -/
structure WrittenColumn where
  column : Column
  form : ColumnForm
  indent : List Char
  options : Option (List Char)
  remark : Option (List Char)

namespace WrittenColumn

def write (written : WrittenColumn) : List Char := written.form.write written.column

def line (written : WrittenColumn) : List Char :=
  written.indent ++ written.write ++ (written.options.map (',' :: ·)).getD [] ++ comment written.remark

end WrittenColumn

inductive BlockForm where
  | bare
  | opened (closer : Closer)
  | inline (closer : Closer)

def Closer.opening : Closer → List Char
  | .word => " do |t|".toList
  | .brace => r" { |t|".toList

def Closer.mark : Closer → List Char
  | .word => "end".toList
  | .brace => r"}".toList

theorem Closer.opening_word : Closer.word.opening = " do |t|".toList := rfl

theorem Closer.opening_brace : Closer.brace.opening = r" { |t|".toList := rfl

theorem Closer.mark_word : Closer.word.mark = "end".toList := rfl

theorem Closer.mark_brace : Closer.brace.mark = r"}".toList := rfl

structure WrittenTable where
  name : String
  quote : Quote
  options : List (List Char × OptionValue)
  block : BlockForm
  columns : List WrittenColumn
  indent : List Char
  remark : Option (List Char)
  lastIndent : List Char
  lastRemark : Option (List Char)

namespace WrittenTable

def header (written : WrittenTable) : List Char :=
  written.indent ++ "create_table ".toList ++ written.quote.write written.name.toList ++
    writeOptions written.options

def inlineBody (written : WrittenTable) : List Char :=
  [';'].intercalate (written.columns.map fun column => column.indent ++ column.write)

def lines (written : WrittenTable) : List (List Char) :=
  match written.block with
  | .bare => [written.header ++ comment written.remark]
  | .inline closer =>
    [written.header ++ closer.opening ++ written.inlineBody ++ ' ' :: closer.mark ++
      comment written.remark]
  | .opened closer =>
    (written.header ++ closer.opening ++ comment written.remark) ::
      written.columns.map WrittenColumn.line ++
      [written.lastIndent ++ closer.mark ++ comment written.lastRemark]

def declared (written : WrittenTable) : List Column := written.columns.map WrittenColumn.column

end WrittenTable

def textOf (lines : List (List Char)) : String :=
  String.ofList (lines.flatMap fun line => line ++ ['\n'])

def IsLinePart (text : List Char) : Prop := '\n' ∉ text

def IsIndent (text : List Char) : Prop := IsLinePart text ∧ ∀ c ∈ text, Text.isBlank c = true

instance (text : List Char) : Decidable (IsLinePart text) :=
  decidable_of_iff (text.contains '\n' = false) (by simp [IsLinePart])

instance (text : List Char) : Decidable (IsIndent text) :=
  decidable_of_iff ((!text.contains '\n' && text.all Text.isBlank) = true) (by simp [IsIndent, IsLinePart])

/-- A written column whose names are identifiers and whose form can hold its kind. -/
structure WrittenColumn.WellFormed (written : WrittenColumn) : Prop where
  name : IsIdentifier written.column.name.toList
  kind : IsIdentifier written.column.kind.toList
  typed : ∀ quote, written.form = .typed quote →
    written.column.kind ∉ otherMethods ∧ written.column.kind ≠ "column"
  indent : IsIndent written.indent
  options : ∀ text ∈ written.options, IsLinePart text
  remark : ∀ text ∈ written.remark, IsLinePart text

/-- A written table whose name fits its quote, whose parts stay on their lines and whose form has a
place for its columns. -/
structure WrittenTable.WellFormed (written : WrittenTable) : Prop where
  name : IsTableName written.name.toList
  symbol : written.quote = .symbol → IsIdentifier written.name.toList
  columns : ∀ column ∈ written.columns, column.WellFormed
  bare : written.block = .bare → written.columns = []
  indent : IsIndent written.indent
  lastIndent : IsIndent written.lastIndent
  remark : ∀ text ∈ written.remark, IsLinePart text
  lastRemark : ∀ text ∈ written.lastRemark, IsLinePart text

end TableScript.Schema
