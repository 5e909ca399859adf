import TableScript.Schema.Declaration

/-! Reading a schema line by line. The reader keeps the catalogue so far, the names it skipped
because they were taken, and the block that is open, if any. Reading never fails. -/
namespace TableScript.Schema

structure Block where
  name : String
  closer : Closer
  columns : List Column

structure Reader where
  catalogue : Catalogue
  skipped : List String
  block : Option Block

/-- What a schema text declares: its tables, and the names of the declarations that were skipped
because an earlier one had taken the name. -/
structure Reading where
  catalogue : Catalogue
  skipped : List String

namespace Reader

def start : Reader := ⟨.empty, [], none⟩

def declare (reader : Reader) (name : String) (columns : List Column) : Reader :=
  match reader.catalogue.add? name columns with
  | some catalogue => ⟨catalogue, reader.skipped, none⟩
  | none => ⟨reader.catalogue, reader.skipped ++ [name], none⟩

def outside (reader : Reader) (line : List Char) : Reader :=
  match declaration? line with
  | none => reader
  | some (name, rest) => match Shape.ofRest rest with
    | .bare => reader.declare (String.ofList name) []
    | .opened closer => { reader with block := some ⟨String.ofList name, closer, []⟩ }
    | .inline body => reader.declare (String.ofList name) (inlineColumns body)

def inside (reader : Reader) (block : Block) (line : List Char) : Reader :=
  if block.closer.closes line then reader.declare block.name block.columns
  else match column? line with
    | some column => { reader with block := some { block with columns := block.columns ++ [column] } }
    | none => reader

def step (reader : Reader) (line : List Char) : Reader :=
  match reader.block with
  | some block => reader.inside block line
  | none => reader.outside line

def finish (reader : Reader) : Reading :=
  match reader.block with
  | some block =>
    let reader := reader.declare block.name block.columns
    ⟨reader.catalogue, reader.skipped⟩
  | none => ⟨reader.catalogue, reader.skipped⟩

end Reader

def trimmedLines (text : String) : List (List Char) := (Text.lines text).map Text.trim

def scan (text : String) : Reader := (trimmedLines text).foldl Reader.step .start

def read (text : String) : Reading := (scan text).finish

end TableScript.Schema
