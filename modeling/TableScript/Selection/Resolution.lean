import TableScript.Catalogue
import TableScript.Failure
import TableScript.Selection.Expression

/-! Selecting tables: holding an expression against a catalogue, and looking up one table by its
number or name. -/
namespace TableScript

namespace Selection

/-- The first number of a range that no table has, when one of the two bounds has none. Numbers run
from 1 without gaps, so it is 0 or the first one past the catalogue. -/
def firstMissing (size first : Nat) : Nat := if first = 0 then 0 else max first (size + 1)

def checked (catalogue : Catalogue) (input : String) (ids : List Nat) : Except Failure (List Nat) :=
  match ids.find? fun id => !catalogue.contains id with
  | some id => .error (.unknownTable id input)
  | none => if ids = [] then .error (.invalidSelection input) else .ok ids

/-- The numbers that a selection stands for in a catalogue: a list keeps the first occurrence of
each number. The input, trimmed, is named in failures. -/
def resolve (selection : Selection) (catalogue : Catalogue) (input : String) :
    Except Failure (List Nat) :=
  if catalogue.isEmpty then .error .noTables
  else
    let input := Text.trimmed input
    match selection with
    | .all => checked catalogue input catalogue.ids
    | .single id => checked catalogue input [id]
    | .range first last =>
      if last < first then .error (.invalidRange first last)
      else if catalogue.contains first && catalogue.contains last then
        checked catalogue input (List.range' first (last + 1 - first))
      else .error (.unknownTable (firstMissing catalogue.size first) input)
    | .list ids => checked catalogue input ids.eraseDups

def read (input : String) : Except Failure Selection :=
  match read? input.toList with
  | some selection => .ok selection
  | none => .error (.invalidSelection (Text.trimmed input))

end Selection

namespace Catalogue

/-- The numbers that an expression selects. Nothing can be selected from an empty catalogue. -/
def select (catalogue : Catalogue) (input : String) : Except Failure (List Nat) :=
  if catalogue.isEmpty then .error .noTables
  else match Selection.read input with
    | .ok selection => selection.resolve catalogue input
    | .error failure => .error failure

/-- The number of the one table that a token names: the token is a number of the catalogue, or
else exactly a table's name. -/
def lookup? (catalogue : Catalogue) (token : String) : Option Nat :=
  let token := Text.trimmed token
  match (Text.readWord? token.toList).filter catalogue.contains with
  | some id => some id
  | none => (catalogue.named? token).map Table.id

theorem lookup?_eq_or (catalogue : Catalogue) (token : String) :
    catalogue.lookup? token =
      ((Text.readWord? (Text.trimmed token).toList).filter catalogue.contains).or
        ((catalogue.named? (Text.trimmed token)).map Table.id) := by
  unfold lookup?
  dsimp only
  cases (Text.readWord? (Text.trimmed token).toList).filter catalogue.contains <;> rfl

end Catalogue

end TableScript
