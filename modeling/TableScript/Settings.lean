import TableScript.Files.Path
import TableScript.Script
import TableScript.Toml.Document

/-! Settings: the script options that hold unless the command line says more, and the directory
where the search for schema files starts. -/
namespace TableScript

structure OptionForm where
  allowsExtra : Bool
  isUnit : Data → Bool

def OptionForm.document : OptionForm where
  allowsExtra := true
  isUnit
    | .list [] | .record [] => true
    | _ => false

def OptionForm.request : OptionForm where
  allowsExtra := false
  isUnit
    | .null => true
    | _ => false

namespace Data

/-- The fields of a value under their names in order: those of a record, the items of a list one
for each name, or none at all for a moment. -/
def fieldsNamed (allowsExtra : Bool) (names : List String) : Data → Option (List (Option Data))
  | .record fields => some (names.map fun name => fields.lookup name)
  | .moment _ => some (names.map fun _ => none)
  | .list items =>
    if items.length ≤ names.length ∨ allowsExtra then
      some (names.zipIdx.map fun (_, place) => items[place]?)
    else none
  | _ => none

def readOr {α : Type} (fallback : α) (read : Data → Option α) : Option Data → Option α
  | none => some fallback
  | some data => read data

def flag? : Data → Option Bool
  | .flag value => some value
  | _ => none

def text? : Data → Option String
  | .text value => some value
  | _ => none

end Data

def Target.named? : String → Option Target
  | "scaffold" => some .scaffold
  | "factory" => some .factory
  | _ => none

def Target.ofData? (form : OptionForm) : Data → Option Target
  | .text name => Target.named? name
  | .record [(name, value)] => if form.isUnit value then Target.named? name else none
  | _ => none

def ScriptOptions.ofData? (form : OptionForm) (data : Data) : Option ScriptOptions := do
  match ← data.fieldsNamed form.allowsExtra ["target", "migration", "force"] with
  | [target, migration, force] =>
    some {
      target := ← Data.readOr .scaffold (Target.ofData? form) target
      migration := ← Data.readOr false Data.flag? migration
      force := ← Data.readOr false Data.flag? force }
  | _ => none

structure Settings where
  options : ScriptOptions
  searchRoot : Path
  deriving DecidableEq, Repr

namespace Settings

def default : Settings := ⟨.default, .ofString "."⟩

def searchRoot? (data : Data) : Option Path := do
  match ← data.fieldsNamed OptionForm.document.allowsExtra ["search_root"] with
  | [root] => Data.readOr default.searchRoot (fun data => data.text?.map Path.ofString) root
  | _ => none

def ofData? (data : Data) : Option Settings := do
  match ← data.fieldsNamed OptionForm.document.allowsExtra ["generate", "schema"] with
  | [generate, schema] =>
    some {
      options := ← Data.readOr .default (ScriptOptions.ofData? .document) generate
      searchRoot := ← Data.readOr default.searchRoot searchRoot? schema }
  | _ => none

/-- The settings that a document holds. Keys without a meaning are passed over, but the whole
document must be valid. -/
def read? (text : String) : Option Settings := (Toml.read? text).bind ofData?

end Settings

end TableScript
