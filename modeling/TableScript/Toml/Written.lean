import TableScript.Text.JsonText
import TableScript.Toml.Document

/-! Documents in their plainest form: each part has a header, and below it stand keys with a flag or a
text, one on a line. -/
namespace TableScript.Toml

inductive Setting where
  | flag (value : Bool)
  | text (value : String)
  deriving DecidableEq

namespace Setting

def data : Setting → Data
  | .flag value => .flag value
  | .text value => .text value

def write : Setting → List Char
  | .flag value => (toString value).toList
  | .text value => (Text.jsonString value).toList

/-- A string must escape the character U+007F, which JSON leaves as it is. -/
def WellFormed : Setting → Prop
  | .flag _ => True
  | .text value => '\x7f' ∉ value.toList

end Setting

def IsBareKey (key : String) : Prop := key.toList ≠ [] ∧ ∀ c ∈ key.toList, isBareChar c = true

abbrev Part := List (String × Setting)

structure Part.WellFormed (part : Part) : Prop where
  keys : ∀ field ∈ part, IsBareKey field.1
  settings : ∀ field ∈ part, field.2.WellFormed
  distinct : (part.map Prod.fst).Nodup

def writeField (field : String × Setting) : List Char :=
  field.1.toList ++ ' ' :: '=' :: ' ' :: field.2.write ++ ['\n']

def writeHeader (name : String) : List Char := '[' :: name.toList ++ [']', '\n']

/-- The parts of a document under their names. -/
abbrev Written := List (String × Part)

namespace Written

structure WellFormed (written : Written) : Prop where
  names : ∀ part ∈ written, IsBareKey part.1
  parts : ∀ part ∈ written, part.2.WellFormed
  distinct : (written.map Prod.fst).Nodup

def write (written : Written) : String :=
  String.ofList (written.flatMap fun part => writeHeader part.1 ++ part.2.flatMap writeField)

def setting? (written : Written) (name key : String) : Option Setting :=
  (written.lookup name).bind (List.lookup key)

end Written

end TableScript.Toml
