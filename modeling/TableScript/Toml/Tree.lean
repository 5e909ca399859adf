import TableScript.Data
import TableScript.Keyed

/-! The tables of a TOML document while it is being read. A table remembers how it came to be,
because that decides which later lines may add to it. -/
namespace TableScript.Toml

inductive Origin where
  | defined
  | implied
  | dotted
  deriving DecidableEq

inductive Node where
  | value (data : Data)
  | table (origin : Origin) (entries : List (String × Node))
  | tables (elements : List (List (String × Node)))

abbrev Entries := List (String × Node)

/-- Changes the table that a path leads to. Tables missing on the way come to be: by dotted keys
when `dotted` holds, which then must not lead through a table with a header, and otherwise by a
header below them. -/
def descend (dotted : Bool) (change : Origin → Entries → Option (Origin × Entries)) :
    List String → Origin → Entries → Option (Origin × Entries)
  | [], origin, entries => change origin entries
  | key :: path, origin, entries =>
    match entries.lookup key with
    | none => do
      let (inner, below) ← descend dotted change path (if dotted then .dotted else .implied) []
      some (origin, Keyed.put entries key (.table inner below))
    | some (.value _) => none
    | some (.table inner below) =>
      if dotted && inner == .defined then none
      else do
        let (inner, below) ← descend dotted change path inner below
        some (origin, Keyed.put entries key (.table inner below))
    | some (.tables elements) =>
      match elements.reverse with
      | [] => none
      | open' :: closed => do
        let (_, below) ← descend dotted change path .defined open'
        some (origin, Keyed.put entries key (.tables (below :: closed).reverse))

/-- Gives a new key its value. The last part of a dotted key belongs to a table made by dotted
keys, and only to such a one. -/
def putValue (direct : Bool) (key : String) (data : Data) (origin : Origin) (entries : Entries) :
    Option (Origin × Entries) :=
  if (origin == .dotted) == direct then none
  else match entries.lookup key with
    | some _ => none
    | none => some (origin, Keyed.put entries key (.value data))

def putDotted (path : List String) (key : String) (data : Data) (origin : Origin) (entries : Entries) :
    Option (Origin × Entries) :=
  descend true (putValue path.isEmpty key data) path origin entries

def openTable (key : String) (origin : Origin) (entries : Entries) : Option (Origin × Entries) :=
  match entries.lookup key with
  | none => some (origin, Keyed.put entries key (.table .defined []))
  | some (.table .implied below) => some (origin, Keyed.put entries key (.table .defined below))
  | some _ => none

def openElement (key : String) (origin : Origin) (entries : Entries) : Option (Origin × Entries) :=
  match entries.lookup key with
  | none => some (origin, Keyed.put entries key (.tables [[]]))
  | some (.tables elements) => some (origin, Keyed.put entries key (.tables (elements ++ [[]])))
  | some _ => none

mutual

def Node.toData : Node → Data
  | .value data => data
  | .table _ entries => .record (fieldsOf entries)
  | .tables elements => .list (recordsOf elements)

def fieldsOf : List (String × Node) → List (String × Data)
  | [] => []
  | (key, node) :: rest => (key, node.toData) :: fieldsOf rest

def recordsOf : List (List (String × Node)) → List Data
  | [] => []
  | entries :: rest => .record (fieldsOf entries) :: recordsOf rest

end

end TableScript.Toml
