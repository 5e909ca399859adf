import TableScript.Selection.Resolution

/-! Selections number by number: the plain account of what a selection stands for, which looks at
each number on its own. -/
namespace TableScript.Selection

def enumerated (size : Nat) : Selection → List Nat
  | .all => List.range' 1 size
  | .single id => [id]
  | .range first last => List.range' first (last + 1 - first)
  | .list ids => ids

def firstOccurrences (ids : List Nat) : List Nat :=
  ids.foldl (fun seen id => if id ∈ seen then seen else seen ++ [id]) []

/-- The outcome of a selection, number by number: the first number without a table is the failure,
and a repeated number counts once. -/
def outcome (selection : Selection) (size : Nat) (input : String) : Except Failure (List Nat) :=
  if size = 0 then .error .noTables
  else match selection with
    | .range first last =>
      if last < first then .error (.invalidRange first last) else ofEnumerated selection
    | _ => ofEnumerated selection
where
  ofEnumerated (selection : Selection) : Except Failure (List Nat) :=
    match (selection.enumerated size).find? fun id => id = 0 ∨ size < id with
    | some id => .error (.unknownTable id (Text.trimmed input))
    | none =>
      if selection.enumerated size = [] then .error (.invalidSelection (Text.trimmed input))
      else .ok (firstOccurrences (selection.enumerated size))

end TableScript.Selection
