import TableScript.Shell.Pattern
import TableScript.Shell.State

/-! From what the pieces of a word stand for to fields: values are parted where the characters for
that stand, and fields that are patterns are replaced by the paths that fit them. -/
namespace TableScript.Shell

inductive Bit where
  | char (c : Char) (isQuoted : Bool)
  | loose (c : Char)
  | presence
  | parting
  deriving DecidableEq

inductive Ending where
  | blank
  | mark

def fieldsOf (breaks : List Char) (ending : Ending) : Option (List Letter) → List Bit → List (List Letter)
  | current, [] => current.toList
  | current, .presence :: rest => fieldsOf breaks ending (some (current.getD [])) rest
  | current, .parting :: rest => current.toList ++ fieldsOf breaks .mark none rest
  | current, .char c isQuoted :: rest =>
    fieldsOf breaks ending (some (current.getD [] ++ [(c, isQuoted)])) rest
  | current, .loose c :: rest =>
    if !breaks.contains c then fieldsOf breaks ending (some (current.getD [] ++ [(c, false)])) rest
    else if c = ' ' ∨ c = '\t' ∨ c = '\n' then
      current.toList ++ fieldsOf breaks (if current.isSome then .blank else ending) none rest
    else match current, ending with
      | some field, _ => field :: fieldsOf breaks .mark none rest
      | none, .blank => fieldsOf breaks .mark none rest
      | none, .mark => [] :: fieldsOf breaks .mark none rest

def lettersOf (joint : List Char) (bits : List Bit) : List Letter := bits.flatMap fun
  | .char c isQuoted => [(c, isQuoted)]
  | .loose c => [(c, false)]
  | .presence => []
  | .parting => joint.map (·, true)

def plain (word : List Letter) : String := String.ofList (word.map Prod.fst)

def fittingNames (names : List String) (part : List Letter) : List String :=
  let startsWithDot := (part.head?.map Prod.fst) == some '.'
  (if startsWithDot then "." :: ".." :: names else names).filter fun name =>
    (startsWithDot || name.toList.head? ≠ some '.') && fits (patternOf part) name.toList

def namesAt (path : String) : Run (List String) := do
  match ← Run.nodeOf (if path = "" then "." else path) true with
  | .ok (_, .directory entries) => return entries.map fun (name, _) => ofBytes name
  | _ => return []

def pathsFrom (path : String) : List (List Letter) → Run (List String)
  | [] => return [path]
  | [part] => do
    if isPattern part then return (fittingNames (← namesAt path) part).map (path ++ ·)
    else
      let path := path ++ plain part
      match ← Run.nodeOf path false with
      | .ok _ => return [path]
      | .error _ => return []
  | part :: rest => do
    if isPattern part then
      let mut paths := []
      for name in fittingNames (← namesAt path) part do
        if ← Run.isDirectory (path ++ name) then paths := paths ++ (← pathsFrom (path ++ name ++ "/") rest)
      return paths
    else pathsFrom (path ++ plain part ++ "/") rest

def expandPaths (field : List Letter) : Run (List String) := do
  if !isPattern field || (← Run.hasFlag 'f') then return [plain field]
  else
    match ← pathsFrom "" (field.splitOnP fun (c, _) => c == '/') with
    | [] => return [plain field]
    | paths => return paths.mergeSort fun first second => decide (first ≤ second)

end TableScript.Shell
