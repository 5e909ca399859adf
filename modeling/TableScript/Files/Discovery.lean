import TableScript.Failure
import TableScript.Files.Tree

/-! Finding schema files below a directory: regular files whose name holds `schema` and ends in
`.rb`, on paths without hidden names and without links. -/
namespace TableScript

def holdsWithin (part : List Char) : List Char → Bool
  | [] => part.isEmpty
  | c :: rest => part.isPrefixOf (c :: rest) || holdsWithin part rest

def isHidden (name : FileName) : Bool :=
  match Text.decode name with
  | some ('.' :: _) => true
  | _ => false

def isSchemaName (name : FileName) : Bool :=
  match Text.decode name with
  | some text => holdsWithin "schema".toList text && ".rb".toList.isSuffixOf text
  | none => false

def schemaRoutes : List (FileName × FileNode) → List (List FileName)
  | [] => []
  | (name, node) :: rest =>
    (if isHidden name then []
     else match node with
       | .file _ => if isSchemaName name then [[name]] else []
       | .link _ => []
       | .directory entries => (schemaRoutes entries).map (name :: ·)) ++
    schemaRoutes rest

namespace FileSystem

/-- The schema files below a root directory, in the order of their components. Finding none is a
failure. -/
def schemaFiles (files : FileSystem) (root : Path) : Except Failure (List Path) :=
  match files.resolve root with
  | .ok (.directory entries) =>
    match (schemaRoutes entries).mergeSort (fun first second => decide (first ≤ second)) with
    | [] => .error (.noSchemaFile root.display)
    | routes => .ok (routes.map root.joinAll)
  | _ => .error (.notADirectory root.display)

end FileSystem

end TableScript
