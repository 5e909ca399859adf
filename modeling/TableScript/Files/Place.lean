import TableScript.Files.Tree
import TableScript.Keyed

/-! Putting nodes into a tree of files and looking at them by the names on the way. -/
namespace TableScript

def dropEntry (entries : List (FileName × FileNode)) (name : FileName) : List (FileName × FileNode) :=
  entries.filter fun (other, _) => other ≠ name

namespace FileNode

def entries : FileNode → List (FileName × FileNode)
  | .directory entries => entries
  | _ => []

def at? : FileNode → List FileName → Option FileNode
  | node, [] => some node
  | .directory entries, name :: rest => match entries.lookup name with
    | some child => child.at? rest
    | none => none
  | _, _ :: _ => none

/-- The tree with a node at the end of some names. Directories missing on the way come to be. -/
def place (node : FileNode) : List FileName → FileNode → FileNode
  | [], _ => node
  | name :: rest, tree =>
    let child := (tree.entries.lookup name).getD (.directory [])
    .directory (Keyed.put tree.entries name (place node rest child))

def remove : List FileName → FileNode → FileNode
  | [], tree => tree
  | [name], tree => .directory (dropEntry tree.entries name)
  | name :: rest, tree => match tree.entries.lookup name with
    | some child => .directory (Keyed.put tree.entries name (remove rest child))
    | none => tree

def isDirectory : FileNode → Bool
  | .directory _ => true
  | _ => false

end FileNode

/-- The names that a path stands for, from the root on, seen from a directory. Dots are resolved by
the names alone. -/
def locate (here : List FileName) (path : Path) : List FileName :=
  ((FileSystem.route path).foldl (fun above name =>
    if name = [dot] then above
    else if name = [dot, dot] then above.tail
    else name :: above) (if path.isAbsolute then [] else here.reverse)).reverse

/-- The names from the root on of what some names lead to, seen from a directory whose own names are
given with the last first. Links on the way are followed, one at the end only if asked. What is
missing only at the end has names all the same. -/
def FileNode.trace (root : FileNode) (followsLast : Bool) (links : Nat) (above : List FileName) :
    List FileName → Except Fault (List FileName)
  | [] => .ok above.reverse
  | name :: rest =>
    match root.at? above.reverse with
    | some (.directory entries) =>
      if name = [dot] then trace root followsLast links above rest
      else if name = [dot, dot] then trace root followsLast links above.tail rest
      else if 255 < name.length then .error .nameTooLong
      else match entries.lookup name with
        | none => if rest = [] then .ok (name :: above).reverse else .error .notFound
        | some (.link target) =>
          if rest = [] ∧ !followsLast then .ok (name :: above).reverse
          else match links with
            | 0 => .error .tooManyLinks
            | links + 1 =>
              if target.bytes = [] then .error .notFound
              else trace root followsLast links (if target.isAbsolute then [] else above)
                (FileSystem.route target ++ rest)
        | some _ => trace root followsLast links (name :: above) rest
    | some _ => .error .notDirectory
    | none => .error .notFound
termination_by names => (links, names.length)

def FileSystem.seenFrom (root : FileNode) (here : List FileName) : Option FileSystem :=
  let rec enter (node : FileNode) (above : List FileNode) : List FileName → Option FileSystem
    | [] => some ⟨root, node, above⟩
    | name :: rest => match node.entries.lookup name with
      | some child => enter child (node :: above) rest
      | none => none
  enter root [] here

end TableScript
