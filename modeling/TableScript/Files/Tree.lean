import TableScript.Fault
import TableScript.Files.Path

/-! Files, directories and symbolic links, and where a path leads among them. -/
namespace TableScript

inductive FileNode where
  | file (bytes : List UInt8)
  | link (target : Path)
  | directory (entries : List (FileName × FileNode))

/-- The names on a node's paths and the nodes that they lead to. Links are not followed. -/
inductive FileNode.Leads : FileNode → List FileName → FileNode → Prop where
  | here (node : FileNode) : Leads node [] node
  | inside {entries : List (FileName × FileNode)} {name : FileName} {child node : FileNode}
      {names : List FileName} (member : (name, child) ∈ entries) (rest : Leads child names node) :
      Leads (.directory entries) (name :: names) node

def IsEntryName (name : FileName) : Prop :=
  name ≠ [] ∧ slash ∉ name ∧ name ≠ [dot] ∧ name ≠ [dot, dot]

instance (name : FileName) : Decidable (IsEntryName name) :=
  inferInstanceAs (Decidable (_ ∧ _ ∧ _ ∧ _))

/-- The nodes whose directories have proper names and each name once. -/
inductive FileNode.WellFormed : FileNode → Prop
  | file (bytes : List UInt8) : WellFormed (.file bytes)
  | link (target : Path) : WellFormed (.link target)
  | directory {entries : List (FileName × FileNode)} (distinct : (entries.map Prod.fst).Nodup)
      (named : ∀ entry ∈ entries, IsEntryName entry.1)
      (children : ∀ entry ∈ entries, WellFormed entry.2) : WellFormed (.directory entries)

structure FileSystem where
  root : FileNode
  here : FileNode
  above : List FileNode

namespace FileSystem

def linkLimit : Nat := 40

/-- The names that a path goes through. A slash at its end asks for a directory, as a dot does. -/
def route (path : Path) : List FileName :=
  (path.bytes.splitOn slash).filter (· ≠ []) ++ if path.endsWithSlash then [[dot]] else []

/-- Follows names from a node, with the directories above it at hand. Every link on the way, the
last one too, is followed. -/
def follow (root : FileNode) (links : Nat) (node : FileNode) (above : List FileNode) :
    List FileName → Except Fault FileNode
  | [] => .ok node
  | name :: rest =>
    match node with
    | .directory entries =>
      if name = [dot] then follow root links node above rest
      else if name = [dot, dot] then
        match above with
        | [] => follow root links node [] rest
        | parent :: above => follow root links parent above rest
      else if 255 < name.length then .error .nameTooLong
      else match entries.lookup name with
        | none => .error .notFound
        | some (.link target) =>
          match links with
          | 0 => .error .tooManyLinks
          | links + 1 =>
            if target.bytes = [] then .error .notFound
            else if target.isAbsolute then follow root links root [] (route target ++ rest)
            else follow root links node above (route target ++ rest)
        | some child => follow root links child (node :: above) rest
    | _ => .error .notDirectory
termination_by names => (links, names.length)

def resolve (files : FileSystem) (path : Path) : Except Fault FileNode :=
  if path.bytes = [] then .error .notFound
  else if 0 ∈ path.bytes then .error .nulInPath
  else if 4096 ≤ path.bytes.length then .error .nameTooLong
  else if path.isAbsolute then follow files.root linkLimit files.root [] (route path)
  else follow files.root linkLimit files.here files.above (route path)

def read (files : FileSystem) (path : Path) : Except Fault (List UInt8) :=
  match files.resolve path with
  | .ok (.file bytes) => .ok bytes
  | .ok (.directory _) => .error .isDirectory
  | .ok (.link _) => .error .notFound
  | .error fault => .error fault

def readText (files : FileSystem) (path : Path) : Except Fault String :=
  match files.read path with
  | .error fault => .error fault
  | .ok bytes => match Text.decodeString bytes with
    | some text => .ok text
    | none => .error .notUtf8

def isFile (files : FileSystem) (path : Path) : Bool :=
  match files.resolve path with
  | .ok (.file _) => true
  | _ => false

end FileSystem

end TableScript
