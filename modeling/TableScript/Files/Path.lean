import TableScript.Text.Utf8

/-! Paths and file names as bytes. A path is cut at slashes into components; it need not be valid
UTF-8, and shows in a readable form. -/
namespace TableScript

abbrev FileName := List UInt8

structure Path where
  bytes : List UInt8
  deriving DecidableEq, Repr

def slash : UInt8 := 0x2f

def dot : UInt8 := 0x2e

namespace Path

def ofString (text : String) : Path := ⟨Text.encodeString text⟩

def display (path : Path) : String := String.ofList (Text.decodeLossy path.bytes)

def components (path : Path) : List FileName :=
  (path.bytes.splitOn slash).filter fun piece => piece ≠ [] ∧ piece ≠ [dot]

def isAbsolute (path : Path) : Bool := path.bytes.head? = some slash

def endsWithSlash (path : Path) : Bool := path.bytes.getLast? = some slash

def join (path : Path) (name : FileName) : Path :=
  ⟨path.bytes ++ (if path.bytes = [] ∨ path.endsWithSlash then name else slash :: name)⟩

def joinAll (path : Path) (names : List FileName) : Path := names.foldl join path

def extensionOf? (name : FileName) : Option (List UInt8) :=
  if name = [dot, dot] then none
  else match name.reverse.dropWhile (· ≠ dot) with
    | [] => none
    | [_] => none
    | _ => some (name.reverse.takeWhile (· ≠ dot)).reverse

def extension? (path : Path) : Option (List UInt8) := path.components.getLast?.bind extensionOf?

def isSchemaFile (path : Path) : Bool := path.extension? == some (Text.encodeString "rb")

end Path

end TableScript
