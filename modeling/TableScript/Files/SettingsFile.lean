import TableScript.Files.Tree
import TableScript.Settings

/-! Where settings come from: a file in the working directory, or else one in the user's directory
for settings. -/
namespace TableScript.Settings

def localFile : Path := .ofString "scaffold.toml"

def userFile (directory : Path) : Path :=
  (directory.join (Text.encodeString "schema-to-scaffold")).join (Text.encodeString "config.toml")

def fromFile (files : FileSystem) (path : Path) : Except Failure Settings :=
  match files.readText path with
  | .error fault => .error (.settings path.display (.unreadable fault))
  | .ok text => match read? text with
    | some settings => .ok settings
    | none => .error (.settings path.display .malformed)

def candidates (userDirectory : Option Path) : List Path := localFile :: (userDirectory.map userFile).toList

def load (files : FileSystem) (userDirectory : Option Path) : Except Failure Settings :=
  match (candidates userDirectory).find? files.isFile with
  | some path => fromFile files path
  | none => .ok default

end TableScript.Settings
