import TableScript.Fault

/-! Why a request fails, as causes; the wording of each cause is in `Failure.message`. -/
namespace TableScript

inductive SettingsFault where
  | unreadable (fault : Fault)
  | malformed
  deriving DecidableEq, Repr

def SettingsFault.message : SettingsFault → String
  | .unreadable fault => fault.message
  | .malformed => "TOML parse error"

inductive Failure where
  | noTables
  | unknownTable (id : Nat) (input : String)
  | invalidSelection (input : String)
  | invalidRange (first last : Nat)
  | settings (path : String) (fault : SettingsFault)
  | notADirectory (root : String)
  | noSchemaFile (root : String)
  | clipboardNotStarted (program : String) (fault : Fault)
  | clipboardFailed (program : String) (status : ExitStatus)
  | commandFailed (command : String) (status : ExitStatus)
  | system (fault : Fault)
  deriving DecidableEq, Repr

def Failure.message : Failure → String
  | .noTables => "No tables found in schema"
  | .unknownTable id input =>
    "Could not find table " ++ toString id ++ " (input: '" ++ input ++ "')"
  | .invalidSelection input =>
    "Not a valid selection: '" ++ input ++ "'. Expected: 4, (4..6), [4,6] or *"
  | .invalidRange first last =>
    "Invalid range: " ++ toString first ++ " is greater than " ++ toString last
  | .settings path fault => "Configuration error: " ++ path ++ ": " ++ fault.message
  | .notADirectory root => "Discovery error: '" ++ root ++ "' is not a directory"
  | .noSchemaFile root =>
    "Discovery error: There is no schema*.rb in the directory '" ++ root ++ "'"
  | .clipboardNotStarted program fault =>
    "Clipboard error: failed to start " ++ program ++ ": " ++ fault.message
  | .clipboardFailed program status =>
    "Clipboard error: " ++ program ++ " exited with " ++ status.describe
  | .commandFailed command status =>
    "Execution error: '" ++ command ++ "' exited with " ++ status.describe
  | .system fault => "IO error: " ++ fault.message

end TableScript
