import TableScript.Failure

/-! Why a run of the command fails: a failure of the library, with what the run was about to do. -/
namespace TableScript.Command

def selectionHelp : String :=
  "Options are:\n4 for table 4; (4..6) for table 4 to 6; [4,6] for tables 4 and 6; * for all Tables"

inductive Refusal where
  | failure (cause : Failure)
  | unreadableSchema (path : String) (fault : Fault)
  | noTablesIn (path : String) (cause : Failure)
  | noSuchTable (token : String)
  | notSelected (cause : Failure)
  | noSuchPath (input : String)
  | noInput
  | unreadableInput (fault : Fault)

def Refusal.message : Refusal → String
  | .failure (.system fault) => (Failure.system fault).message ++ ": " ++ fault.message
  | .failure cause => cause.message
  | .unreadableSchema path fault => "Unable to open file '" ++ path ++ "': " ++ fault.message
  | .noTablesIn path cause => "Could not find tables in '" ++ path ++ "': " ++ cause.message
  | .noSuchTable token => "Could not find table " ++ token
  | .notSelected cause => "Not a valid input. " ++ selectionHelp ++ ": " ++ cause.message
  | .noSuchPath input => "Not a valid path number: '" ++ input ++ "'"
  | .noInput => "No input given"
  | .unreadableInput fault => fault.message

end TableScript.Command
