import TableScript.Failure
import TableScript.Input
import TableScript.Text.Blank

/-! Running scripts. What the started programs do is not known here: a launcher answers for them
and may change its state with every start. Commands share the standard input of the run and find what
the run and the commands before them have left of it; the clipboard program is given its own. -/
namespace TableScript

/-- What comes of handing a command to the shell: it cannot be started, or it ends after writing
to the error stream. -/
inductive CommandResult where
  | notStarted (fault : Fault)
  | ended (status : ExitStatus) (complaint : String)
  deriving DecidableEq, Repr

/-- What comes of handing a text to the clipboard program: it cannot be started, it does not take
the text, or it ends. -/
inductive ClipboardResult where
  | notStarted (fault : Fault)
  | notTaken (fault : Fault)
  | ended (status : ExitStatus)
  deriving DecidableEq, Repr

structure Site (State : Type) where
  state : State
  input : Blocks

structure Launcher (State : Type) where
  shell : Site State → String → CommandResult × Site State
  clipboard : State → String → ClipboardResult × State

def commandOf? (script : String) : Option String :=
  if Text.trimmed script = "" then none else some (Text.trimmed script)

def commandsOf (scripts : List String) : List String := scripts.filterMap commandOf?

/-- How far a run of commands came and what it left: the commands handed to the shell, what they wrote
to the error stream, and the failure that ended the run. -/
structure CommandRun (State : Type) extends Site State where
  started : List String
  complaints : String
  failure : Option Failure

def runCommands {State : Type} (launcher : Launcher State) (site : Site State) :
    List String → CommandRun State
  | [] => ⟨site, [], "", none⟩
  | command :: rest =>
    match launcher.shell site command with
    | (.notStarted fault, site) => ⟨site, [command], "", some (.system fault)⟩
    | (.ended status complaint, site) =>
      if status.isSuccess then
        let run := runCommands launcher site rest
        { run with started := command :: run.started, complaints := complaint ++ run.complaints }
      else ⟨site, [command], complaint, some (.commandFailed command status)⟩

/-- Runs scripts in order, up to the first whose command fails. Blank scripts are passed over. -/
def runScripts {State : Type} (launcher : Launcher State) (state : State) (scripts : List String)
    (input : Blocks := []) : CommandRun State :=
  runCommands launcher ⟨state, input⟩ (commandsOf scripts)

def clipboardProgram : String := "xclip"

def clipboardArguments : List String := ["-selection", "clipboard"]

def ClipboardResult.failure? : ClipboardResult → Option Failure
  | .notStarted fault => some (.clipboardNotStarted clipboardProgram fault)
  | .notTaken fault => some (.system fault)
  | .ended status =>
    if status.isSuccess then none else some (.clipboardFailed clipboardProgram status)

end TableScript
