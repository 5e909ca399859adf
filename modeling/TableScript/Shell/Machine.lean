import TableScript.Execution
import TableScript.Shell.Interpreter

/-! Running shell commands on a machine, which makes the machine a launcher. -/
namespace TableScript.Shell

namespace Machine

def longestCommand : Nat := 131071

def nestingLimit : Nat := 4000

def surroundings (machine : Machine) : List (String × String) :=
  [("HOME", "/root"), ("PATH", defaultPath), ("PWD", pathText machine.home)]

def standardDirectories : List (List String) :=
  [["bin"], ["dev"], ["etc"], ["home"], ["root"], ["tmp"], ["usr", "bin"], ["var", "tmp"]]

def withDirectory (root : FileNode) (names : List FileName) : FileNode :=
  if (root.at? names).isSome then root else FileNode.place (.directory []) names root

def withStandardDirectories (root : FileNode) : FileNode :=
  (standardDirectories.map fun names => names.map Text.encodeString).foldl withDirectory root

def firstProcess (machine : Machine) : Process :=
  Process.start machine.lastNumber (machine.lastNumber - 1) "sh" machine.home machine.surroundings [(0, 0), (1, 1), (2, 2)]

/-- Runs a script from its beginning to the end of the shell. Its jobs go on beside it, but for no time
after that. -/
def session (script : String) : Run Unit := do
  let result ← ending (runScript nestingLimit false (.ofScript script 1))
  match result with
  | .error (.killed number signal) => throw (.killed number signal)
  | _ =>
    finish nestingLimit
    let status := (← Run.process).status
    settle nestingLimit (some (← Run.machine).clock) []
    Run.setStatus status

def inputLeft (machine : Machine) : Blocks :=
  match machine.opened[0]? with
  | some file =>
    let left := toBytes (String.ofList (file.content.toList.drop file.offset))
    if left = [] then [] else [left]
  | none => []

def prepared (machine : Machine) (input : Blocks) : Machine :=
  { machine with
    root := withStandardDirectories machine.root
    opened := #[⟨.terminal, 0, false, ofBytes input.flatten⟩, ⟨.terminal, 0, false, ""⟩, ⟨.complaints, 0, false, ""⟩]
    complaints := ""
    lastNumber := machine.lastNumber + 1
    deadline := none
    pending := []
    finished := []
    mourned := []
    signals := [] }

def shell (site : Site Machine) (command : String) : CommandResult × Site Machine :=
  if command.toList.contains '\x00' then (.notStarted .nulInCommand, site)
  else if longestCommand < command.utf8ByteSize then (.notStarted .argumentsTooLong, site)
  else
    let machine := site.state.prepared site.input
    let (result, state) := (session (ofText command)).run ⟨machine, machine.firstProcess⟩
    let status := match result with
      | .error (.killed _ signal) => .signaled signal
      | _ => .exited (state.process.status % 256)
    (.ended status (toText state.machine.complaints), ⟨state.machine, state.machine.inputLeft⟩)

def callsOf (machine : Machine) (name : String) : List (List String) :=
  machine.calls.filterMap fun
    | called :: arguments => if called = name then some (arguments.map toText) else none
    | [] => none

end Machine

/-- A machine as a launcher. Its clipboard program takes any text and gives the exit code that it
was set up with, unless there is no such program. -/
def Machine.launcher (clipboardCode : Option Nat) : Launcher Machine where
  shell := Machine.shell
  clipboard machine _ := match clipboardCode with
    | some code => (.ended (.exited (code % 256)), machine)
    | none => (.notStarted .notFound, machine)

end TableScript.Shell
