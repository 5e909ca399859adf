import TableScript.Fault
import TableScript.Files.Place
import TableScript.Shell.Bytes
import TableScript.Shell.Syntax

/-! What running shells hold and what they share: a process has variables, streams and a working
directory of its own, and reaches the files, open files and other processes of the machine. -/
namespace TableScript.Shell

inductive Target where
  | terminal
  | complaints
  | nowhere
  | file (place : List FileName)
  | pipe
  deriving DecidableEq

structure OpenFile where
  target : Target
  offset : Nat
  appends : Bool
  content : String

structure Binding where
  value : Option String
  isExported : Bool
  isReadOnly : Bool

/-- A running shell. The number is that of the process that it began as; a part of it that runs on its
own keeps the number, and the traps of that process in `outerTraps`. -/
structure Process where
  number : Nat
  name : String
  arguments : List String
  bindings : List (String × Binding)
  functions : List (String × Command)
  aliases : List (String × String)
  here : List FileName
  status : Nat
  line : Nat
  flags : List Char
  traps : List (Nat × String)
  outerTraps : Option (List (Nat × String))
  streams : List (Nat × Nat)
  mask : Nat
  children : List Nat
  lastChild : Option Nat
  frames : List (List (String × Option Binding))
  loops : Nat
  optionOffset : Nat
  outputStatus : Option Nat
  trapStatus : Option Nat
  command : Option String

structure Job where
  number : Nat
  start : Nat
  process : Process
  command : Command

structure Machine where
  root : FileNode
  home : List FileName
  programs : List (String × (List String → Nat))
  calls : List (List String) := []
  opened : Array OpenFile := #[]
  complaints : String := ""
  executables : List (List FileName) := []
  lastNumber : Nat := 4241
  clock : Nat := 0
  deadline : Option Nat := none
  pending : List Job := []
  finished : List (Nat × Nat × Nat) := []
  mourned : List (Nat × Nat) := []
  signals : List (Nat × Nat) := []

inductive Stop where
  | exit
  | killed (number signal : Nat)
  | leaveLoops (count : Nat)
  | nextRound (count : Nat)
  | leaveFunction
  | failed
  | exhausted
  deriving DecidableEq

structure State where
  machine : Machine
  process : Process

abbrev Run := ExceptT Stop (StateM State)

namespace Run

def process : Run Process := do return (← get).process

def machine : Run Machine := do return (← get).machine

def changeProcess (change : Process → Process) : Run Unit :=
  modify fun state => { state with process := change state.process }

def changeMachine (change : Machine → Machine) : Run Unit :=
  modify fun state => { state with machine := change state.machine }

def setStatus (status : Nat) : Run Unit := changeProcess fun process => { process with status := status }

def hasFlag (flag : Char) : Run Bool := do return (← process).flags.contains flag

def newNumber : Run Nat := do
  let number := (← machine).lastNumber + 1
  changeMachine fun machine => { machine with lastNumber := number }
  return number

/-! ### Files -/

def nodeAt? (names : List FileName) : Run (Option FileNode) := do return (← machine).root.at? names

def placeNode (names : List FileName) (node : FileNode) : Run Unit :=
  changeMachine fun machine => { machine with root := FileNode.place node names machine.root }

def removeNode (names : List FileName) : Run Unit :=
  changeMachine fun machine => { machine with root := FileNode.remove names machine.root }

def placeOf (path : String) (followsLast : Bool) : Run (Except Fault (List FileName)) := do
  let path := toPath path
  if path.bytes = [] then return .error .notFound
  else
    let process ← process
    let here := if path.isAbsolute then [] else process.here
    return (← machine).root.trace followsLast FileSystem.linkLimit [] (here ++ FileSystem.route path)

def nodeOf (path : String) (followsLast : Bool) : Run (Except Fault (List FileName × FileNode)) := do
  match ← placeOf path followsLast with
  | .error fault => return .error fault
  | .ok names => match ← nodeAt? names with
    | some node => return .ok (names, node)
    | none => return .error .notFound

def isDirectory (path : String) : Run Bool := do
  match ← nodeOf path true with
  | .ok (_, .directory _) => return true
  | _ => return false

/-! ### Streams -/

def openFile? (stream : Nat) : Run (Option (Nat × OpenFile)) := do
  match (← process).streams.lookup stream with
  | none => return none
  | some index => return (← machine).opened[index]?.map (index, ·)

def addOpenFile (file : OpenFile) : Run Nat := do
  let index := (← machine).opened.size
  changeMachine fun machine => { machine with opened := machine.opened.push file }
  return index

def changeOpenFile (index : Nat) (change : OpenFile → OpenFile) : Run Unit :=
  changeMachine fun machine => { machine with opened := machine.opened.modify index change }

def setStream (stream index : Nat) : Run Unit := changeProcess fun process =>
  { process with streams := (stream, index) :: process.streams.filter fun (other, _) => other ≠ stream }

def closeStream (stream : Nat) : Run Unit := changeProcess fun process =>
  { process with streams := process.streams.filter fun (other, _) => other ≠ stream }

def overwritten (bytes written : List UInt8) (offset : Nat) : List UInt8 :=
  bytes.take offset ++ List.replicate (offset - bytes.length) 0 ++ written ++
    bytes.drop (offset + written.length)

def write (stream : Nat) (text : String) : Run Bool := do
  match ← openFile? stream with
  | none => return false
  | some (index, file) =>
    match file.target with
    | .terminal | .nowhere => return true
    | .complaints =>
      changeMachine fun machine => { machine with complaints := machine.complaints ++ text }
      return true
    | .pipe =>
      changeOpenFile index fun file => { file with content := file.content ++ text }
      return true
    | .file names =>
      if let some (.file bytes) ← nodeAt? names then
        let written := toBytes text
        let offset := if file.appends then bytes.length else file.offset
        placeNode names (.file (overwritten bytes written offset))
        changeOpenFile index fun file => { file with offset := offset + written.length }
      return true

def print (text : String) : Run Unit := discard (write 1 text)

def report (text : String) : Run Unit := discard (write 2 (text ++ "\n"))

def complain (text : String) : Run Unit := do
  let process ← process
  let command := match process.command with
    | some command => command ++ ": "
    | none => ""
  report (process.name ++ ": " ++ toString process.line ++ ": " ++ command ++ text)

def refuse {α : Type} (text : String) : Run α := do
  complain text
  setStatus 2
  throw .failed

def unread (stream : Nat) : Run (Except Fault String) := do
  match ← openFile? stream with
  | none => return .ok ""
  | some (_, file) =>
    match file.target with
    | .pipe | .terminal => return .ok (String.ofList (file.content.toList.drop file.offset))
    | .file names => match ← nodeAt? names with
      | some (.file bytes) => return .ok (ofBytes (bytes.drop file.offset))
      | some (.directory _) => return .error .isDirectory
      | _ => return .ok ""
    | _ => return .ok ""

def pass (stream count : Nat) : Run Unit := do
  if let some (index, _) ← openFile? stream then
    changeOpenFile index fun file => { file with offset := file.offset + count }

def readAll (stream : Nat) : Run (Except Fault String) := do
  let text ← unread stream
  if let .ok text := text then pass stream text.length
  return text

def device? (path : String) : Run (Option Nat) := do
  let streamAt (stream : Nat) : Run (Option Nat) := do return (← process).streams.lookup stream
  match path with
  | "/dev/null" => some <$> addOpenFile ⟨.nowhere, 0, false, ""⟩
  | "/dev/stdin" | "/dev/fd/0" => streamAt 0
  | "/dev/stdout" | "/dev/fd/1" => streamAt 1
  | "/dev/stderr" | "/dev/fd/2" => streamAt 2
  | _ => return none

def openPath (path : String) (mode : OpenMode) : Run (Except Fault Nat) := do
  if let some index ← device? path then return .ok index
  match ← placeOf path true with
  | .error fault => return .error fault
  | .ok names =>
    let node ← nodeAt? names
    match mode, node with
    | .read, none => return .error .notFound
    | .read, some _ => .ok <$> addOpenFile ⟨.file names, 0, false, ""⟩
    | _, some (.directory _) => return .error .isDirectory
    | mode, node =>
      if node.isNone ∨ mode = .write ∨ mode = .replace then placeNode names (.file [])
      .ok <$> addOpenFile ⟨.file names, 0, mode = .append, ""⟩

/-! ### Variables -/

def binding? (name : String) : Run (Option Binding) := do return (← process).bindings.lookup name

def bind (name : String) (binding : Binding) : Run Unit := changeProcess fun process =>
  { process with bindings := (name, binding) :: process.bindings.filter fun (other, _) => other ≠ name }

def unbind (name : String) : Run Unit := changeProcess fun process =>
  { process with bindings := process.bindings.filter fun (other, _) => other ≠ name }

def assign (name value : String) : Run Unit := do
  match ← binding? name with
  | some ⟨_, isExported, isReadOnly⟩ =>
    if isReadOnly then refuse (name ++ ": is read only")
    bind name ⟨some value, isExported || (← hasFlag 'a'), false⟩
  | none => bind name ⟨some value, ← hasFlag 'a', false⟩
  if name = "OPTIND" then changeProcess fun process => { process with optionOffset := 0 }

def held? (name : String) : Run (Option String) := do return (← binding? name).bind Binding.value

def fieldBreaks : Run (List Char) := return ((← held? "IFS").getD " \t\n").toList

def flagLetters : Run String := do
  let flags := (← process).flags
  return String.ofList ("ubaCEVvxsinmIfe".toList.filter flags.contains)

def parameter? (name : String) : Run (Option String) := do
  let process ← process
  match name with
  | "?" => return some (toString process.status)
  | "$" => return some (toString process.number)
  | "#" => return some (toString process.arguments.length)
  | "!" => return process.lastChild.map toString
  | "-" => some <$> flagLetters
  | "0" => return some process.name
  | name => match name.toNat? with
    | some place => return if place = 0 then some process.name else process.arguments[place - 1]?
    | none => held? name

def exported : Run (List (String × String)) := do
  return (← process).bindings.filterMap fun (name, binding) =>
    if binding.isExported then binding.value.map (name, ·) else none

end Run

end TableScript.Shell
