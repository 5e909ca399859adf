import TableScript.Shell.Program
import TableScript.Shell.Reader

/-! Running commands: words are expanded to fields, streams are led where redirections say, and
commands run in the shell itself or in a process that begins as a copy of it. -/
namespace TableScript.Shell

open Run

inductive Quoting where
  | quoted
  | literal
  | value
  deriving DecidableEq

def bitsOfText (quoting : Quoting) (text : String) : List Bit := text.toList.map fun c =>
  match quoting with
  | .quoted => .char c true
  | _ => .loose c

def ending {α : Type} (body : Run α) : Run (Except Stop α) := tryCatch (.ok <$> body) fun stop => return .error stop

def withStreams {α : Type} (body : Run α) : Run α := do
  let streams := (← process).streams
  let restore : Run Unit := changeProcess fun process => { process with streams := streams }
  match ← ending body with
  | .ok result =>
    restore
    return result
  | .error stop =>
    if stop matches .leaveLoops _ | .nextRound _ | .leaveFunction then restore
    throw stop

def Process.copy (process : Process) : Process :=
  { process with
    outerTraps := some (process.outerTraps.getD process.traps)
    traps := process.traps.filter fun (_, action) => action = ""
    trapStatus := none }

def Process.withStream (process : Process) (stream index : Nat) : Process :=
  { process with streams := (stream, index) :: process.streams.filter fun (other, _) => other ≠ stream }

def Process.start (number parent : Nat) (name : String) (here : List FileName) (outside : List (String × String))
    (streams : List (Nat × Nat)) : Process where
  number
  name
  arguments := []
  bindings := (outside.map fun (name, value) => (name, ⟨some value, true, false⟩)) ++
    ([("IFS", " \t\n"), ("OPTIND", "1"), ("PPID", toString parent), ("PS1", "# "), ("PS2", "> "),
      ("PS4", "+ ")].map fun (name, value) => (name, ⟨some value, false, false⟩))
  functions := []
  aliases := []
  here
  status := 0
  line := 1
  flags := []
  traps := []
  outerTraps := none
  streams
  mask := 18
  children := []
  lastChild := none
  frames := []
  loops := 0
  optionOffset := 0
  outputStatus := none
  trapStatus := none
  command := none

def signalWords : List (Nat × String) :=
  [(1, "Hangup"), (3, "Quit"), (4, "Illegal instruction"), (5, "Trace/breakpoint trap"), (6, "Aborted"),
   (7, "Bus error"), (8, "Floating point exception"), (9, "Killed"), (10, "User defined signal 1"),
   (11, "Segmentation fault"), (12, "User defined signal 2"), (14, "Alarm clock"), (15, "Terminated"),
   (16, "Stack fault"), (24, "CPU time limit exceeded"), (25, "File size limit exceeded"),
   (26, "Virtual timer expired"), (27, "Profiling timer expired"), (29, "I/O possible"), (30, "Power failure"),
   (31, "Bad system call")]

/-- The home directory that a word begins with as a tilde, and the rest of the word. After a tilde may
stand a slash, and in values a colon. -/
def tilde? (inValue : Bool) (word : Word) : Run (Option (String × Word)) := do
  match word with
  | .char '~' :: rest =>
    let isName : Piece → Bool
      | .char c => c ≠ '/' && !(inValue && c = ':')
      | _ => false
    let name := rest.takeWhile isName
    let after := rest.drop name.length
    let ends := match after with
      | [] | .char _ :: _ => true
      | _ => false
    let home ← held? "HOME"
    match plainText? name with
    | some "" => return if ends then home.map (·, after) else none
    | some "root" => return if ends then some ("/root", after) else none
    | _ => return none
  | _ => return none

def withHome (word : Word) : Run Word := do
  match ← tilde? false word with
  | some (home, rest) => return .quoted (home.toList.map .char) :: rest
  | none => return word

def withHomes : Nat → Word → Run Word
  | 0, word => return word
  | steps + 1, word => do
    let (head, rest) := match ← tilde? true word with
      | some (home, rest) => ([Piece.quoted (home.toList.map .char)], rest)
      | none => ([], word)
    let isColon : Piece → Bool
      | .char ':' => true
      | _ => false
    let before := rest.takeWhile fun piece => !isColon piece
    match rest.drop before.length with
    | colon :: rest => return head ++ before ++ colon :: (← withHomes steps rest)
    | [] => return head ++ before

def argumentBits (quoting : Quoting) (areJoined : Bool) : Run (List Bit) := do
  let arguments := (← process).arguments
  if quoting = .quoted ∧ areJoined then
    let joint := match ← held? "IFS" with
      | some breaks => String.ofList (breaks.toList.take 1)
      | none => " "
    return bitsOfText quoting (String.intercalate joint arguments)
  else if quoting = .quoted then
    return List.intercalate [.parting] (arguments.map fun argument => .presence :: bitsOfText quoting argument)
  else return List.intercalate [.parting] (arguments.map (bitsOfText quoting))

def joint : Run (List Char) := return (← fieldBreaks).take 1

def wholeParameter? (name : String) : Run (Option String) := do
  if name = "@" ∨ name = "*" then
    let arguments := (← process).arguments
    return if arguments = [] then none else some (String.intercalate " " arguments)
  else parameter? name

def requireValue (name : String) : Run Unit := do
  if (← hasFlag 'u') ∧ name ≠ "@" ∧ name ≠ "*" then refuse (name ++ ": parameter not set")

def takeSignal? : Run (Option Nat) := do
  let process ← process
  if process.outerTraps.isSome then return none
  match (← machine).signals.lookup process.number with
  | none => return none
  | some signal =>
    changeMachine fun machine => { machine with signals := machine.signals.erase (process.number, signal) }
    return some signal

def exitOnFailure (isTested : Bool) : Run Unit := do
  if !isTested ∧ (← process).status ≠ 0 ∧ (← hasFlag 'e') then throw .exit

def roundLimit : Nat := 100000

def afterRound : Except Stop Unit → Run Bool
  | .ok _ | .error (.nextRound 1) => return true
  | .error (.leaveLoops 1) => return false
  | .error (.nextRound count) => throw (.nextRound (count - 1))
  | .error (.leaveLoops count) => throw (.leaveLoops (count - 1))
  | .error stop => throw stop

def asLoop (body : Run Unit) : Run Unit := do
  changeProcess fun process => { process with loops := process.loops + 1 }
  let result ← ending body
  changeProcess fun process => { process with loops := process.loops - 1 }
  match result with
  | .ok _ => return
  | .error stop => throw stop

def restoreBindings (saved : List (String × Option Binding)) : Run Unit :=
  saved.forM fun (name, binding) => match binding with
    | some binding => bind name binding
    | none => unbind name

def milliseconds? (text : String) : Option Nat :=
  let digits := text.toList.takeWhile fun c => c.isDigit || c = '.'
  let scale? : Option Nat := match text.toList.drop digits.length with
    | [] | ['s'] => some 1000
    | ['m'] => some 60000
    | ['h'] => some 3600000
    | ['d'] => some 86400000
    | _ => none
  match decimalPlaces? (String.ofList digits), scale? with
  | some (units, places), some scale => some (units.toNat * scale / Nat.pow 10 places)
  | _, _ => none

def inputWords (text : String) : List String :=
  let rec go : Nat → List Char → Option (List Char) → List (List Char)
    | 0, _, current | _, [], current => current.toList
    | steps + 1, c :: rest, current =>
      if isSpace c then current.toList ++ go steps rest none
      else if c = '\'' ∨ c = '"' then
        let inside := rest.takeWhile (· ≠ c)
        go steps (rest.drop (inside.length + 1)) (some (current.getD [] ++ inside))
      else if c = '\\' then go steps (rest.drop 1) (some (current.getD [] ++ rest.take 1))
      else go steps rest (some (current.getD [] ++ [c]))
  (go (text.length + 1) text.toList none).map String.ofList

def interpreterOf? (script : String) : Option (String × List String) :=
  match script.toList with
  | '#' :: '!' :: rest =>
    let line := (rest.takeWhile (· ≠ '\n')).dropWhile fun c => c = ' ' || c = '\t'
    let path := line.takeWhile fun c => !isSpace c
    let argument := (line.drop path.length).dropWhile isSpace
    let argument := (argument.reverse.dropWhile isSpace).reverse
    some (String.ofList path, if argument = [] then [] else [String.ofList argument])
  | _ => none

mutual

def bitsOf : Nat → Quoting → Piece → Run (List Bit)
  | 0, _, _ => throw .exhausted
  | steps + 1, quoting, piece =>
    match piece with
    | .char c => return [match quoting with
        | .quoted => .char c true
        | .literal => .char c false
        | .value => .loose c]
    | .quoted pieces => do
      let bits ← wordBits steps .quoted pieces
      return match pieces, bits with
        | [.parameter "@" _], [] => []
        | _, bits => .presence :: bits
    | .output command => return bitsOfText quoting (← outputOf steps command)
    | .arithmetic expression => do
      let bits ← wordBits steps .quoted expression
      return bitsOfText quoting (toString (← evaluate (plain (lettersOf [' '] bits))))
    | .parameter name .value => do
      if name = "@" ∨ name = "*" then argumentBits quoting (name = "*")
      else match ← parameter? name with
        | some value => return bitsOfText quoting value
        | none =>
          requireValue name
          return []
    | .parameter name .length => do
      let value ← wholeParameter? name
      if value.isNone then requireValue name
      return bitsOfText quoting (toString (value.getD "").length)
    | .parameter name (.fallback emptyIsNone action word) => do
      let value := (← wholeParameter? name).filter fun value => !(emptyIsNone && value = "")
      let inner := if quoting = .literal then .value else quoting
      match action, value with
      | .alternate, some _ => wordBits steps inner word
      | .alternate, none => return []
      | .use, none => wordBits steps inner word
      | .assign, none =>
        if !isName name then refuse (name ++ ": bad variable name")
        let value := plain (lettersOf (← joint) (← wordBits steps .literal word))
        assign name value
        return bitsOfText quoting value
      | .fail, none =>
        let reason := plain (lettersOf (← joint) (← wordBits steps .literal word))
        refuse (name ++ ": " ++ if reason ≠ "" then reason
          else if emptyIsNone then "parameter not set or null" else "parameter not set")
      | _, some value =>
        if name = "@" ∨ name = "*" then argumentBits quoting (name = "*") else return bitsOfText quoting value
    | .parameter name (.trim atEnd longest pattern) => do
      let value ← wholeParameter? name
      if value.isNone then requireValue name
      let pattern := patternOf (lettersOf (← joint) (← wordBits steps .literal pattern))
      return bitsOfText quoting (String.ofList (trimmed atEnd longest pattern (value.getD "").toList))
    | .parameter _ .unknown => refuse "Bad substitution"

def wordBits : Nat → Quoting → Word → Run (List Bit)
  | 0, _, _ => throw .exhausted
  | steps + 1, quoting, word => do
    let mut bits := #[]
    for piece in word do bits := bits ++ (← bitsOf steps quoting piece)
    return bits.toList

def textOf : Nat → Word → Run (List Letter)
  | 0, _ => throw .exhausted
  | steps + 1, word => return lettersOf (← joint) (← wordBits steps .literal (← withHome word))

def valueOf : Nat → Word → Run String
  | 0, _ => throw .exhausted
  | steps + 1, word => do
    return plain (lettersOf (← joint) (← wordBits steps .literal (← withHomes (word.length + 1) word)))

def wordFields : Nat → Word → Run (List String)
  | 0, _ => throw .exhausted
  | steps + 1, word => do
    let bits ← wordBits steps .literal (← withHome word)
    let mut fields := []
    for field in fieldsOf (← fieldBreaks) .mark none bits do fields := fields ++ (← expandPaths field)
    return fields

def commandFields : Nat → List Word → Run (List String)
  | 0, _ => throw .exhausted
  | steps + 1, words => do
    let mut fields := []
    for word in words do
      let assigns := ["export", "readonly", "local"].contains (fields.headD "")
      match if assigns then assignment? word else none with
      | some (name, value) => fields := fields ++ [name ++ "=" ++ (← valueOf steps value)]
      | none => fields := fields ++ (← wordFields steps word)
    return fields

def outputOf : Nat → Command → Run String
  | 0, _ => throw .exhausted
  | steps + 1, command => do
    let index ← addOpenFile ⟨.pipe, 0, false, ""⟩
    let status := (← process).status
    let begun := (← machine).pending.map Job.number
    runApart steps (fun process => process.copy.withStream 1 index) (runCommand steps false command)
    settle steps none begun
    changeProcess fun process => { process with outputStatus := some process.status, status := status }
    let text := (((← machine).opened[index]?.map OpenFile.content).getD "").toList
    return String.ofList ((text.filter (· ≠ '\x00')).reverse.dropWhile (· = '\n')).reverse

def redirect : Nat → List Redirection → Run Bool
  | 0, _ => throw .exhausted
  | steps + 1, redirections => do
    for redirection in redirections do
      match redirection with
      | .text stream content =>
        let text := plain (lettersOf [' '] (← wordBits steps .quoted content))
        setStream stream (← addOpenFile ⟨.pipe, 0, false, text⟩)
      | .same stream source =>
        let source := plain (← textOf steps source)
        match source.toList with
        | ['-'] => closeStream stream
        | [c] =>
          if !c.isDigit then refuse "Syntax error: Bad fd number"
          match (← process).streams.lookup (c.toNat - '0'.toNat) with
          | some index => setStream stream index
          | none =>
            complain (source ++ ": Bad file descriptor")
            return false
        | _ => refuse "Syntax error: Bad fd number"
      | .file stream mode target =>
        let path := plain (← textOf steps target)
        let isKept := mode = .write && (← hasFlag 'C') && match ← nodeOf path true with
          | .ok (_, .file _) => true
          | _ => false
        match ← if isKept then pure (.error "File exists") else
            (fun opened => opened.mapError fun fault =>
              if fault = .notFound ∨ fault = .notDirectory then
                (if mode = .read then "No such file" else "Directory nonexistent")
              else fault.reason) <$> openPath path mode with
        | .ok index => setStream stream index
        | .error reason =>
          complain ((if mode = .read then "cannot open " else "cannot create ") ++ path ++ ": " ++ reason)
          return false
    return true

def runApart : Nat → (Process → Process) → Run Unit → Run Unit
  | 0, _, _ => throw .exhausted
  | steps + 1, start, body => do
    let outer ← process
    changeProcess start
    let own ← process
    let stop ← match ← ending body with
      | .error (.killed number signal) => pure (some (Stop.killed number signal))
      | .error .exhausted => pure (some .exhausted)
      | _ => match ← ending (finish steps) with
        | .ok _ => pure none
        | .error stop => pure (some stop)
    let status := (← process).status % 256
    changeProcess fun _ => { outer with status := status }
    changeMachine ({ · with mourned := [] })
    match stop with
    | some (.killed number signal) =>
      if own.outerTraps.isNone ∧ number = own.number then
        if let some words := signalWords.lookup signal then report words
        setStatus (128 + signal)
      else throw (.killed number signal)
    | some .exhausted => throw .exhausted
    | _ => return

def finish : Nat → Run Unit
  | 0 => throw .exhausted
  | steps + 1 => do
    match (← process).traps.lookup 0 with
    | none => return
    | some action =>
      let status := (← process).status
      changeProcess fun process =>
        { process with
          traps := process.traps.filter fun (number, _) => number ≠ 0
          trapStatus := some status
          loops := 0
          command := none }
      match ← ending (runScript steps false (.ofScript action 1)) with
      | .error (.killed number signal) => throw (.killed number signal)
      | .error .exhausted => throw .exhausted
      | .error .exit | .error .failed => return
      | _ => setStatus status

def actOnSignals : Nat → Run Unit
  | 0 => throw .exhausted
  | steps + 1 => do
    match ← takeSignal? with
    | none => return
    | some signal =>
      let process ← process
      changeProcess ({ · with trapStatus := some process.status, command := none })
      runScript steps false (.ofScript ((process.traps.lookup signal).getD "") 1)
      changeProcess ({ · with trapStatus := process.trapStatus, status := process.status, command := process.command })
      actOnSignals steps

def runScript : Nat → Bool → Source → Run Unit
  | 0, _, _ => throw .exhausted
  | steps + 1, isTested, source => do
    let mut source := source
    let mut hasRun := false
    for _ in [0:roundLimit] do
      match readLine?.run { source with aliases := (← process).aliases } with
      | .error (line, fault) =>
        changeProcess ({ · with line := line })
        refuse ("Syntax error: " ++ fault.message)
      | .ok (none, _) =>
        if !hasRun then setStatus 0
        return
      | .ok (some .nothing, rest) => source := rest
      | .ok (some command, rest) =>
        runCommand steps isTested command
        hasRun := true
        source := rest
    throw .exhausted

def runCommand : Nat → Bool → Command → Run Unit
  | 0, _, _ => throw .exhausted
  | steps + 1, isTested, command => do
    if ← hasFlag 'n' then return
    match command with
    | .nothing => return
    | .simple line assignments words redirections => do
      runSimple steps isTested line assignments words redirections
      actOnSignals steps
      exitOnFailure isTested
    | .sequence first second => do
      runCommand steps isTested first
      runCommand steps isTested second
    | .both first second => do
      runCommand steps true first
      if (← process).status = 0 then runCommand steps isTested second
    | .either first second => do
      runCommand steps true first
      if (← process).status ≠ 0 then runCommand steps isTested second
    | .negation command => do
      runCommand steps true command
      setStatus (if (← process).status = 0 then 1 else 0)
    | .pipeline commands => do
      runPipeline steps isTested commands
      actOnSignals steps
      exitOnFailure isTested
    | .background command => do
      let number ← newNumber
      let process ← process
      let input ← addOpenFile ⟨.nowhere, 0, false, ""⟩
      changeMachine fun machine =>
        { machine with
          pending := machine.pending ++ [⟨number, machine.clock, process.copy.withStream 0 input, command⟩] }
      changeProcess ({ · with lastChild := some number, children := number :: process.children, status := 0 })
    | .condition test yes no => do
      runCommand steps true test
      if (← process).status = 0 then runCommand steps isTested yes
      else
        if no matches .nothing then setStatus 0
        runCommand steps isTested no
    | .loop untilSuccess test body => asLoop do
      let mut status := 0
      for _ in [0:roundLimit] do
        let tested ← ending (runCommand steps true test)
        if !(← afterRound tested) then return
        if tested matches .ok _ then
          if ((← process).status = 0) = untilSuccess then
            setStatus status
            return
          let done ← ending (runCommand steps isTested body)
          status := (← process).status
          if !(← afterRound done) then return
      throw .exhausted
    | .each line name words body => do
      changeProcess ({ · with line := line })
      let values ← match words with
        | some words => commandFields steps words
        | none => do pure (← process).arguments
      if values = [] then setStatus 0
      asLoop do
        for value in values do
          assign name value
          if !(← afterRound (← ending (runCommand steps isTested body))) then return
    | .choice line word cases => do
      changeProcess ({ · with line := line })
      let text := (plain (← textOf steps word)).toList
      for (patterns, body) in cases do
        for pattern in patterns do
          if fits (patternOf (← textOf steps pattern)) text then
            if body matches .nothing then setStatus 0
            return ← runCommand steps isTested body
      setStatus 0
    | .subshell line command => do
      changeProcess ({ · with line := line })
      runApart steps Process.copy (runCommand steps isTested command)
      actOnSignals steps
      exitOnFailure isTested
    | .redirected line command redirections => do
      changeProcess ({ · with line := line })
      withStreams do
        if ← redirect steps redirections then runCommand steps isTested command
        else setStatus 2
    | .definition name body => do
      changeProcess fun process =>
        { process with
          functions := (name, body) :: process.functions.filter fun (other, _) => other ≠ name
          status := 0 }

/-- Runs commands of which each reads what the one before it writes. A writer whose reader has had
enough is ended. -/
def runPipeline : Nat → Bool → List Command → Run Unit
  | 0, _, _ => throw .exhausted
  | steps + 1, isTested, commands => do
    let mut input : Option Nat := none
    let last := commands.length - 1
    for (command, place) in commands.zipIdx do
      let source := input
      let begun := (← machine).pending.map Job.number
      let attach (process : Process) : Process := match source with
        | some index => process.withStream 0 index
        | none => process
      if place = last then runApart steps (fun process => attach process.copy) (runCommand steps isTested command)
      else
        let index ← addOpenFile ⟨.pipe, 0, false, ""⟩
        match ← ending (runApart steps (fun process => (attach process.copy).withStream 1 index)
            (runCommand steps isTested command)) with
        | .error (.killed number signal) => throw (.killed number signal)
        | _ => settle steps none begun
        input := some index

def runSimple : Nat → Bool → Nat → List (String × Word) → List Word → List Redirection → Run Unit
  | 0, _, _, _, _, _ => throw .exhausted
  | steps + 1, isTested, line, assignments, words, redirections => do
    changeProcess ({ · with line := line, outputStatus := none })
    let fields ← commandFields steps words
    let streams := (← process).streams
    let isSpecial := specialBuiltins.contains (fields.headD "")
    if !(← redirect steps redirections) then
      changeProcess ({ · with streams := streams })
      setStatus 2
      if isSpecial then throw .failed
    else
      let mut saved := []
      let mut traced := []
      for (name, value) in assignments do
        let value ← valueOf steps value
        traced := traced ++ [name ++ "=" ++ value]
        if fields ≠ [] ∧ !isSpecial ∧ (saved.lookup name).isNone then saved := (name, ← binding? name) :: saved
        assign name value
        if fields ≠ [] then
          if let some binding ← binding? name then bind name { binding with isExported := true }
      if ← hasFlag 'x' then
        report (((← held? "PS4").getD "") ++ String.intercalate " " (traced ++ fields))
      match fields with
      | [] =>
        setStatus ((← process).outputStatus.getD 0)
        changeProcess ({ · with streams := streams })
      | name :: arguments =>
        let keepsStreams := name = "exec"
        match ← ending (invoke steps isTested true name arguments) with
        | .ok _ =>
          if !keepsStreams then changeProcess ({ · with streams := streams })
          restoreBindings saved
        | .error stop =>
          if stop matches .leaveLoops _ | .nextRound _ | .leaveFunction then
            changeProcess ({ · with streams := streams })
          restoreBindings saved
          throw stop

def invoke : Nat → Bool → Bool → String → List String → Run Unit
  | 0, _, _, _, _ => throw .exhausted
  | steps + 1, isTested, mayCall, name, arguments => do
    let isSpecial := specialBuiltins.contains name
    let process ← process
    match if mayCall ∧ !isSpecial then process.functions.lookup name else none with
    | some body => callFunction steps isTested body arguments
    | none =>
      if isSpecial ∨ plainBuiltins.contains name then
        let command := process.command
        changeProcess ({ · with command := some name })
        let result ← ending (runOwn steps isTested name arguments)
        changeProcess ({ · with command := command })
        match result with
        | .ok status => setStatus status
        | .error .failed => if isSpecial ∧ mayCall then throw .failed
        | .error stop => throw stop
      else runProgram steps false name arguments

def callFunction : Nat → Bool → Command → List String → Run Unit
  | 0, _, _, _ => throw .exhausted
  | steps + 1, isTested, body, arguments => do
    let outer ← process
    changeProcess ({ · with arguments := arguments, frames := [] :: outer.frames, loops := 0 })
    let result ← ending (runCommand steps isTested body)
    restoreBindings ((← process).frames.headD [])
    changeProcess ({ · with arguments := outer.arguments, frames := outer.frames, loops := outer.loops })
    match result with
    | .ok _ | .error .leaveFunction => return
    | .error stop => throw stop

def runOwn : Nat → Bool → String → List String → Run Nat
  | 0, _, _, _ => throw .exhausted
  | steps + 1, isTested, name, arguments => do
    match name, arguments with
    | "eval", arguments =>
      if arguments = [] then return 0
      runScript steps isTested (.ofScript (String.intercalate " " arguments) 1)
      return (← process).status
    | ".", [] => return 0
    | ".", path :: _ =>
      let text ← sourceText path
      changeProcess ({ · with command := none })
      match ← ending (runScript steps false (.ofScript text 1)) with
      | .ok _ | .error .leaveFunction => return (← process).status
      | .error stop => throw stop
    | "exec", [] => return 0
    | "exec", name :: arguments =>
      changeProcess fun process =>
        { process with traps := process.traps.filter fun (_, action) => action = "" }
      runProgram steps true name arguments
      throw .exit
    | "command", arguments =>
      let (flags, arguments) ← flagsIn ['p', 'v', 'V'] arguments
      match arguments with
      | [] => return 0
      | name :: rest =>
        if flags.contains 'V' then runType [name]
        else if flags.contains 'v' then
          match ← description? true name with
          | some text => printOr "command" (text ++ "\n")
          | none => return 127
        else
          changeProcess ({ · with command := none })
          invoke steps isTested false name rest
          return (← process).status
    | "type", names => runType names
    | "wait", targets =>
      settle steps none []
      let latest := ((← machine).finished.map fun (_, _, time) => time).foldl max (← machine).clock
      changeMachine ({ · with clock := latest })
      let mut status := 0
      for target in targets do
        let number ← processIn target
        let children := (← process).children
        if let some words := ((← machine).mourned.lookup number).bind (signalWords.lookup ·) then report words
        status := match (← machine).finished.lookup number with
          | some (status, _) => if children.contains number then status else 127
          | none => 127
      changeMachine ({ · with mourned := [] })
      return status
    | name, arguments => runBuiltin name arguments
where
  sourceText (path : String) : Run String := do
    let read (path : String) : Run (Option String) := do
      match path, ← nodeOf path true with
      | "/dev/null", _ => return some ""
      | _, .ok (_, .file bytes) => return some (ofBytes bytes)
      | _, _ => return none
    if path.toList.contains '/' then
      match ← read path with
      | some text => return text
      | none => refuse ("cannot open " ++ path ++ ": No such file")
    else
      for directory in searchPath ((← held? "PATH").getD "") do
        if let some text ← read ((if directory = "" then "." else directory) ++ "/" ++ path) then return text
      refuse (path ++ ": not found")

def runProgram : Nat → Bool → String → List String → Run Unit
  | 0, _, _, _ => throw .exhausted
  | steps + 1, replaces, name, arguments => do
    match ← findProgram name with
    | .missing =>
      complain (name ++ ": not found")
      setStatus 127
    | .denied =>
      complain (name ++ ": Permission denied")
      setStatus (if name = "" then 127 else 126)
    | .installed name =>
      let code := ((← machine).programs.lookup name).getD fun _ => 0
      changeMachine fun machine => { machine with calls := machine.calls ++ [name :: arguments] }
      setStatus (code arguments % 256)
    | .known name _ =>
      changeProcess ({ · with command := none })
      runKnown steps replaces name arguments
    | .script path =>
      let text := match ← nodeOf path true with
        | .ok (_, .file bytes) => ofBytes bytes
        | _ => ""
      match interpreterOf? text with
      | none => startShell steps replaces (path :: arguments)
      | some (interpreter, options) =>
        match ← findProgram interpreter with
        | .missing =>
          complain (name ++ ": not found")
          setStatus 127
        | .denied =>
          complain (name ++ ": Permission denied")
          setStatus 126
        | .known "bash" _ => startShell steps replaces (options ++ path :: arguments)
        | _ => runProgram steps replaces interpreter (options ++ path :: arguments)

def runKnown : Nat → Bool → String → List String → Run Unit
  | 0, _, _, _ => throw .exhausted
  | steps + 1, replaces, name, arguments => do
    match name with
    | "sh" | "dash" | "bash" => startShell steps replaces arguments
    | "sleep" => setStatus (← sleep steps arguments)
    | "which" => setStatus (← forAll arguments fun name => do
        match (← findProgram name).path? with
        | some path =>
          print (path ++ "\n")
          return true
        | none => return false)
    | "env" =>
      let mut arguments := arguments
      let mut startsEmpty := false
      let mut droppedNames := []
      for _ in [0:arguments.length] do
        match arguments with
        | "-i" :: rest | "-" :: rest =>
          startsEmpty := true
          arguments := rest
        | "-u" :: name :: rest =>
          droppedNames := name :: droppedNames
          arguments := rest
        | _ => break
      let assigned := (arguments.takeWhile fun argument => argument.toList.contains '=').map nameAndValue
      let wanted := arguments.drop assigned.length
      let (isEmpty, dropped) := (startsEmpty, droppedNames)
      let change (process : Process) : Process :=
        let kept := process.bindings.filter fun (name, binding) =>
          !dropped.contains name && (!isEmpty || !binding.isExported)
        { process with
          bindings := (assigned.map fun (name, value) => (name, ⟨value, true, false⟩)).reverse ++
            kept.filter fun (name, _) => (assigned.lookup name).isNone }
      let path ← held? "PATH"
      runApart steps (fun process => (change process).copy) do
        match wanted with
        | [] => setStatus (← runPrintenv [])
        | name :: rest =>
          if isEmpty ∧ (← held? "PATH").isNone then
            bind "PATH" ⟨path, false, false⟩
          match ← findProgram name with
          | .missing =>
            report ("env: " ++ inQuotes name ++ ": No such file or directory")
            setStatus 127
          | .denied =>
            report ("env: " ++ inQuotes name ++ ": Permission denied")
            setStatus 126
          | _ => runProgram steps false name rest
    | "nohup" => match arguments with
      | [] => setStatus 125
      | name :: rest => runProgram steps false name rest
    | "timeout" => match arguments with
      | limit :: name :: rest =>
        let start := (← machine).clock
        runProgram steps false name rest
        match milliseconds? limit with
        | some limit =>
          if 0 < limit ∧ start + limit < (← machine).clock then
            changeMachine ({ · with clock := start + limit })
            setStatus 124
        | none => setStatus 125
      | _ => setStatus 125
    | "xargs" =>
      let (options, command) := xargsOptions arguments
      let text := (← readAll 0).toOption.getD ""
      let words := match options.1 with
        | some _ => ((linesOf text).map fun line =>
            String.ofList ((withoutEnd line).toList.dropWhile isSpace)).filter (· ≠ "")
        | none => inputWords text
      let command := if command = [] then ["echo"] else command
      let mut status := 0
      let mut words := words
      let count := if options.1.isSome then 1 else options.2.getD (max words.length 1)
      for _ in [0:words.length / count + 1] do
        if words = [] ∧ (status ≠ 0 ∨ options.1.isSome ∨ options.2.isSome) then break
        let taken := words.take count
        let whole := match options.1 with
          | some mark => command.map fun argument => argument.replace mark (taken.headD "")
          | none => command ++ taken
        words := words.drop count
        match whole with
        | name :: rest => runProgram steps false name rest
        | [] => pure ()
        let code := (← process).status
        if code = 127 ∨ code = 126 then status := code
        else if code ≠ 0 then status := 123
        if words = [] then break
      setStatus status
    | name => match program? name with
      | some run =>
        passTime steps (← machine).clock
        match ← ending (run arguments) with
        | .ok status => setStatus status
        | .error .failed => return
        | .error stop => throw stop
      | none => setStatus 127
where
  xargsOptions : List String → (Option String × Option Nat) × List String
    | "-I" :: mark :: rest =>
      let ((_, count), command) := xargsOptions rest
      ((some mark, count), command)
    | "-n" :: count :: rest =>
      let ((mark, _), command) := xargsOptions rest
      ((mark, count.toNat?), command)
    | "-r" :: rest => xargsOptions rest
    | argument :: rest => match argument.toList with
      | '-' :: 'n' :: digits =>
        let ((mark, _), command) := xargsOptions rest
        ((mark, (String.ofList digits).toNat?), command)
      | '-' :: 'I' :: mark =>
        let ((_, count), command) := xargsOptions rest
        ((some (String.ofList mark), count), command)
      | _ => ((none, none), argument :: rest)
    | [] => ((none, none), [])

def sleep : Nat → List String → Run Nat
  | 0, _ => throw .exhausted
  | steps + 1, arguments => do
    match arguments.mapM milliseconds? with
    | none | some [] =>
      misuse "sleep" (if arguments = [] then "missing operand"
        else "invalid time interval " ++ inQuotes (arguments.headD ""))
      return 1
    | some times =>
      let machine ← machine
      let wakes := machine.clock + times.sum
      if machine.deadline.any (· < wakes) then throw .exhausted
      passTime steps wakes
      changeMachine ({ · with clock := wakes })
      return 0

def passTime : Nat → Nat → Run Unit
  | 0, _ => throw .exhausted
  | steps + 1, time => do
    for job in (← machine).pending do
      let before ← get
      if before.machine.pending.any (·.number = job.number) then
        if !(← runJob steps (some time) job) then set before

def runJob : Nat → Option Nat → Job → Run Bool
  | 0, _, _ => throw .exhausted
  | steps + 1, deadline, job => do
    let outer ← process
    let outerMachine ← machine
    let deadline := match deadline, outerMachine.deadline with
      | some deadline, some outer => some (min deadline outer)
      | deadline, outer => deadline.or outer
    changeMachine fun machine =>
      { machine with
        clock := job.start
        deadline := deadline
        pending := machine.pending.filter fun other => other.number ≠ job.number }
    changeProcess fun _ => job.process
    let result ← match ← ending (runCommand steps false job.command) with
      | .error (.killed number signal) => pure (Except.error (Stop.killed number signal))
      | .error .exhausted => pure (.error .exhausted)
      | _ => ending (finish steps)
    let status := (← process).status % 256
    changeProcess fun _ => outer
    changeMachine fun machine =>
      { machine with
        clock := outerMachine.clock
        deadline := outerMachine.deadline
        finished := (job.number, status, machine.clock) :: machine.finished }
    match result with
    | .error (.killed number signal) => throw (.killed number signal)
    | .error .exhausted => return false
    | _ => return true

def settle : Nat → Option Nat → List Nat → Run Unit
  | 0, _, _ => throw .exhausted
  | steps + 1, deadline, begun => do
    for job in (← machine).pending do
      let isLeft := (← machine).pending.any (·.number = job.number)
      if isLeft ∧ !begun.contains job.number then discard (runJob steps deadline job)

def startShell : Nat → Bool → List String → Run Unit
  | 0, _, _ => throw .exhausted
  | steps + 1, replaces, arguments => do
    let outer ← process
    let number ← if replaces then pure outer.number else newNumber
    let outside := (← exported).filter fun (name, _) => name ≠ "PPID" && name ≠ "IFS" && name ≠ "OPTIND"
    let fresh := Process.start number outer.number "sh" outer.here outside outer.streams
    let fresh := { fresh with
      line := 0
      mask := outer.mask
      outerTraps := if replaces then outer.outerTraps else none
      traps := outer.traps.filter fun (_, action) => action = "" }
    let body : Run Unit := do
      let (letters, rest) ← setOptions ['c'] arguments
      let rest := rest.getD []
      if letters.contains 'c' then
        match rest with
        | [] => refuse "-c requires an argument"
        | script :: rest =>
          changeProcess ({ · with name := rest.headD "sh", arguments := rest.drop 1, line := 1 })
          runScript steps false (.ofScript script 1)
      else
        let readsInput ← hasFlag 's'
        let (path, rest) := match rest with
          | path :: rest => if readsInput then (none, path :: rest) else (some path, rest)
          | [] => (none, [])
        match path with
        | none =>
          changeProcess ({ · with arguments := rest, line := 1 })
          runScript steps false (.ofScript ((← readAll 0).toOption.getD "") 1)
        | some path => match ← nodeOf path true with
          | .ok (_, .file bytes) =>
            changeProcess ({ · with name := path, arguments := rest, line := 1 })
            runScript steps false (.ofScript (ofBytes bytes) 1)
          | .ok _ => setStatus 0
          | .error _ => refuse ("cannot open " ++ path ++ ": No such file")
    if replaces then
      changeProcess fun _ => fresh
      match ← ending body with
      | .error (.killed number signal) => throw (.killed number signal)
      | .error .exhausted => throw .exhausted
      | _ => finish steps
    else runApart steps (fun _ => fresh) body

end

end TableScript.Shell
