import TableScript.Shell.Condition
import TableScript.Shell.Field
import TableScript.Shell.Format

/-! The commands of the shell itself that run no other commands. Each takes its arguments and gives
back its status. -/
namespace TableScript.Shell

open Run

def specialBuiltins : List String :=
  [".", ":", "break", "continue", "eval", "exec", "exit", "export", "local", "readonly", "return", "set",
   "shift", "times", "trap", "unset"]

def plainBuiltins : List String :=
  ["[", "alias", "bg", "cd", "chdir", "command", "echo", "false", "fg", "getopts", "hash", "jobs", "kill",
   "printf", "pwd", "read", "test", "true", "type", "ulimit", "umask", "unalias", "wait"]

def numberIn (text : String) : Run Nat :=
  let digits := text.toList
  let value := Text.decimalValue digits
  if digits ≠ [] ∧ digits.all Char.isDigit ∧ value ≤ 2147483647 then return value
  else refuse ("Illegal number: " ++ text)

/-- The flags before the first argument that is none, and the other arguments. A flag that is not
among the given letters is refused. -/
def flagsIn (letters : List Char) : List String → Run (List Char × List String)
  | [] => return ([], [])
  | argument :: rest =>
    match argument.toList with
    | ['-', '-'] => return ([], rest)
    | '-' :: c :: more => do
      match (c :: more).find? fun c => !letters.contains c with
      | some c => refuse ("Illegal option -" ++ c.toString)
      | none =>
        let (flags, arguments) ← flagsIn letters rest
        return (c :: more ++ flags, arguments)
    | _ => return ([], argument :: rest)

def printOr (name text : String) : Run Nat := do
  if ← write 1 text then return 0
  else
    complain (name ++ ": I/O error")
    return 1

def quotedText : Nat → List Char → String
  | 0, _ => ""
  | steps + 1, text =>
    let body := text.takeWhile (· ≠ '\'')
    let quotes := (text.drop body.length).takeWhile (· = '\'')
    let rest := text.drop (body.length + quotes.length)
    "'" ++ String.ofList body ++ "'" ++
      (if quotes = [] then "" else "\"" ++ String.ofList quotes ++ "\"") ++
      if rest = [] then "" else quotedText steps rest

def nameAndValue (argument : String) : String × Option String :=
  match argument.toList.span (· ≠ '=') with
  | (name, '=' :: value) => (String.ofList name, some (String.ofList value))
  | _ => (argument, none)

def requireName (name : String) : Run Unit := do
  if !isName name then refuse (name ++ ": bad variable name")

def listed (command : String) (bindings : List (String × Binding)) : String :=
  let sorted := bindings.mergeSort fun first second => decide (first.1 ≤ second.1)
  String.join (sorted.map fun (name, binding) => command ++ name ++ match binding.value with
    | some value => "=" ++ quotedText (value.length + 1) value.toList ++ "\n"
    | none => "\n")

def mark (command : String) (isMarked : Binding → Bool) (change : Binding → Binding)
    (arguments : List String) : Run Nat := do
  let (flags, names) ← flagsIn ['p'] arguments
  if names = [] ∨ flags ≠ [] then
    print (listed (command ++ " ") ((← process).bindings.filter fun (_, binding) => isMarked binding))
  else for argument in names do
    let (name, value) := nameAndValue argument
    requireName name
    if let some value := value then assign name value
    bind name (change ((← binding? name).getD ⟨none, false, false⟩))
  return 0

def unsetNames (arguments : List String) : Run Nat := do
  let (flags, names) ← flagsIn ['f', 'v'] arguments
  for name in names do
    if flags.getLast? = some 'f' then changeProcess fun process =>
      { process with functions := process.functions.filter fun (other, _) => other ≠ name }
    else
      requireName name
      if ((← binding? name).map Binding.isReadOnly).getD false then refuse (name ++ ": is read only")
      unbind name
  return 0

def longFlags : List (String × Char) :=
  [("errexit", 'e'), ("noglob", 'f'), ("ignoreeof", 'I'), ("interactive", 'i'), ("monitor", 'm'),
   ("noexec", 'n'), ("stdin", 's'), ("xtrace", 'x'), ("verbose", 'v'), ("vi", 'V'), ("emacs", 'E'), ("noclobber", 'C'),
   ("allexport", 'a'), ("notify", 'b'), ("nounset", 'u')]

def longFlagNames : List String := longFlags.map Prod.fst ++ ["privileged", "nolog", "debug"]

def flagList (flags : List Char) (asCommands : Bool) : String :=
  let isSet (name : String) : Bool := (longFlags.lookup name).any flags.contains
  if asCommands then
    String.join (longFlagNames.map fun name => "set " ++ (if isSet name then "-o " else "+o ") ++ name ++ "\n")
  else "Current option settings\n" ++ String.join (longFlagNames.map fun name =>
    filledRight 16 name ++ (if isSet name then "on" else "off") ++ "\n")

def setFlag (isOn : Bool) (flag : Char) : Run Unit := changeProcess fun process =>
  let others := process.flags.filter (· ≠ flag)
  { process with flags := if isOn then flag :: others else others }

/-- Sets flags as options ask for, and gives back the arguments after them, unless there are none. The
letters before the ones for flags come back too. -/
def setOptions (extra : List Char) : List String → Run (List Char × Option (List String))
  | [] => return ([], none)
  | argument :: rest =>
    match argument.toList with
    | ['-', '-'] => return ([], some rest)
    | ['-'] => return ([], if rest = [] then none else some rest)
    | sign :: 'o' :: [] =>
      if sign = '-' ∨ sign = '+' then
        match rest with
        | [] => do
          print (flagList (← process).flags (sign = '+'))
          return ([], none)
        | name :: rest => do
          match longFlags.lookup name with
          | some flag =>
            setFlag (sign = '-') flag
            setOptions extra rest
          | none =>
            if longFlagNames.contains name then setOptions extra rest
            else refuse ("Illegal option -o " ++ name)
      else return ([], some (argument :: rest))
    | sign :: c :: more =>
      if sign = '-' ∨ sign = '+' then do
        for letter in c :: more do
          if (longFlags.map Prod.snd).contains letter then setFlag (sign = '-') letter
          else if !extra.contains letter then refuse ("Illegal option " ++ sign.toString ++ letter.toString)
        let (letters, arguments) ← setOptions extra rest
        return ((c :: more).filter extra.contains ++ letters, arguments)
      else return ([], some (argument :: rest))
    | _ => return ([], some (argument :: rest))

def runSet (arguments : List String) : Run Nat := do
  if arguments = [] then print (listed "" ((← process).bindings.filter (·.2.value.isSome)))
  else if let (_, some arguments) ← setOptions [] arguments then
    changeProcess fun process => { process with arguments := arguments, optionOffset := 0 }
  return 0

def runShift (arguments : List String) : Run Nat := do
  let count ← match arguments with
    | [] => pure 1
    | count :: _ => numberIn count
  if (← process).arguments.length < count then refuse "can't shift that many"
  changeProcess fun process => { process with arguments := process.arguments.drop count }
  return 0

def runLeave (stop : Nat → Stop) (arguments : List String) : Run Nat := do
  let count ← match arguments with
    | [] => pure 1
    | count :: _ => numberIn count
  if count = 0 then refuse "Illegal number: 0"
  let loops := (← process).loops
  setStatus 0
  if loops = 0 then return 0
  else throw (stop (min count loops))

def statusIn (arguments : List String) : Run Unit := do
  match arguments with
  | [] => return
  | status :: _ => setStatus (← numberIn status)

def runExit (arguments : List String) : Run Nat := do
  match arguments with
  | [] => if let some status := (← process).trapStatus then setStatus status
  | status :: _ => setStatus (← numberIn status)
  throw .exit

def runLocal (arguments : List String) : Run Nat := do
  match (← process).frames with
  | [] => refuse "not in a function"
  | frame :: frames =>
    let mut saved := frame
    for argument in arguments do
      let (name, value) := nameAndValue argument
      requireName name
      if (saved.lookup name).isNone then
        saved := (name, ← binding? name) :: saved
        changeProcess fun process => { process with frames := saved :: frames }
      if let some value := value then assign name value
    return 0

/-- The directories that a search path lists. -/
def searchPath (path : String) : List String := (path.toList.splitOn ':').map String.ofList

def pathText (names : List FileName) : String :=
  "/" ++ String.intercalate "/" (names.map ofBytes)

def collapsed (here : List FileName) (path : Path) : List FileName := locate here path

def runCd (arguments : List String) : Run Nat := do
  let (flags, arguments) ← flagsIn ['L', 'P'] arguments
  let here := (← process).here
  let home := (← held? "HOME").getD ""
  let goal ← match arguments.head? with
    | none => pure home
    | some "-" => pure ((← held? "OLDPWD").getD "")
    | some goal => pure goal
  let isNear := match goal.toList with
    | [] | '/' :: _ | ['.'] | '.' :: '/' :: _ | ['.', '.'] | '.' :: '.' :: '/' :: _ => true
    | _ => false
  let places := searchPath ((← held? "CDPATH").getD "")
  let places := if isNear then [] else places
  let found? ← (places.filter (· ≠ "")).findM? fun place => isDirectory (place ++ "/" ++ goal)
  let goal := match found? with
    | some place => place ++ "/" ++ goal
    | none => goal
  let names := collapsed here (toPath goal)
  let place ← if flags.getLast? = some 'P' then placeOf goal true else
    pure ((← machine).root.trace true FileSystem.linkLimit [] names)
  let names := if flags.getLast? = some 'P' then place.toOption.getD names else names
  match place with
  | .ok place =>
    if ((← nodeAt? place).map FileNode.isDirectory).getD false then
      changeProcess fun process => { process with here := names }
      assign "OLDPWD" (pathText here)
      assign "PWD" (pathText names)
      if arguments.head? = some "-" ∨ found?.isSome then print (pathText names ++ "\n")
      return 0
    else refuse ("can't cd to " ++ goal)
  | .error _ => refuse ("can't cd to " ++ goal)

def runPwd (arguments : List String) : Run Nat := do
  let (flags, _) ← flagsIn ['L', 'P'] arguments
  let here := (← process).here
  let names ← if flags.getLast? = some 'P' then
    pure (((← machine).root.trace true FileSystem.linkLimit [] here).toOption.getD here) else pure here
  printOr "pwd" (pathText names ++ "\n")

def permissionLetters (bits : Nat) : String :=
  (if bits / 4 % 2 = 1 then "r" else "") ++ (if bits / 2 % 2 = 1 then "w" else "") ++
    if bits % 2 = 1 then "x" else ""

def permissionBits (letters : List Char) : Nat :=
  (if letters.contains 'r' then 4 else 0) + (if letters.contains 'w' then 2 else 0) +
    if letters.contains 'x' then 1 else 0

def changedPermissions? (permissions : Nat) (clause : List Char) : Option Nat :=
  let classes := clause.takeWhile fun c => c = 'u' || c = 'g' || c = 'o' || c = 'a'
  match clause.drop classes.length with
  | sign :: letters =>
    if !letters.all fun c => c = 'r' || c = 'w' || c = 'x' then none
    else
      let bits := permissionBits letters
      let change (group : Char) (old : Nat) : Nat :=
        if classes ≠ [] ∧ !classes.contains group ∧ !classes.contains 'a' then old
        else if sign = '=' then bits
        else if sign = '+' then Nat.lor old bits
        else old - Nat.land old bits
      if sign = '=' ∨ sign = '+' ∨ sign = '-' then
        some (change 'u' (permissions / 64 % 8) * 64 + change 'g' (permissions / 8 % 8) * 8 +
          change 'o' (permissions % 8))
      else none
  | [] => none

def runUmask (arguments : List String) : Run Nat := do
  let (flags, arguments) ← flagsIn ['S'] arguments
  let mask := (← process).mask
  let allowed := 511 - mask
  match arguments with
  | [] =>
    if flags = [] then printOr "umask" (filledLeft 4 '0' (String.ofList (Nat.toDigits 8 mask)) ++ "\n")
    else printOr "umask" ("u=" ++ permissionLetters (allowed / 64) ++ ",g=" ++
      permissionLetters (allowed / 8) ++ ",o=" ++ permissionLetters allowed ++ "\n")
  | mode :: _ =>
    let digits := mode.toList
    if (digits.head?.map Char.isDigit).getD false then
      if digits.all isOctalDigit then
        changeProcess fun process => { process with mask := digitsValue 8 digits % 512 }
        return 0
      else refuse ("Illegal number: " ++ mode)
    else
      let clauses := (mode.splitOn ",").map String.toList
      match clauses.foldlM changedPermissions? allowed with
      | some permissions =>
        changeProcess fun process => { process with mask := 511 - permissions }
        return 0
      | none => refuse ("Illegal mode: " ++ mode)

/-- The names of the signals without their first letters; 0 stands for the end of the shell. Some
signals have no name of their own: the shell goes by their numbers or counts from others. -/
def signalNames : List String :=
  "EXIT" :: (ExitStatus.signalNames.map fun name =>
    if name = "SIGSTKFLT" then "16" else String.ofList (name.toList.drop 3)) ++
  ["32", "33", "RTMIN"] ++ ((List.range 15).map fun n => "RTMIN+" ++ toString (n + 1)) ++
  ((List.range 14).map fun n => "RTMAX-" ++ toString (14 - n)) ++ ["RTMAX"]

def signalNumber? (text : String) : Option Nat :=
  let digits := text.toList
  if digits ≠ [] ∧ digits.all Char.isDigit then
    if Text.decimalValue digits ≤ 64 then some (Text.decimalValue digits) else none
  else signalNames.idxOf? text.toUpper

def signalName (number : Nat) : String := signalNames[number]?.getD (toString number)

def runTrap (arguments : List String) : Run Nat := do
  let arguments := if arguments.head? = some "--" then arguments.tail else arguments
  match arguments with
  | [] =>
    let traps := (← process).traps.mergeSort fun first second => first.1 ≤ second.1
    print (String.join (traps.map fun (number, action) =>
      "trap -- " ++ quotedText (action.length + 1) action.toList ++ " " ++ signalName number ++ "\n"))
    return 0
  | first :: rest =>
    let resets := rest = [] || (first.toList ≠ [] && first.toList.all Char.isDigit)
    for signal in if resets then first :: rest else rest do
      match signalNumber? signal with
      | none =>
        report ("trap: " ++ signal ++ ": bad trap")
        return 1
      | some number => changeProcess fun process =>
          let others := process.traps.filter fun (other, _) => other ≠ number
          { process with traps := if resets ∨ first = "-" then others else (number, first) :: others }
    return 0

def harmlessSignals : List Nat := [17, 18, 19, 20, 21, 22, 23, 28]

def sendSignal (signal number : Nat) : Run Bool := do
  let process ← process
  let machine ← machine
  if number = process.number then
    let traps := process.outerTraps.getD process.traps
    match if signal = 9 then none else traps.lookup signal with
    | some "" => return true
    | some _ =>
      changeMachine fun machine => { machine with signals := machine.signals ++ [(number, signal)] }
      return true
    | none =>
      if signal = 0 ∨ harmlessSignals.contains signal then return true
      else throw (.killed number signal)
  else if machine.pending.any (·.number = number) then
    if signal ≠ 0 ∧ !harmlessSignals.contains signal then changeMachine fun machine =>
      { machine with
        pending := machine.pending.filter fun job => job.number ≠ number
        finished := (number, 128 + signal, machine.clock) :: machine.finished
        mourned := (number, signal) :: machine.mourned }
    return true
  else match machine.finished.lookup number with
    | some (_, time) =>
      if time ≤ machine.clock then return false
      else
        if signal ≠ 0 ∧ !harmlessSignals.contains signal then changeMachine fun machine =>
          let others := machine.finished.filter fun (other, _) => other ≠ number
          { machine with finished := (number, 128 + signal, machine.clock) :: others }
        return true
    | none =>
      if (← held? "PPID") = some (toString number) ∧ signal ≠ 0 then throw (.killed number signal)
      else return false

def killUsage : String :=
  "Usage: kill [-s sigspec | -signum | -sigspec] [pid | job]... or\nkill -l [exitstatus]"

def processIn (text : String) : Run Nat := do
  if text.toList.head? = some '%' then
    match (← process).lastChild with
    | some number =>
      if text = "%1" ∨ text = "%%" ∨ text = "%+" then return number
      else refuse ("No such job: " ++ text)
    | none => refuse ("No such job: " ++ text)
  else numberIn text

def sendSignals (signal : Nat) (targets : List String) : Run Nat := do
  if targets = [] then refuse killUsage
  let mut status := 0
  for target in targets do
    let number ← processIn target
    if !(← sendSignal signal number) then
      complain "No such process\n"
      status := 1
  return status

def runKill (arguments : List String) : Run Nat := do
  match arguments with
  | [] => refuse killUsage
  | "-l" :: [] =>
    print (String.join ((List.range 65).map fun number =>
      (if number = 0 then "0" else signalName number) ++ "\n"))
    return 0
  | "-l" :: number :: _ =>
    let number ← numberIn number
    let signal := if 128 < number then number - 128 else number
    if 0 < signal ∧ signal < 65 then printOr "kill" (signalName signal ++ "\n")
    else refuse ("invalid signal number or exit status: " ++ toString number)
  | "-s" :: [] => refuse "No arg for -s option"
  | "-s" :: name :: targets =>
    match signalNumber? name with
    | some signal => sendSignals signal targets
    | none => refuse ("invalid signal number or name: " ++ name)
  | "--" :: targets => sendSignals 15 targets
  | first :: targets =>
    match first.toList with
    | '-' :: name =>
      match signalNumber? (String.ofList name), name with
      | some signal, _ => sendSignals signal targets
      | none, c :: _ => refuse ("Illegal option -" ++ c.toString)
      | none, [] => refuse killUsage
    | _ => sendSignals 15 arguments

/-- The letters of the first line of a text, how many characters make it, and whether it ends. A
backslash quotes the next character, unless the line is raw. -/
def firstLine (isRaw : Bool) : List Char → List Letter × Nat × Bool
  | [] => ([], 0, false)
  | '\n' :: _ => ([], 1, true)
  | '\\' :: c :: rest =>
    if isRaw then
      let (letters, count, ends) := firstLine isRaw (c :: rest)
      (('\\', false) :: letters, count + 1, ends)
    else
      let (letters, count, ends) := firstLine isRaw rest
      (if c = '\n' then letters else (c, true) :: letters, count + 2, ends)
  | c :: rest =>
    let (letters, count, ends) := firstLine isRaw rest
    ((c, false) :: letters, count + 1, ends)

def lineFields (breaks : List Char) : Nat → List Letter → List String
  | 0, _ => []
  | count + 1, line =>
    let isBreak : Letter → Bool := fun (c, isQuoted) => !isQuoted && breaks.contains c
    let isBlank : Letter → Bool := fun letter =>
      isBreak letter && (letter.1 = ' ' || letter.1 = '\t' || letter.1 = '\n')
    let line := line.dropWhile isBlank
    let field := line.takeWhile fun letter => !isBreak letter
    let after := (line.drop field.length).dropWhile isBlank
    let after := match after with
      | letter :: rest => if isBreak letter then rest.dropWhile isBlank else after
      | [] => []
    if count = 0 then
      [if after = [] then plain field else plain (line.reverse.dropWhile isBlank).reverse]
    else plain field :: lineFields breaks count after

def runRead (arguments : List String) : Run Nat := do
  let rec options (isRaw : Bool) : List String → Run (Bool × List String)
    | "-r" :: rest => options true rest
    | "-p" :: _ :: rest => options isRaw rest
    | "--" :: rest => return (isRaw, rest)
    | argument :: rest => match argument.toList with
      | '-' :: c :: _ => refuse ("Illegal option -" ++ c.toString)
      | _ => return (isRaw, argument :: rest)
    | [] => return (isRaw, [])
  let (isRaw, names) ← options false arguments
  if names = [] then refuse "arg count"
  names.forM requireName
  let text := ((← unread 0).toOption.getD "").toList
  let (letters, count, ends) := firstLine isRaw text
  pass 0 count
  let fields := lineFields (← fieldBreaks) names.length (letters.filter (·.1 ≠ '\x00'))
  for (name, value) in names.zip fields do assign name value
  return if ends then 0 else 1

def runGetopts (arguments : List String) : Run Nat := do
  match arguments with
  | offered :: name :: given =>
    let process ← process
    let given := if given = [] then process.arguments else given
    let place := (integer? ((← held? "OPTIND").getD "1")).getD 1
    let place := if place < 1 then 1 else place.toNat
    let offset := process.optionOffset
    let finish (place offset : Nat) : Run Unit := do
      assign "OPTIND" (toString place)
      changeProcess fun process => { process with optionOffset := offset }
    let argument := (given[place - 1]?.getD "").toList
    if offset = 0 ∧ (argument.length < 2 ∨ argument.head? ≠ some '-') then
      assign name "?"
      return 1
    else if offset = 0 ∧ argument = ['-', '-'] then
      finish (place + 1) 0
      assign name "?"
      return 1
    else
      let offset := max offset 1
      let c := argument.getD offset '?'
      let rest := argument.drop (offset + 1)
      let (nextPlace, nextOffset) := if rest = [] then (place + 1, 0) else (place, offset + 1)
      let isQuiet := offered.toList.head? = some ':'
      match offered.toList.dropWhile (· ≠ c) with
      | _ :: more =>
        if c = ':' then
          assign name "?"
          finish nextPlace nextOffset
        else if more.head? = some ':' then
          if rest ≠ [] then
            assign "OPTARG" (String.ofList rest)
            finish (place + 1) 0
            assign name c.toString
          else match given[place]? with
            | some value =>
              assign "OPTARG" value
              finish (place + 2) 0
              assign name c.toString
            | none =>
              finish (place + 1) 0
              if isQuiet then
                assign "OPTARG" c.toString
                assign name ":"
              else
                report ("No arg for -" ++ c.toString ++ " option")
                unbind "OPTARG"
                assign name "?"
        else
          assign "OPTARG" ""
          finish nextPlace nextOffset
          assign name c.toString
      | [] =>
        finish nextPlace nextOffset
        if isQuiet then assign "OPTARG" c.toString
        else
          report ("Illegal option -" ++ c.toString)
          unbind "OPTARG"
        assign name "?"
      return 0
  | _ => refuse "Usage: getopts optstring var [arg]"

def runPrintf (arguments : List String) : Run Nat := do
  let (_, arguments) ← flagsIn [] arguments
  match arguments with
  | [] => refuse "usage: printf format [arg ...]"
  | format :: arguments =>
    let filling := fillFormat (arguments.length + 1) format arguments
    filling.complaints.forM complain
    let status ← if filling.text = "" then pure 0 else printOr "printf" filling.text
    if let some fault := filling.fault then refuse fault
    return if filling.complaints = [] then status else 1

def runTest (arguments : List String) : Run Nat := do
  let holds : ExceptT String Run Bool := do
    match Condition.read arguments with
    | .ok condition => condition.holds
    | .error fault => throw fault
  match ← holds.run with
  | .ok holds => return if holds then 0 else 1
  | .error fault => refuse fault

def shownAlias (name text : String) : String := name ++ "=" ++ quotedText (text.length + 1) text.toList

def runAlias (arguments : List String) : Run Nat := do
  let shown (name text : String) : String := shownAlias name text ++ "\n"
  if arguments = [] then
    print (String.join ((← process).aliases.map fun (name, text) => shown name text))
  let mut status := 0
  for argument in arguments do
    match nameAndValue argument with
    | (name, some text) => changeProcess fun process =>
        { process with aliases := (name, text) :: process.aliases.filter fun (other, _) => other ≠ name }
    | (name, none) => match (← process).aliases.lookup name with
      | some text => print (shown name text)
      | none =>
        report ("alias: " ++ name ++ " not found")
        status := 1
  return status

def runUnalias (arguments : List String) : Run Nat := do
  let (flags, names) ← flagsIn ['a'] arguments
  if flags ≠ [] then changeProcess fun process => { process with aliases := [] }
  let mut status := 0
  for name in names do
    if ((← process).aliases.lookup name).isNone then
      report ("unalias: " ++ name ++ " not found")
      status := 1
    changeProcess fun process =>
      { process with aliases := process.aliases.filter fun (other, _) => other ≠ name }
  return status

def runBuiltin (name : String) (arguments : List String) : Run Nat :=
  match name with
  | ":" | "true" | "hash" | "jobs" => return 0
  | "bg" | "fg" => refuse "No current job"
  | "false" => return 1
  | "break" => runLeave .leaveLoops arguments
  | "continue" => runLeave .nextRound arguments
  | "exit" => runExit arguments
  | "return" => do
    statusIn arguments
    throw .leaveFunction
  | "export" => mark "export" Binding.isExported ({ · with isExported := true }) arguments
  | "readonly" => mark "readonly" Binding.isReadOnly ({ · with isReadOnly := true }) arguments
  | "local" => runLocal arguments
  | "unset" => unsetNames arguments
  | "set" => runSet arguments
  | "shift" => runShift arguments
  | "trap" => runTrap arguments
  | "times" => printOr "times" "0m0.000000s 0m0.000000s\n0m0.000000s 0m0.000000s\n"
  | "ulimit" => printOr "ulimit" "unlimited\n"
  | "alias" => runAlias arguments
  | "unalias" => runUnalias arguments
  | "echo" => printOr "echo" (echoed arguments)
  | "printf" => runPrintf arguments
  | "test" => runTest arguments
  | "[" => if arguments.getLast? = some "]" then runTest arguments.dropLast else refuse "missing ]"
  | "cd" | "chdir" => runCd arguments
  | "pwd" => runPwd arguments
  | "umask" => runUmask arguments
  | "kill" => runKill arguments
  | "read" => runRead arguments
  | "getopts" => runGetopts arguments
  | _ => return 127

end TableScript.Shell
