import TableScript.Shell.Edit

/-! The programs that can be started by their names, and where they are found. -/
namespace TableScript.Shell

open Run

def runEchoProgram (arguments : List String) : Run Nat := do
  let rec options (endsLine escapes : Bool) : List String → Bool × Bool × List String
    | "-n" :: rest => options false escapes rest
    | "-e" :: rest => options endsLine true rest
    | "-E" :: rest => options endsLine false rest
    | "-ne" :: rest | "-en" :: rest => options false true rest
    | rest => (endsLine, escapes, rest)
  let (endsLine, escapes, words) := options true false arguments
  let text := (String.intercalate " " words).toList
  let (text, goesOn) := if escapes then unescaped (text.length + 1) text else (text, true)
  print (String.ofList text ++ if endsLine && goesOn then "\n" else "")
  return 0

def runPrintenv (arguments : List String) : Run Nat := do
  let all ← exported
  if arguments = [] then
    print (String.join (all.map fun (name, value) => name ++ "=" ++ value ++ "\n"))
    return 0
  else forAll arguments fun name => do
    match all.lookup name with
    | some value =>
      print (value ++ "\n")
      return true
    | none => return false

def runYes (arguments : List String) : Run Nat := do
  let line := (if arguments = [] then "y" else String.intercalate " " arguments) ++ "\n"
  print (String.join (List.replicate 2000 line))
  return 141

def runFind (arguments : List String) : Run Nat := do
  let isTest (argument : String) : Bool :=
    argument.toList.head? = some '-' || argument = "!" || argument = "("
  let roots := arguments.takeWhile fun argument => !isTest argument
  let rec tests : List String → Option (List (String × String))
    | "!" :: "-name" :: pattern :: rest => (tests rest).map (("!-name", pattern) :: ·)
    | "!" :: "-type" :: sort :: rest => (tests rest).map (("!-type", sort) :: ·)
    | "-print" :: rest => tests rest
    | "-delete" :: rest => (tests rest).map (("-delete", "") :: ·)
    | "-empty" :: rest => (tests rest).map (("-empty", "") :: ·)
    | test :: value :: rest =>
      if ["-name", "-type", "-maxdepth", "-mindepth", "-path"].contains test then
        (tests rest).map ((test, value) :: ·)
      else none
    | [] => some []
    | _ => none
  match tests (arguments.drop roots.length) with
  | none =>
    report ("find: unknown predicate " ++ inQuotes (arguments.getD roots.length ""))
    return 1
  | some tests =>
    let passes (path : String) (depth : Nat) (node : FileNode) : Bool := tests.all fun (test, value) =>
      let isSort := value = (match node with
        | .directory _ => "d"
        | .link _ => "l"
        | .file _ => "f")
      let fitsName := fits (patternOf (value.toList.map (·, false))) (baseName path).toList
      match test with
      | "-name" => fitsName
      | "!-name" => !fitsName
      | "-type" => isSort
      | "!-type" => !isSort
      | "-path" => fits (patternOf (value.toList.map (·, false))) path.toList
      | "-mindepth" => decide ((value.toNat?).getD 0 ≤ depth)
      | "-empty" => match node with
        | .file bytes => bytes.isEmpty
        | .directory entries => entries.isEmpty
        | .link _ => false
      | _ => true
    let deepest := ((tests.lookup "-maxdepth").bind String.toNat?).getD 64
    let rec walk : Nat → String → Nat → FileNode → List String
      | 0, _, _, _ => []
      | steps + 1, path, depth, node =>
        let own := if passes path depth node then [path] else []
        match node with
        | .directory entries =>
          if deepest ≤ depth then own
          else own ++ entries.flatMap fun (name, child) => walk steps (inside path (ofBytes name)) (depth + 1) child
        | _ => own
    forAll (if roots = [] then ["."] else roots) fun root => do
      match ← nodeOf root false with
      | .error fault => failing "find" (inQuotes root) fault.reason
      | .ok (_, node) =>
        let paths := walk 65 root 0 node
        if (tests.map Prod.fst).contains "-delete" then
          for path in paths.reverse do
            if let .ok (names, _) ← nodeOf path false then removeNode names
        else print (String.join (paths.map (· ++ "\n")))
        return true

def program? (name : String) : Option (List String → Run Nat) :=
  match name with
  | "basename" => some runBasename
  | "cat" => some runCat
  | "chmod" => some runChmod
  | "cmp" => some runCmp
  | "cp" => some runCp
  | "cut" => some runCut
  | "diff" => some runDiff
  | "dirname" => some runDirname
  | "echo" => some runEchoProgram
  | "egrep" => some (runGrep true false)
  | "expr" => some runExpr
  | "fgrep" => some (runGrep false true)
  | "find" => some runFind
  | "grep" => some (runGrep false false)
  | "head" => some runHead
  | "ln" => some runLn
  | "ls" => some runLs
  | "mkdir" => some runMkdir
  | "mv" => some runMv
  | "nl" => some runNl
  | "od" => some runOd
  | "paste" => some runPaste
  | "printenv" => some runPrintenv
  | "readlink" | "realpath" => some fun arguments =>
      runReadlink (if name = "realpath" then "-f" :: arguments else arguments)
  | "rev" => some runRev
  | "rm" | "unlink" => some runRm
  | "rmdir" => some runRmdir
  | "sed" => some runSed
  | "seq" => some runSeq
  | "sort" => some runSort
  | "sync" | "chown" | "chgrp" => some fun _ => return 0
  | "tac" => some runTac
  | "tail" => some runTail
  | "tee" => some runTee
  | "touch" => some runTouch
  | "tr" => some runTr
  | "uname" => some fun _ => do
      print "Linux\n"
      return 0
  | "uniq" => some runUniq
  | "wc" => some runWc
  | "whoami" => some fun _ => do
      print "root\n"
      return 0
  | "yes" => some runYes
  | "false" | "kill" | "printf" | "pwd" | "test" | "[" | "true" => some (runBuiltin name)
  | _ => none

def startingPrograms : List String := ["bash", "dash", "env", "nohup", "sh", "sleep", "timeout", "which", "xargs"]

def programDirectories : List String := ["/usr/bin", "/bin"]

def defaultPath : String := "/usr/local/sbin:/usr/local/bin:/usr/sbin:/usr/bin:/sbin:/bin"

inductive Found where
  | known (name path : String)
  | installed (name : String)
  | script (path : String)
  | denied
  | missing
  deriving DecidableEq

def isKnown (name : String) : Bool := (program? name).isSome || startingPrograms.contains name

def programAt (path : String) : Run Found := do
  let name := baseName path
  if programDirectories.contains (directoryName path) ∧ isKnown name then return .known name path
  else match ← nodeOf path true with
    | .ok (names, .file _) => return if (← machine).executables.contains names then .script path else .denied
    | .ok _ => return .denied
    | .error _ => return .missing

/-- Looks for a program in some directories. A file that may not be run counts only if nothing else is
found. -/
def searchProgram (name : String) (isDenied : Bool) : List String → Run Found
  | [] => return if isDenied then .denied else .missing
  | directory :: rest => do
    if programDirectories.contains directory ∧ ((← machine).programs.lookup name).isSome then
      return .installed name
    else
      let path := (if directory = "" then "." else withoutSlashes directory) ++ "/" ++ name
      match ← programAt path with
      | .missing => searchProgram name isDenied rest
      | .denied => searchProgram name (isDenied || !(← isDirectory path)) rest
      | found => return found

def findProgram (name : String) : Run Found := do
  if name.toList.contains '/' then programAt name
  else if name = "" ∧ (← held? "PATH").isSome then return .denied
  else match ← held? "PATH" with
    | some path => searchProgram name false (searchPath path)
    | none => return .missing

def Found.path? : Found → Option String
  | .known _ path => some path
  | .installed name => some ("/usr/bin/" ++ name)
  | .script path => some path
  | .denied | .missing => none

def description? (isShort : Bool) (name : String) : Run (Option String) := do
  let inWords (what : String) : Option String := some (if isShort then name else name ++ " is " ++ what)
  if reservedWords.contains name then return inWords "a shell keyword"
  else if let some text := (← process).aliases.lookup name then
    return some (if isShort then "alias " ++ shownAlias name text else name ++ " is an alias for " ++ text)
  else if ((← process).functions.lookup name).isSome then return inWords "a shell function"
  else if specialBuiltins.contains name then return inWords "a special shell builtin"
  else if plainBuiltins.contains name then return inWords "a shell builtin"
  else match ← findProgram name with
    | .denied => return if name.toList.contains '/' then inWords name else none
    | found => match found.path? with
      | some path => return some (if isShort then path else name ++ " is " ++ path)
      | none => return none

def runType (names : List String) : Run Nat := do
  let mut status := 0
  for name in names do
    match ← description? false name with
    | some text => print (text ++ "\n")
    | none =>
      print (name ++ ": not found\n")
      status := 127
  return status

end TableScript.Shell
