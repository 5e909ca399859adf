import TableScript.Shell.Builtin

/-! The programs that make, copy, move, remove, link and list files. -/
namespace TableScript.Shell

open Run

structure Options where
  letters : List Char
  values : List (Char × String)
  operands : List String

def Options.has (options : Options) (letter : Char) : Bool := options.letters.contains letter

def Options.value? (options : Options) (letter : Char) : Option String :=
  options.values.reverse.lookup letter

structure OptionTable where
  letters : String
  valued : String
  words : List (String × Char)

def Options.addLetter (options : Options) (letter : Char) : Options :=
  { options with letters := letter :: options.letters }

def Options.addValue (options : Options) (letter : Char) (value : String) : Options :=
  { options with values := (letter, value) :: options.values }

def optionLetters (table : OptionTable) : List Char →
    Except Char (List Char × Option (Char × Option String))
  | [] => .ok ([], none)
  | c :: rest =>
    if table.valued.toList.contains c then
      .ok ([], some (c, if rest = [] then none else some (String.ofList rest)))
    else if table.letters.toList.contains c then do
      let (letters, value) ← optionLetters table rest
      return (c :: letters, value)
    else .error c

/-- Sorts arguments into options and others; options may stand anywhere before `--`. The error is what
is wrong with an argument. -/
def readOptions (table : OptionTable) : List String → Except String Options
  | [] => .ok ⟨[], [], []⟩
  | argument :: rest =>
    match argument.toList with
    | ['-', '-'] => .ok ⟨[], [], rest⟩
    | '-' :: '-' :: word =>
      let (name, value) := nameAndValue (String.ofList word)
      match table.words.lookup name, value with
      | some letter, some value => return (← readOptions table rest).addValue letter value
      | some letter, none => return (← readOptions table rest).addLetter letter
      | none, _ => .error ("unrecognized option '" ++ argument ++ "'")
    | '-' :: c :: more =>
      match optionLetters table (c :: more) with
      | .error c => .error ("invalid option -- '" ++ c.toString ++ "'")
      | .ok (letters, value) =>
        let withLetters (options : Options) : Options := { options with letters := letters ++ options.letters }
        match value, rest with
        | none, rest => return withLetters (← readOptions table rest)
        | some (letter, some value), rest => return withLetters ((← readOptions table rest).addValue letter value)
        | some (letter, none), value :: rest =>
          return withLetters ((← readOptions table rest).addValue letter value)
        | some (letter, none), [] => .error ("option requires an argument -- '" ++ letter.toString ++ "'")
    | _ => do
      let options ← readOptions table rest
      return { options with operands := argument :: options.operands }

def misuse (program reason : String) : Run Unit := do
  report (program ++ ": " ++ reason)
  report ("Try '" ++ program ++ " --help' for more information.")

def withOptions (program : String) (table : OptionTable) (failure : Nat) (arguments : List String)
    (body : Options → Run Nat) : Run Nat := do
  match readOptions table arguments with
  | .ok options => body options
  | .error reason =>
    misuse program reason
    return failure

def forAll {α : Type} (things : List α) (body : α → Run Bool) : Run Nat := do
  let mut status := 0
  for thing in things do
    if !(← body thing) then status := 1
  return status

def failing (program text : String) (fault : String) : Run Bool := do
  report (program ++ ": " ++ text ++ ": " ++ fault)
  return false

def inQuotes (path : String) : String := "'" ++ path ++ "'"

def withoutSlashes (path : String) : String :=
  match (path.toList.reverse.dropWhile (· = '/')).reverse with
  | [] => if path = "" then "" else "/"
  | rest => String.ofList rest

def baseName (path : String) : String :=
  let path := withoutSlashes path
  if path = "/" then "/" else String.ofList (path.toList.reverse.takeWhile (· ≠ '/')).reverse

def directoryName (path : String) : String :=
  let path := withoutSlashes path
  match path.toList.reverse.dropWhile (· ≠ '/') with
  | [] => "."
  | slashes => withoutSlashes (String.ofList slashes.reverse)

def inside (directory name : String) : String :=
  directory ++ (if directory.toList.getLast? = some '/' then "" else "/") ++ name

/-! ### Reading -/

def inputFrom (program path : String) : Run (Option String) := do
  let text ← if path = "-" then readAll 0 else do
    match ← openPath path .read with
    | .error fault => pure (.error fault)
    | .ok index =>
      let old := (← process).streams
      setStream 0 index
      let text ← readAll 0
      changeProcess fun process => { process with streams := old }
      pure text
  match text with
  | .ok text => return some text
  | .error fault =>
    discard (failing program path fault.reason)
    return none

def isOwnOutput (path : String) : Run Bool := do
  match ← openFile? 1 with
  | some (_, ⟨.file place, _, _, _⟩) =>
    let input ← if path = "-" then do
        pure ((← openFile? 0).bind fun (_, file) => match file.target with
          | .file names => some (names, file.offset)
          | _ => none)
      else do pure ((← nodeOf path true).toOption.map fun (names, _) => (names, 0))
    match input, ← nodeAt? place with
    | some (names, offset), some (.file bytes) => return names == place && decide (offset < bytes.length)
    | _, _ => return false
  | _ => return false

def linesOf (text : String) : List String :=
  let rec parts : List Char → List (List Char)
    | [] => []
    | '\n' :: rest => ['\n'] :: parts rest
    | c :: rest => match parts rest with
      | [] => [[c]]
      | line :: lines => (c :: line) :: lines
  (parts text.toList).map String.ofList

def withoutEnd (line : String) : String :=
  match line.toList.reverse with
  | '\n' :: rest => String.ofList rest.reverse
  | _ => line

def numbered (skipsEmpty : Bool) : Nat → List String → List String
  | _, [] => []
  | number, line :: rest =>
    if skipsEmpty ∧ line = "\n" then line :: numbered skipsEmpty number rest
    else (filledLeft 6 ' ' (toString number) ++ "\t" ++ line) :: numbered skipsEmpty (number + 1) rest

def squeezed : List String → List String
  | "\n" :: "\n" :: rest => squeezed ("\n" :: rest)
  | line :: rest => line :: squeezed rest
  | [] => []

def visible (line : String) : String := String.join (line.toList.map fun c =>
  let ofLow (code : Nat) : String :=
    if code < 32 then "^" ++ (Char.ofNat (code + 64)).toString
    else if code = 127 then "^?" else (Char.ofNat code).toString
  if c = '\t' ∨ c = '\n' then c.toString
  else if c.toNat < 128 then ofLow c.toNat else "M-" ++ ofLow (c.toNat - 128))

def runCat (arguments : List String) : Run Nat :=
  withOptions "cat" ⟨"nbsuEATtve", "", [("number", 'n')]⟩ 1 arguments fun options => do
    if (← openFile? 1).isNone then
      report "cat: standard output: Bad file descriptor"
      return 1
    let mut lines := 1
    let mut status := 0
    for path in if options.operands = [] then ["-"] else options.operands do
      if ← isOwnOutput path then
        report ("cat: " ++ path ++ ": input file is output file")
        status := 1
      else match ← inputFrom "cat" path with
        | none => status := 1
        | some text =>
          let parts := linesOf text
          let parts := if options.has 's' then squeezed parts else parts
          let counted := if options.has 'b' then (parts.filter (· ≠ "\n")).length else parts.length
          let parts := if options.has 'b' ∨ options.has 'n' then numbered (options.has 'b') lines parts else parts
          let shows (letters : String) : Bool := letters.toList.any options.has
          let parts := if shows "vAet" then parts.map visible else parts
          let parts := if shows "TAt" then parts.map fun line => line.replace "\t" "^I" else parts
          let parts := if shows "EAe" then
            parts.map fun line => if line.toList.getLast? = some '\n' then withoutEnd line ++ "$\n" else line
            else parts
          lines := lines + counted
          print (if options.letters = [] then text else String.join parts)
    return status

/-! ### Making and removing -/

def makeDirectory (path : String) (withParents isVerbose : Bool) : Run Bool := do
  let failed (reason : String) : Run Bool :=
    failing "mkdir" ("cannot create directory " ++ inQuotes path) reason
  let make (names : List FileName) : Run Bool := do
    placeNode names (.directory [])
    if isVerbose then print ("mkdir: created directory " ++ inQuotes path ++ "\n")
    return true
  let short := withoutSlashes path
  match ← placeOf short false with
  | .error fault =>
    if withParents ∧ (fault = .notFound ∨ fault = .notDirectory) then makeAll short else failed fault.reason
  | .ok names => match ← nodeAt? names with
    | none => make names
    | some _ => if withParents ∧ (← isDirectory path) then return true else failed "File exists"
where
  makeAll (path : String) : Run Bool := do
    let parts := (FileSystem.route (toPath path)).map ofBytes
    let mut soFar := if path.toList.head? = some '/' then "" else "."
    for part in parts do
      soFar := soFar ++ "/" ++ part
      match ← placeOf soFar true with
      | .error fault => return ← failing "mkdir" ("cannot create directory " ++ inQuotes path) fault.reason
      | .ok names => match ← nodeAt? names with
        | none => placeNode names (.directory [])
        | some (.directory _) => pure ()
        | some _ =>
          let shown := if path.toList.head? = some '/' then soFar else String.ofList (soFar.toList.drop 2)
          return ← failing "mkdir" ("cannot create directory " ++ inQuotes shown) Fault.notDirectory.reason
    return true

def runMkdir (arguments : List String) : Run Nat :=
  withOptions "mkdir" ⟨"pv", "m", [("parents", 'p'), ("verbose", 'v'), ("mode", 'm')]⟩ 1 arguments fun options => do
    if options.operands = [] then
      misuse "mkdir" "missing operand"
      return 1
    forAll options.operands fun path => makeDirectory path (options.has 'p') (options.has 'v')

def runRmdir (arguments : List String) : Run Nat :=
  withOptions "rmdir" ⟨"pv", "", [("parents", 'p'), ("ignore-fail-on-non-empty", 'i')]⟩ 1 arguments fun options => do
    if options.operands = [] then
      misuse "rmdir" "missing operand"
      return 1
    forAll options.operands fun path => do
      let ancestors := if options.has 'p' then
        (List.range path.length).foldl (fun paths _ => match paths with
          | last :: _ => if directoryName last = "." ∨ directoryName last = "/" then paths
            else directoryName last :: paths
          | [] => paths) [withoutSlashes path] else [path]
      for path in ancestors.reverse do
        let failed (reason : String) : Run Bool := failing "rmdir" ("failed to remove " ++ inQuotes path) reason
        match ← nodeOf (withoutSlashes path) false with
        | .error fault => return ← failed fault.reason
        | .ok (names, .directory []) =>
          if baseName path = "." then return ← failed "Invalid argument"
          removeNode names
        | .ok (_, .directory _) => return (← if options.has 'i' then pure true else failed "Directory not empty")
        | .ok _ => return ← failed Fault.notDirectory.reason
      return true

def runTouch (arguments : List String) : Run Nat :=
  withOptions "touch" ⟨"acmfh", "dtr", [("no-create", 'c')]⟩ 1 arguments fun options => do
    if options.operands = [] then
      misuse "touch" "missing file operand"
      return 1
    forAll options.operands fun path => do
      match ← placeOf path true with
      | .error fault =>
        if options.has 'c' ∧ fault = .notFound then return true
        else failing "touch" ("cannot touch " ++ inQuotes path) fault.reason
      | .ok names =>
        if (← nodeAt? names).isNone ∧ !options.has 'c' then placeNode names (.file [])
        return true

def runRm (arguments : List String) : Run Nat :=
  withOptions "rm" ⟨"rRfivdI", "", [("recursive", 'r'), ("force", 'f'), ("verbose", 'v'), ("dir", 'd')]⟩ 1 arguments
    fun options => do
    if options.operands = [] ∧ !options.has 'f' then
      misuse "rm" "missing operand"
      return 1
    forAll options.operands fun path => do
      let failed (reason : String) : Run Bool := failing "rm" ("cannot remove " ++ inQuotes path) reason
      let isRecursive := options.has 'r' || options.has 'R'
      match ← nodeOf path false with
      | .error fault =>
        if options.has 'f' ∧ (fault = .notFound ∨ fault = .notDirectory) then return true
        else failed fault.reason
      | .ok (names, node) =>
        if isRecursive ∧ (baseName path = "." ∨ baseName path = "..") then
          report ("rm: refusing to remove '.' or '..' directory: skipping " ++ inQuotes path)
          return false
        else if node.isDirectory ∧ !isRecursive ∧ !(options.has 'd' ∧ node.entries.isEmpty) then
          failed (if options.has 'd' then "Directory not empty" else Fault.isDirectory.reason)
        else
          removeNode names
          if options.has 'v' then
            print ((if node.isDirectory then "removed directory " else "removed ") ++ inQuotes path ++ "\n")
          return true

/-! ### Copying, moving and linking -/

def merged : FileNode → FileNode → FileNode
  | .directory old, .directory new => .directory (mergeEntries old new)
  | _, node => node
where
  mergeEntries (old : List (FileName × FileNode)) : List (FileName × FileNode) → List (FileName × FileNode)
    | [] => old
    | (name, node) :: rest =>
      let node := match old.lookup name with
        | some there => merged there node
        | none => node
      mergeEntries (Keyed.put old name node) rest

def setExecutable (names : List FileName) (isExecutable : Bool) : Run Unit :=
  changeMachine fun machine =>
    let others := machine.executables.filter (· ≠ names)
    { machine with executables := if isExecutable then names :: others else others }

def destinations (program : String) (options : Options) : Run (Option (List (String × String))) := do
  let target := options.value? 't'
  match options.operands, target with
  | [], _ =>
    misuse program "missing file operand"
    return none
  | [source], none =>
    misuse program ("missing destination file operand after " ++ inQuotes source)
    return none
  | operands, target =>
    let goal := target.getD (operands.getLast?.getD "")
    let sources := if target.isSome then operands else operands.dropLast
    if (← isDirectory goal) ∧ !options.has 'T' then
      return some (sources.map fun source => (source, inside goal (baseName source)))
    else if sources.length = 1 ∧ target.isNone then return some (sources.map (·, goal))
    else
      let reason := match ← nodeOf goal true with
        | .ok _ => Fault.notDirectory.reason
        | .error fault => fault.reason
      report (program ++ ": target " ++ inQuotes goal ++ ": " ++ reason)
      return none

def copy (options : Options) (source goal : String) : Run Bool := do
  let isRecursive := options.has 'r' || options.has 'R' || options.has 'a'
  match ← nodeOf source (!isRecursive && !options.has 'P') with
  | .error fault => failing "cp" ("cannot stat " ++ inQuotes source) fault.reason
  | .ok (origin, node) =>
    if node.isDirectory ∧ !isRecursive then
      report ("cp: -r not specified; omitting directory " ++ inQuotes source)
      return false
    else
      let isLink := match node with
        | .link _ => true
        | _ => false
      match ← placeOf (if node.isDirectory then withoutSlashes goal else goal) (!isLink) with
      | .error fault =>
        let sort := if node.isDirectory then "directory " else "regular file "
        let short := (← placeOf (withoutSlashes goal) true).toOption
        let there ← match short with
          | some names => nodeAt? names
          | none => pure none
        if there.isSome then failing "cp" ("cannot stat " ++ inQuotes goal) fault.reason
        else
          let reason := (if short.isSome then Fault.notDirectory else fault).reason
          failing "cp" ("cannot create " ++ sort ++ inQuotes goal) reason
      | .ok names =>
        let there ← nodeAt? names
        let done : Run Bool := do
          if options.has 'v' then print (inQuotes source ++ " -> " ++ inQuotes goal ++ "\n")
          return true
        if names = origin then
          report ("cp: " ++ inQuotes source ++ " and " ++ inQuotes goal ++ " are the same file")
          return false
        else match there with
          | some (.directory old) =>
            if node.isDirectory then
              placeNode names (merged (.directory old) node)
              done
            else
              report ("cp: cannot overwrite directory " ++ inQuotes goal ++ " with non-directory")
              return false
          | some _ =>
            if node.isDirectory then
              report ("cp: cannot overwrite non-directory " ++ inQuotes goal ++ " with directory " ++
                inQuotes source)
              return false
            else if options.has 'n' then return true
            else
              placeNode names node
              done
          | none =>
            if node.isDirectory ∧ origin.isPrefixOf names then
              report ("cp: cannot copy a directory, " ++ inQuotes source ++ ", into itself, " ++ inQuotes goal)
              placeNode names node
              return false
            else
              placeNode names node
              setExecutable names ((← machine).executables.contains origin)
              done

def runCp (arguments : List String) : Run Nat :=
  withOptions "cp" ⟨"rRafpvniTPLdu", "t", [("recursive", 'r'), ("force", 'f'), ("verbose", 'v'), ("no-clobber", 'n'),
      ("archive", 'a'), ("target-directory", 't'), ("no-target-directory", 'T')]⟩ 1 arguments fun options => do
    match ← destinations "cp" options with
    | none => return 1
    | some goals => forAll goals fun (source, goal) => copy options source goal

def move (options : Options) (source goal : String) : Run Bool := do
  match ← nodeOf (withoutSlashes source) false with
  | .error fault => failing "mv" ("cannot stat " ++ inQuotes source) fault.reason
  | .ok (origin, node) =>
    let failed (reason : String) : Run Bool :=
      failing "mv" ("cannot move " ++ inQuotes source ++ " to " ++ inQuotes goal) reason
    match ← placeOf (if node.isDirectory then withoutSlashes goal else goal) false with
    | .error fault =>
      if (← nodeOf (withoutSlashes goal) false).toOption.isSome then
        failing "mv" ("cannot stat " ++ inQuotes goal) fault.reason
      else failed (if goal.toList.getLast? = some '/' then Fault.notDirectory else fault).reason
    | .ok names =>
      if names = origin then
        report ("mv: " ++ inQuotes source ++ " and " ++ inQuotes goal ++ " are the same file")
        return false
      else if node.isDirectory ∧ origin.isPrefixOf names then
        report ("mv: cannot move " ++ inQuotes source ++ " to a subdirectory of itself, " ++ inQuotes goal)
        return false
      else
        let put : Run Bool := do
          let isExecutable := (← machine).executables.contains origin
          removeNode origin
          placeNode names node
          setExecutable origin false
          setExecutable names isExecutable
          if options.has 'v' then print ("renamed " ++ inQuotes source ++ " -> " ++ inQuotes goal ++ "\n")
          return true
        match ← nodeAt? names with
        | none => put
        | some (.directory entries) =>
          if !node.isDirectory then
            report ("mv: cannot overwrite directory " ++ inQuotes goal ++ " with non-directory")
            return false
          else if entries.isEmpty then put
          else failed "Directory not empty"
        | some _ =>
          if node.isDirectory then
            report ("mv: cannot overwrite non-directory " ++ inQuotes goal ++ " with directory " ++ inQuotes source)
            return false
          else if options.has 'n' then return true
          else put

def runMv (arguments : List String) : Run Nat :=
  withOptions "mv" ⟨"fvniTu", "t", [("force", 'f'), ("verbose", 'v'), ("no-clobber", 'n'), ("target-directory", 't')]⟩ 1
    arguments fun options => do
    match ← destinations "mv" options with
    | none => return 1
    | some goals => forAll goals fun (source, goal) => move options source goal

def link (options : Options) (source goal : String) : Run Bool := do
  let sort := if options.has 's' then "symbolic link " else "hard link "
  let failed (reason : String) : Run Bool :=
    failing "ln" ("failed to create " ++ sort ++ inQuotes goal) reason
  let node ← if options.has 's' then pure (.ok (.link (toPath source))) else do
    pure ((← nodeOf source false).map Prod.snd)
  match node with
  | .error fault => failing "ln" ("failed to access " ++ inQuotes source) fault.reason
  | .ok node =>
    if node.isDirectory then
      report ("ln: " ++ source ++ ": hard link not allowed for directory")
      return false
    else match ← placeOf goal false with
      | .error fault => failed fault.reason
      | .ok names => match ← nodeAt? names with
        | some there =>
          if options.has 'f' ∧ !there.isDirectory then
            placeNode names node
            return true
          else failed "File exists"
        | none =>
          placeNode names node
          return true

def runLn (arguments : List String) : Run Nat :=
  withOptions "ln" ⟨"sfnvTrPL", "t", [("symbolic", 's'), ("force", 'f'), ("no-dereference", 'n'), ("target-directory", 't')]⟩
    1 arguments fun options => do
    match options.operands with
    | [] =>
      misuse "ln" "missing file operand"
      return 1
    | [source] => forAll [source] fun source => link options source (inside "." (baseName source))
    | operands =>
      let goal := operands.getLast?.getD ""
      let isLinkItself := options.has 'n' && match ← nodeOf goal false with
        | .ok (_, .link _) => true
        | _ => false
      if (← isDirectory goal) ∧ !options.has 'T' ∧ !isLinkItself then
        forAll operands.dropLast fun source => link options source (inside goal (baseName source))
      else if operands.length = 2 then forAll operands.dropLast fun source => link options source goal
      else
        report ("ln: target " ++ inQuotes goal ++ " is not a directory")
        return 1

def runReadlink (arguments : List String) : Run Nat :=
  withOptions "readlink" ⟨"fenmqsv", "", []⟩ 1 arguments fun options => do
    if options.operands = [] then
      misuse "readlink" "missing operand"
      return 1
    let lineEnd := if options.has 'n' then "" else "\n"
    forAll options.operands fun path => do
      if options.has 'f' ∨ options.has 'e' ∨ options.has 'm' then
        match ← placeOf path true with
        | .ok names =>
          print (pathText names ++ lineEnd)
          return true
        | .error _ => return false
      else match ← nodeOf path false with
        | .ok (_, .link target) =>
          print (ofBytes target.bytes ++ lineEnd)
          return true
        | _ => return false

def runChmod (arguments : List String) : Run Nat := do
  let isMode (argument : String) : Bool := argument.toList.head? ≠ some '-' ||
    argument.toList.all fun c => c = '-' || c = 'r' || c = 'w' || c = 'x'
  let arguments := arguments.filter fun argument => isMode argument
  match arguments with
  | [] =>
    misuse "chmod" "missing operand"
    return 1
  | [mode] =>
    misuse "chmod" ("missing operand after " ++ inQuotes mode)
    return 1
  | mode :: paths =>
    let digits := mode.toList
    let change? : Option (Bool → Bool) :=
      if digits.all isOctalDigit then some fun _ => decide (Nat.land (digitsValue 8 digits) 73 ≠ 0)
      else ((mode.splitOn ",").map String.toList).foldlM (fun change clause =>
        (changedPermissions? 0 clause).map fun _ => fun old =>
          let old := change old
          let now := (changedPermissions? (if old then 73 else 0) (clause.filter fun c => c = 'u' || c = 'g' ||
            c = 'o' || c = 'a' || c = '+' || c = '-' || c = '=' || c = 'x')).getD 0
          decide (Nat.land now 73 ≠ 0)) id
    match change? with
    | none =>
      misuse "chmod" ("invalid mode: " ++ inQuotes mode)
      return 1
    | some change => forAll paths fun path => do
        match ← nodeOf path true with
        | .error fault => failing "chmod" ("cannot access " ++ inQuotes path) fault.reason
        | .ok (names, _) =>
          setExecutable names (change ((← machine).executables.contains names))
          return true

/-! ### Listing -/

def listing (options : Options) (entries : List (FileName × FileNode)) : List (String × FileNode) :=
  let named := entries.map fun (name, node) => (ofBytes name, node)
  let own := if options.has 'a' then [(".", FileNode.directory []), ("..", .directory [])] else []
  let shown := own ++ named.filter fun (name, _) =>
    options.has 'a' || options.has 'A' || name.toList.head? ≠ some '.'
  let sorted := shown.mergeSort fun first second => decide (first.1 ≤ second.1)
  if options.has 'r' then sorted.reverse else sorted

def shownName (options : Options) (executable : Bool) (name : String) (node : FileNode) : String :=
  name ++ match node with
    | .directory _ => if options.has 'F' ∨ options.has 'p' then "/" else ""
    | .link _ => if options.has 'F' then "@" else ""
    | .file _ => if options.has 'F' ∧ executable then "*" else ""

def listingLines (options : Options) (withPath : Bool) : Nat → String → List (FileName × FileNode) → List String
  | 0, _, _ => []
  | steps + 1, path, entries =>
    let shown := listing options entries
    let head := if withPath then [path ++ ":"] else []
    let inner := if options.has 'R' then shown.flatMap fun (name, node) => match node with
        | .directory entries => if name = "." ∨ name = ".." then []
          else "" :: listingLines options true steps (inside path name) entries
        | _ => []
      else []
    head ++ (shown.map fun (name, node) => shownName options false name node) ++ inner

def runLs (arguments : List String) : Run Nat :=
  withOptions "ls" ⟨"1aArdRFplCLhtSUginosx", "I", [("all", 'a'), ("almost-all", 'A'), ("directory", 'd'),
      ("recursive", 'R'), ("reverse", 'r')]⟩ 2 arguments fun options => do
    let paths := if options.operands = [] then ["."] else options.operands
    let mut status := 0
    let mut files := []
    let mut directories := []
    for path in paths do
      match ← nodeOf path (!options.has 'd') with
      | .ok (_, .directory entries) =>
        if options.has 'd' then files := files ++ [(path, FileNode.directory [])]
        else directories := directories ++ [(path, entries)]
      | .ok (_, node) => files := files ++ [(path, node)]
      | .error fault => match ← nodeOf path false with
        | .ok (_, node) => files := files ++ [(path, node)]
        | .error _ =>
          report ("ls: cannot access " ++ inQuotes path ++ ": " ++ fault.reason)
          status := 2
    let inOrder {α : Type} (things : List (String × α)) : List (String × α) :=
      let sorted := things.mergeSort fun first second => decide (first.1 ≤ second.1)
      if options.has 'r' then sorted.reverse else sorted
    let fileLines := (inOrder files).map fun (path, node) => shownName options false path node
    let withPaths := decide (1 < paths.length) || options.has 'R'
    let parts := (inOrder directories).map fun (path, entries) => listingLines options withPaths 64 path entries
    let parts := if fileLines = [] then parts else fileLines :: parts
    print (String.join ((List.intercalate [""] parts).map (· ++ "\n")))
    return status

end TableScript.Shell
