import TableScript.Shell.TextUtility

/-! Editing a text line by line, as `sed` does: a script of commands, each for the lines that its
addresses name. -/
namespace TableScript.Shell

open Run

inductive Address where
  | line (number : Nat)
  | every (first step : Nat)
  | last
  | fits (pattern : TextPattern) (foldsCase : Bool)
  | after (count : Nat)

inductive Replacement where
  | char (c : Char)
  | group (number : Nat)

inductive EditAction where
  | substitute (pattern : TextPattern) (replacement : List Replacement) (place : Nat)
      (everyFit prints foldsCase : Bool)
  | translate (table : List (Char × Char))
  | print
  | printFirstLine
  | delete
  | deleteFirstLine
  | quit (prints : Bool) (status : Nat)
  | number
  | append (text : String)
  | insert (text : String)
  | change (text : String)
  | next
  | appendNext
  | hold (appends : Bool)
  | recall (appends : Bool)
  | exchange
  | beginGroup
  | endGroup
  | nothing

structure EditCommand where
  first : Option Address
  second : Option Address
  isNegated : Bool
  action : EditAction

abbrev EditReading := ExceptT String (StateM (List Char))

namespace EditCommand

def passWhile (accept : Char → Bool) : EditReading (List Char) := do
  let taken := (← get).takeWhile accept
  modify (·.drop taken.length)
  return taken

def readUpTo (mark : Char) : Nat → Bool → EditReading (Option (List Char))
  | 0, _ => return none
  | steps + 1, inBrackets => do
    match ← get with
    | [] => return none
    | '\\' :: c :: rest =>
      set rest
      let more ← readUpTo mark steps inBrackets
      return more.map fun more => if c = mark then c :: more
        else if c = '\n' then c :: more else '\\' :: c :: more
    | c :: rest =>
      set rest
      if c = mark ∧ !inBrackets then return some []
      else
        let more ← readUpTo mark steps (if c = '[' then true else if c = ']' then false else inBrackets)
        return more.map (c :: ·)

def readAddress? (isExtended : Bool) : EditReading (Option Address) := do
  match ← get with
  | c :: rest =>
    if c.isDigit then
      let number := Text.decimalValue (← passWhile Char.isDigit)
      match ← get with
      | '~' :: rest =>
        set rest
        return some (.every number (Text.decimalValue (← passWhile Char.isDigit)))
      | _ => return some (.line number)
    else if c = '$' then
      set rest
      return some .last
    else if c = '/' ∨ c = '\\' then
      let (mark, rest) := if c = '/' then ('/', rest) else (rest.headD '/', rest.drop 1)
      set rest
      match ← readUpTo mark (rest.length + 1) false with
      | none => throw "unterminated address regex"
      | some text =>
        let foldsCase := (← get).head? = some 'I'
        if foldsCase then modify (·.drop 1)
        match TextPattern.read isExtended text with
        | .ok pattern => return some (.fits pattern foldsCase)
        | .error reason => throw reason
    else return none
  | [] => return none

def replacementOf : List Char → List Replacement
  | '\\' :: c :: rest =>
    (if c.isDigit then .group (c.toNat - '0'.toNat)
      else if c = 'n' then .char '\n'
      else if c = 't' then .char '\t'
      else if c = 'r' then .char '\r'
      else .char c) :: replacementOf rest
  | '&' :: rest => .group 0 :: replacementOf rest
  | c :: rest => .char c :: replacementOf rest
  | [] => []

def readSubstitution (isExtended : Bool) : EditReading EditAction := do
  match ← get with
  | [] => throw "unterminated `s' command"
  | mark :: rest =>
    set rest
    match ← readUpTo mark (rest.length + 1) false with
    | none => throw "unterminated `s' command"
    | some pattern => match ← readUpTo mark (rest.length + 1) false with
      | none => throw "unterminated `s' command"
      | some replacement =>
        let letters ← passWhile fun c => c.isDigit || "gpIie".toList.contains c
        let place := letters.filter Char.isDigit
        let place := if place = [] then 1 else Text.decimalValue place
        match TextPattern.read isExtended pattern with
        | .ok pattern =>
          return .substitute pattern (replacementOf replacement) place (letters.contains 'g') (letters.contains 'p')
            (letters.contains 'I' || letters.contains 'i')
        | .error reason => throw reason

def readText : EditReading String := do
  discard (passWhile fun c => c = ' ' || c = '\t')
  if (← get).head? = some '\\' then
    modify (·.drop 1)
    discard (passWhile fun c => c = ' ' || c = '\t')
    if (← get).head? = some '\n' then modify (·.drop 1)
  let rec body : Nat → EditReading (List Char)
    | 0 => return []
    | steps + 1 => do
      match ← get with
      | [] => return []
      | '\n' :: rest =>
        set rest
        return []
      | '\\' :: c :: rest =>
        set rest
        return c :: (← body steps)
      | c :: rest =>
        set rest
        return c :: (← body steps)
  let text ← body ((← get).length + 1)
  return String.ofList text ++ "\n"

def exchangedLetters : List Char → List Char
  | '\\' :: 'n' :: rest => '\n' :: exchangedLetters rest
  | '\\' :: '\\' :: rest => '\\' :: exchangedLetters rest
  | c :: rest => c :: exchangedLetters rest
  | [] => []

def readAction (isExtended : Bool) : EditReading EditAction := do
  match ← get with
  | [] => throw "missing command"
  | c :: rest =>
    set rest
    match c with
    | 's' => readSubstitution isExtended
    | 'y' => match rest with
      | [] => throw "unterminated `y' command"
      | mark :: rest =>
        set rest
        match ← readUpTo mark (rest.length + 1) false, ← readUpTo mark (rest.length + 1) false with
        | some first, some second =>
          let (first, second) := (exchangedLetters first, exchangedLetters second)
          if first.length ≠ second.length then throw "strings for `y' command are different lengths"
          return .translate (first.zip second)
        | _, _ => throw "unterminated `y' command"
    | 'p' => return .print
    | 'P' => return .printFirstLine
    | 'd' => return .delete
    | 'D' => return .deleteFirstLine
    | 'q' | 'Q' =>
      discard (passWhile (· = ' '))
      return .quit (c = 'q') (Text.decimalValue (← passWhile Char.isDigit))
    | '=' => return .number
    | 'a' => return .append (← readText)
    | 'i' => return .insert (← readText)
    | 'c' => return .change (← readText)
    | 'n' => return .next
    | 'N' => return .appendNext
    | 'h' => return .hold false
    | 'H' => return .hold true
    | 'g' => return .recall false
    | 'G' => return .recall true
    | 'x' => return .exchange
    | '{' => return .beginGroup
    | '}' => return .endGroup
    | '#' =>
      discard (passWhile (· ≠ '\n'))
      return .nothing
    | c => throw ("unknown command: `" ++ c.toString ++ "'")

def readAll (isExtended : Bool) : Nat → EditReading (List EditCommand)
  | 0 => return []
  | steps + 1 => do
    discard (passWhile fun c => c = ';' || isSpace c)
    if (← get) = [] then return []
    let first ← readAddress? isExtended
    let mut second := none
    if first.isSome ∧ (← get).head? = some ',' then
      modify (·.drop 1)
      if (← get).head? = some '+' then
        modify (·.drop 1)
        second := some (.after (Text.decimalValue (← passWhile Char.isDigit)))
      else
        second ← readAddress? isExtended
        if second.isNone then throw "unexpected `,'"
    discard (passWhile (· = ' '))
    let isNegated := (← get).head? = some '!'
    if isNegated then
      modify (·.drop 1)
      discard (passWhile (· = ' '))
    let action ← readAction isExtended
    let takesMore := match action with
      | .beginGroup | .append _ | .insert _ | .change _ => true
      | _ => false
    if !takesMore then
      discard (passWhile (· = ' '))
      let mayFollow := match (← get).head? with
        | none | some ';' | some '\n' | some '}' | some '#' => true
        | _ => false
      if !mayFollow then
        modify (·.drop 1)
        throw (match action with
          | .substitute .. => "unknown option to `s'"
          | _ => "extra characters after command")
    return ⟨first, second, isNegated, action⟩ :: (← readAll isExtended steps)

end EditCommand

structure EditState where
  rest : List String
  passed : Nat
  space : String
  held : String
  written : List String
  appended : List String
  ranges : List (Nat × Nat)

inductive EditOutcome where
  | goOn
  | endLine (prints : Bool)
  | quit (prints : Bool) (status : Nat)

namespace EditState

def isAt (state : EditState) : Address → Bool
  | .line number => number == state.passed
  | .every first step => if step = 0 then first == state.passed
      else decide (first ≤ state.passed) && (state.passed - first) % step == 0
  | .last => state.rest.isEmpty
  | .fits pattern foldsCase =>
    (pattern.find? foldsCase (state.space.length + 1) (.start state.space.toList)).isSome
  | .after _ => false

def isChosen (state : EditState) (place : Nat) (command : EditCommand) : Bool × EditState :=
  let (chosen, state) : Bool × EditState := match command.first, command.second with
    | none, _ => (true, state)
    | some first, none => (state.isAt first, state)
    | some first, some second =>
      let close (state : EditState) : EditState :=
        { state with ranges := state.ranges.filter fun (other, _) => other ≠ place }
      match state.ranges.lookup place with
      | some start =>
        let ends := match second with
          | .line number => decide (number ≤ state.passed)
          | .after count => decide (start + count ≤ state.passed)
          | address => state.isAt address
        match second with
        | .line number => if number < state.passed then (state.isAt first, close state)
          else (true, if ends then close state else state)
        | _ => (true, if ends then close state else state)
      | none =>
        let fromStart := match first, state.passed with
          | .line 0, 1 => true
          | _, _ => false
        if fromStart then
          if state.isAt second then (true, state) else (true, { state with ranges := (place, 1) :: state.ranges })
        else if state.isAt first then
          let isOne := match second with
            | .line number => decide (number ≤ state.passed)
            | .after 0 => true
            | _ => false
          if isOne then (true, state) else (true, { state with ranges := (place, state.passed) :: state.ranges })
        else (false, state)
  (chosen != command.isNegated, state)

def write (state : EditState) (text : String) : EditState := { state with written := text :: state.written }

def finishLine (state : EditState) (prints : Bool) : EditState :=
  let state := if prints then state.write (state.space ++ "\n") else state
  { state with written := state.appended.reverse ++ state.written, appended := [] }

def replaced (pattern : TextPattern) (replacement : List Replacement) (place : Nat) (everyFit foldsCase : Bool) :
    Nat → Nat → Bool → TextPattern.Spot → String × Bool
  | 0, _, _, spot => (String.ofList spot.rest, false)
  | steps + 1, count, mayBeEmpty, spot =>
    match pattern.find? foldsCase (spot.rest.length + 1) spot with
    | none => (String.ofList spot.rest, false)
    | some (start, stop) =>
      let before := String.ofList (spot.rest.take (spot.rest.length - start.rest.length))
      let fit := start.rest.take (start.rest.length - stop.rest.length)
      let oneFurther : String × TextPattern.Spot := match start.rest with
        | c :: _ => (c.toString, start.advance 1)
        | [] => ("", start)
      if fit = [] ∧ !mayBeEmpty ∧ before = "" then
        if start.rest = [] then ("", false)
        else
          let (rest, isChanged) := replaced pattern replacement place everyFit foldsCase steps count true oneFurther.2
          (oneFurther.1 ++ rest, isChanged)
      else
        let count := count + 1
        let isMeant := count = place || (everyFit && place < count)
        let text := if isMeant then String.join (replacement.map fun
            | .char c => c.toString
            | .group 0 => String.ofList fit
            | .group number => String.ofList ((stop.groups.lookup number).getD []))
          else String.ofList fit
        let (skipped, next) := if fit = [] then oneFurther else ("", { stop with groups := [] })
        if (isMeant && !everyFit) || (fit = [] && start.rest = []) then
          (before ++ text ++ skipped ++ String.ofList next.rest, isMeant)
        else
          let (rest, isChanged) :=
            replaced pattern replacement place everyFit foldsCase steps count (fit = []) { next with groups := [] }
          (before ++ text ++ skipped ++ rest, isMeant || isChanged)

def nextLine? (state : EditState) : Option (String × EditState) :=
  match state.rest with
  | line :: rest => some (line, { state with rest := rest, passed := state.passed + 1 })
  | [] => none

def act (isQuiet : Bool) (state : EditState) : EditAction → EditState × EditOutcome
  | .substitute pattern replacement place everyFit prints foldsCase =>
    let (text, isChanged) := replaced pattern replacement place everyFit foldsCase
      (state.space.length + 2) 0 true (.start state.space.toList)
    let state := if isChanged then { state with space := text } else state
    (if isChanged ∧ prints then state.write (text ++ "\n") else state, .goOn)
  | .translate table =>
    ({ state with space := String.ofList (state.space.toList.map fun c => (table.lookup c).getD c) }, .goOn)
  | .print => (state.write (state.space ++ "\n"), .goOn)
  | .printFirstLine => (state.write ((state.space.splitOn "\n").headD "" ++ "\n"), .goOn)
  | .delete | .deleteFirstLine => (state, .endLine false)
  | .quit prints status => (state, .quit prints status)
  | .number => (state.write (toString state.passed ++ "\n"), .goOn)
  | .append text => ({ state with appended := state.appended ++ [text] }, .goOn)
  | .insert text => (state.write text, .goOn)
  | .change text => (state.write text, .endLine false)
  | .next => match state.nextLine? with
    | some (line, next) =>
      let finished := (next.finishLine !isQuiet)
      ({ finished with space := line }, .goOn)
    | none => (state, .quit (!isQuiet) 0)
  | .appendNext => match state.nextLine? with
    | some (line, next) => ({ next with space := state.space ++ "\n" ++ line }, .goOn)
    | none => (state, .quit (!isQuiet) 0)
  | .hold appends =>
    ({ state with held := if appends then state.held ++ "\n" ++ state.space else state.space }, .goOn)
  | .recall appends =>
    ({ state with space := if appends then state.space ++ "\n" ++ state.held else state.held }, .goOn)
  | .exchange => ({ state with space := state.held, held := state.space }, .goOn)
  | .beginGroup | .endGroup | .nothing => (state, .goOn)

def runLine (isQuiet : Bool) (skipped : Nat) (place : Nat) (state : EditState) :
    List EditCommand → EditState × EditOutcome
  | [] => (state, .endLine (!isQuiet))
  | command :: rest =>
    if 0 < skipped then
      let skipped := match command.action with
        | .beginGroup => skipped + 1
        | .endGroup => skipped - 1
        | _ => skipped
      runLine isQuiet skipped (place + 1) state rest
    else
      let (chosen, state) := state.isChosen place command
      if chosen then
        match state.act isQuiet command.action with
        | (state, .goOn) => runLine isQuiet 0 (place + 1) state rest
        | result => result
      else
        let skipped := match command.action with
          | .beginGroup => 1
          | _ => 0
        runLine isQuiet skipped (place + 1) state rest

def runLines (isQuiet : Bool) (commands : List EditCommand) : Nat → EditState → EditState × Nat
  | 0, state => (state, 0)
  | steps + 1, state =>
    match state.nextLine? with
    | none => (state, 0)
    | some (line, state) =>
      match runLine isQuiet 0 0 { state with space := line } commands with
      | (state, .quit prints status) => (state.finishLine (prints && !isQuiet), status)
      | (state, .endLine prints) =>
        let keepsRest := !prints && commands.any fun command => match command.action with
          | .deleteFirstLine => true
          | _ => false
        let state := state.finishLine prints
        match keepsRest, state.space.splitOn "\n" with
        | true, _ :: second :: more =>
          let rest := String.intercalate "\n" (second :: more)
          runLines isQuiet commands steps { state with rest := rest :: state.rest, passed := state.passed - 1 }
        | _, _ => runLines isQuiet commands steps state
      | (state, .goOn) => (state, 0)

end EditState

def edited (isQuiet : Bool) (commands : List EditCommand) (text : String) : String × Nat :=
  let lines := (linesOf text).map withoutEnd
  let (state, status) := EditState.runLines isQuiet commands (2 * lines.length + 2) ⟨lines, 0, "", "", [], [], []⟩
  let result := String.join state.written.reverse
  let endsOpen := lines ≠ [] && text.toList.getLast? ≠ some '\n'
  (if endsOpen then withoutEnd result else result, status)

def runSed (arguments : List String) : Run Nat :=
  let isInPlace (argument : String) : Bool := argument = "-i" || "-i.".toList.isPrefixOf argument.toList
  withOptions "sed" ⟨"nErszu", "ef", [("quiet", 'n'), ("silent", 'n'), ("expression", 'e'),
      ("regexp-extended", 'E')]⟩ 1 (arguments.filter fun argument => !isInPlace argument) fun options => do
    let given := ((options.values.filter fun (letter, _) => letter = 'e').map Prod.snd)
    let (script, paths) := match given, options.operands with
      | [], script :: paths => (script, paths)
      | given, paths => (String.intercalate "\n" given, paths)
    if given = [] ∧ options.operands = [] then
      report r"Usage: sed [OPTION]... {script-only-if-no-other-script} [input-file]..."
      return 1
    let isExtended := options.has 'E' || options.has 'r'
    match (EditCommand.readAll isExtended (script.length + 1)).run.run script.toList with
    | (.error reason, rest) =>
      report ("sed: -e expression #1, char " ++ toString (script.length - rest.length) ++ ": " ++ reason)
      return 1
    | (.ok commands, _) =>
      let isQuiet := options.has 'n'
      let read (path : String) : Run (Option String) := do
        if path = "-" then return (← Run.readAll 0).toOption
        else match ← nodeOf path true with
          | .ok (_, .file bytes) => return some (ofBytes bytes)
          | .ok _ =>
            report ("sed: couldn't edit " ++ path ++ ": not a regular file")
            return none
          | .error fault =>
            report ("sed: can't read " ++ path ++ ": " ++ fault.reason)
            return none
      if arguments.any isInPlace then
        let mut status := 0
        for path in paths do
          match ← read path, ← placeOf path true with
          | some text, .ok names =>
            let (result, code) := edited isQuiet commands text
            placeNode names (.file (toBytes result))
            if code ≠ 0 then status := code
          | _, _ => status := 2
        return status
      else
        let mut whole := ""
        let mut status := 0
        for path in if paths = [] then ["-"] else paths do
          match ← read path with
          | some text => whole := (if whole = "" then "" else withEnd whole) ++ text
          | none => status := 2
        let (result, code) := edited isQuiet commands whole
        print result
        return if code ≠ 0 then code else status

end TableScript.Shell
