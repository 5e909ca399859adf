import TableScript.Shell.Source

/-! Reading commands. A script is read command line by command line, and each is run before the next
is read; so what cannot be read does not keep the lines before it from being run. -/
namespace TableScript.Shell

open Reading

def nextName : Reading String := do
  skipBlanks ((← rest).length + 1)
  let text ← rest
  match operatorAt? text, reservedAt? text with
  | some "\n", _ => return "newline"
  | some operator, _ =>
    return if operator.startsWith "<" ∨ operator.startsWith ">" then "redirection"
      else "\"" ++ operator ++ "\""
  | none, some word => return "\"" ++ word ++ "\""
  | none, none => return if text = [] then "end of file" else "word"

def unexpected {α : Type} (expected : Option String) : Reading α := do
  fail (.unexpected (← nextName) expected)

def passOperator (operator : String) : Reading Bool := do
  skipBlanks ((← rest).length + 1)
  if operatorAt? (← rest) = some operator then
    skip operator.length
    return true
  else return false

def passReserved (word : String) : Reading Bool := do
  skipBlanks ((← rest).length + 1)
  if reservedAt? (← rest) = some word then
    skip word.length
    return true
  else return false

def requireReserved (word : String) : Reading Unit := do
  skipLines ((← rest).length + 1)
  if !(← passReserved word) then unexpected (some ("\"" ++ word ++ "\""))

def requireClosing : Reading Unit := do
  if !(← passOperator ")") then
    if (reservedAt? (← rest)).isSome then fail (.unexpected "word" (some "\")\""))
    else unexpected (some "\")\"")

def singleQuoted : Reading Piece := do
  let text ← takeWhile (· ≠ '\'') ((← rest).length + 1)
  if (← rest) = [] then fail .openQuote
  advance
  return .quoted (text.map .char)

def backquoted? (inQuotes : Bool) : List Char → Option (List Char × List Char)
  | [] => none
  | '\x60' :: rest => some ([], rest)
  | '\\' :: c :: rest =>
    (backquoted? inQuotes rest).map fun (command, rest) =>
      (if c ∈ ['$', '\\', '\x60'] ∨ (inQuotes ∧ c = '"') then c :: command else '\\' :: c :: command, rest)
  | c :: rest => (backquoted? inQuotes rest).map fun (command, rest) => (c :: command, rest)

def listEnds (text : List Char) : Bool :=
  text.isEmpty || [some ";;", some ")"].contains (operatorAt? text) ||
    ([r"}", "do", "done", "elif", "else", "esac", "fi", "then"].map some).contains (reservedAt? text)

def assignment? (word : Word) : Option (String × Word) :=
  let isPlain : Piece → Bool
    | .char c => continuesName c
    | _ => false
  match plainText? (word.takeWhile isPlain), word.dropWhile isPlain with
  | some name, .char '=' :: value => if isName name then some (name, value) else none
  | _, _ => none

def Piece.flat : Piece → List Char × Bool
  | .char c => ([c], false)
  | .quoted pieces => (pieces.filterMap fun
      | .char c => some c
      | _ => none, true)
  | _ => ([], false)

def flatText (word : Word) : List Char × Bool :=
  (word.flatMap fun piece => piece.flat.1, word.any fun piece => piece.flat.2)

def isSpecialName (c : Char) : Bool := "?$#!@*-".toList.contains c

/-- Puts the texts that words stand for in their place at the beginning of a command, each at most
once. After a text that ends with a blank the next word has its turn. -/
def replaceAliases : Reading Unit := modify fun source =>
  let isBlank (c : Char) : Bool := c = ' ' || c = '\t'
  let rec replaced (aliases : List (String × String)) (text : List Char) : Nat → List Char
    | 0 => text
    | steps + 1 =>
      let word := text.takeWhile fun c => !endsWord c
      match aliases.lookup (String.ofList word) with
      | some meaning =>
        let after := text.drop word.length
        let blanks := after.takeWhile isBlank
        let after := if (meaning.toList.getLast?.map isBlank).getD false
          then blanks ++ replaced source.aliases (after.drop blanks.length) steps else after
        replaced (aliases.filter fun (name, _) => name.toList ≠ word) (meaning.toList ++ after) steps
      | none => text
  { source with rest := replaced source.aliases source.rest source.aliases.length }

/-- Whether a simple command stands next, which may begin with a redirection. -/
def beginsSimple (text : List Char) : Bool :=
  match operatorAt? text, reservedAt? text with
  | some operator, _ => operator.startsWith "<" || operator.startsWith ">"
  | none, some _ => false
  | none, none => text ≠ []

/-- The number of a stream that stands right before a redirection. -/
def streamNumber? : List Char → Option Nat
  | c :: next :: _ => if c.isDigit ∧ (next = '<' ∨ next = '>') then some (c.toNat - '0'.toNat) else none
  | _ => none

/-- Passes the parenthesis after the name of a function. -/
def passOpening (isAllowed : Bool) : Reading Bool := if isAllowed then passOperator "(" else pure false

mutual

def readWord : Nat → Reading Word
  | 0 => fail .tooDeep
  | steps + 1 => do
    match ← rest with
    | [] => return []
    | '\\' :: '\n' :: _ =>
      skip 2
      readWord steps
    | '\\' :: c :: _ =>
      skip 2
      return .quoted [.char c] :: (← readWord steps)
    | c :: _ =>
      if endsWord c then return []
      else
        advance
        let piece ← readPiece steps c
        return piece :: (← readWord steps)

def readPiece : Nat → Char → Reading Piece
  | 0, _ => fail .tooDeep
  | steps + 1, c =>
    if c = '\'' then singleQuoted
    else if c = '"' then return .quoted (← readQuoted steps)
    else if c = '$' then readDollar steps false
    else if c = '\x60' then readBackquoted steps false
    else return .char c

def readQuoted : Nat → Reading (List Piece)
  | 0 => fail .tooDeep
  | steps + 1 => do
    match ← rest with
    | [] => fail .openQuote
    | '\\' :: '\n' :: _ =>
      skip 2
      readQuoted steps
    | '\\' :: c :: _ =>
      skip 2
      let rest ← readQuoted steps
      return if c ∈ ['$', '"', '\\', '\x60'] then .char c :: rest else .char '\\' :: .char c :: rest
    | c :: _ =>
      advance
      if c = '"' then return []
      else
        let piece ← if c = '$' then readDollar steps true
          else if c = '\x60' then readBackquoted steps true
          else pure (.char c)
        return piece :: (← readQuoted steps)

def readDocument : Nat → Reading (List Piece)
  | 0 => fail .tooDeep
  | steps + 1 => do
    match ← rest with
    | [] => return []
    | '\\' :: '\n' :: _ =>
      skip 2
      readDocument steps
    | '\\' :: c :: _ =>
      skip 2
      let rest ← readDocument steps
      return if c ∈ ['$', '\\', '\x60'] then .char c :: rest else .char '\\' :: .char c :: rest
    | c :: _ =>
      advance
      let piece ← if c = '$' then readDollar steps true
        else if c = '\x60' then readBackquoted steps true
        else pure (.char c)
      return piece :: (← readDocument steps)

def readDollar : Nat → Bool → Reading Piece
  | 0, _ => fail .tooDeep
  | steps + 1, inQuotes => do
    match ← rest with
    | '(' :: '(' :: _ =>
      skip 2
      return .arithmetic (← readArithmetic steps 0)
    | '(' :: _ =>
      advance
      let command ← readList steps true
      if !(← passOperator ")") then unexpected (some "\")\"")
      return .output command
    | '{' :: _ =>
      advance
      readBraces steps inQuotes
    | c :: text =>
      if startsName c then
        return .parameter (String.ofList (← takeWhile continuesName (text.length + 2))) .value
      else if c.isDigit || isSpecialName c then
        advance
        return .parameter (String.singleton c) .value
      else return .char '$'
    | [] => return .char '$'

def readBackquoted : Nat → Bool → Reading Piece
  | 0, _ => fail .tooDeep
  | steps + 1, inQuotes => do
    let source ← get
    match backquoted? inQuotes source.rest with
    | none => fail .openSubstitution
    | some (command, after) =>
      set ({ source with rest := command, afterLine := none } : Source)
      let command ← readList steps true
      if (← rest) ≠ [] then unexpected none
      set { source with rest := after }
      return .output command

def readArithmetic : Nat → Nat → Reading (List Piece)
  | 0, _ => fail .tooDeep
  | steps + 1, depth => do
    match ← rest with
    | [] => fail .openArithmetic
    | ')' :: ')' :: _ =>
      if depth = 0 then
        skip 2
        return []
      else
        advance
        return .char ')' :: (← readArithmetic steps (depth - 1))
    | '\\' :: '\n' :: _ =>
      skip 2
      readArithmetic steps depth
    | c :: _ =>
      advance
      let piece ← if c = '$' then readDollar steps true
        else if c = '\x60' then readBackquoted steps true
        else pure (.char c)
      let depth := if c = '(' then depth + 1 else if c = ')' then depth - 1 else depth
      return piece :: (← readArithmetic steps depth)

def readBraces : Nat → Bool → Reading Piece
  | 0, _ => fail .tooDeep
  | steps + 1, inQuotes => do
    match ← rest with
    | '#' :: '}' :: _ =>
      skip 2
      return .parameter "#" .value
    | '#' :: c :: after =>
      if startsName c || c.isDigit || (isSpecialName c && after.head? = some '}') then
        advance
        let name ← readName
        match ← rest with
        | '}' :: _ =>
          advance
          return .parameter name .length
        | _ =>
          discard (readBraceWord steps inQuotes)
          return .parameter name .unknown
      else
        advance
        return .parameter "#" (← readUse steps inQuotes)
    | c :: _ =>
      if startsName c || c.isDigit || isSpecialName c then
        let name ← readName
        return .parameter name (← readUse steps inQuotes)
      else
        discard (readBraceWord steps inQuotes)
        return .parameter "" .unknown
    | [] => fail .openBrace
where
  readName : Reading String := do
    match ← rest with
    | c :: text =>
      if startsName c then return String.ofList (← takeWhile continuesName (text.length + 2))
      else if c.isDigit then return String.ofList (← takeWhile Char.isDigit (text.length + 2))
      else
        advance
        return String.singleton c
    | [] => return ""

def readUse : Nat → Bool → Reading ParameterUse
  | 0, _ => fail .tooDeep
  | steps + 1, inQuotes => do
    let emptyIsNone := (← rest).head? = some ':'
    if emptyIsNone then advance
    match ← rest with
    | [] => fail (if inQuotes then .openQuote else .openBrace)
    | c :: text =>
      advance
      match c with
      | '}' => return if emptyIsNone then .unknown else .value
      | '-' => return .fallback emptyIsNone .use (← readBraceWord steps inQuotes)
      | '=' => return .fallback emptyIsNone .assign (← readBraceWord steps inQuotes)
      | '?' => return .fallback emptyIsNone .fail (← readBraceWord steps inQuotes)
      | '+' => return .fallback emptyIsNone .alternate (← readBraceWord steps inQuotes)
      | _ =>
        if (c = '%' ∨ c = '#') ∧ !emptyIsNone then
          let longest := text.head? = some c
          if longest then advance
          return .trim (c = '%') longest (← readBraceWord steps false)
        else
          discard (readBraceWord steps inQuotes)
          return .unknown

def readBraceWord : Nat → Bool → Reading Word
  | 0, _ => fail .tooDeep
  | steps + 1, inQuotes => do
    match ← rest with
    | [] => fail (if inQuotes then .openQuote else .openBrace)
    | '\\' :: '\n' :: _ =>
      skip 2
      readBraceWord steps inQuotes
    | '\\' :: c :: _ =>
      skip 2
      let rest ← readBraceWord steps inQuotes
      return if inQuotes ∧ c ∉ ['$', '"', '\\', '\x60', '}'] then .char '\\' :: .char c :: rest
        else .quoted [.char c] :: rest
    | c :: _ =>
      advance
      if c = '}' then return []
      else
        let piece ← if c = '\'' ∧ inQuotes then pure (.char c)
          else if c = '"' then Piece.quoted <$> readQuoted steps
          else if c = '$' then readDollar steps inQuotes
          else readPiece steps c
        return piece :: (← readBraceWord steps inQuotes)

def readRedirection? : Nat → Reading (Option Redirection)
  | 0 => fail .tooDeep
  | steps + 1 => do
    skipBlanks ((← rest).length + 1)
    let stream := streamNumber? (← rest)
    match operatorAt? ((← rest).drop (if stream.isSome then 1 else 0)) with
    | some operator =>
      if operator.startsWith "<" || operator.startsWith ">" then
        skip (operator.length + if stream.isSome then 1 else 0)
        skipBlanks ((← rest).length + 1)
        if (← rest).head?.all endsWord then unexpected none
        let target ← readWord steps
        match operator with
        | "<" => return some (.file (stream.getD 0) .read target)
        | ">" => return some (.file (stream.getD 1) .write target)
        | ">|" => return some (.file (stream.getD 1) .replace target)
        | ">>" => return some (.file (stream.getD 1) .append target)
        | "<>" => return some (.file (stream.getD 0) .readWrite target)
        | ">&" => return some (.same (stream.getD 1) target)
        | "<&" => return some (.same (stream.getD 0) target)
        | _ =>
          let (mark, isQuoted) := flatText target
          let (body, line) ← document mark (operator = "<<-")
          if isQuoted then return some (.text (stream.getD 0) (body.map .char))
          else
            let source ← get
            set { source with rest := body, line := line, afterLine := none }
            let content ← readDocument steps
            set source
            return some (.text (stream.getD 0) content)
      else return none
    | none => return none

def readRedirections : Nat → Reading (List Redirection)
  | 0 => fail .tooDeep
  | steps + 1 => do
    match ← readRedirection? steps with
    | some redirection => return redirection :: (← readRedirections steps)
    | none => return []

/-- Reads a list of commands up to what cannot belong to it. At the end of the text there is none, and
what has to follow it is missed. -/
def readList : Nat → Bool → Reading Command
  | 0, _ => fail .tooDeep
  | steps + 1, mayBeEmpty => do
    skipLines ((← rest).length + 1)
    let text ← rest
    if text = [] ∨ (mayBeEmpty ∧ listEnds text) then return .nothing
    let first ← readAndOr steps
    let isBackground ← passOperator "&"
    let first := if isBackground then Command.background first else first
    skipBlanks ((← rest).length + 1)
    let goesOn ← if isBackground ∨ (← rest).head? = some '\n' then pure true else passOperator ";"
    if !goesOn then return first
    match ← readList steps true with
    | .nothing => return first
    | second => return .sequence first second

def readAndOr : Nat → Reading Command
  | 0 => fail .tooDeep
  | steps + 1 => do
    let first ← readPipeline steps
    readMoreAndOr steps first

def readMoreAndOr : Nat → Command → Reading Command
  | 0, _ => fail .tooDeep
  | steps + 1, first => do
    if ← passOperator "&&" then
      skipLines ((← rest).length + 1)
      readMoreAndOr steps (.both first (← readPipeline steps))
    else if ← passOperator "||" then
      skipLines ((← rest).length + 1)
      readMoreAndOr steps (.either first (← readPipeline steps))
    else return first

def readPipeline : Nat → Reading Command
  | 0 => fail .tooDeep
  | steps + 1 => do
    let negated ← passReserved "!"
    let first ← readCommand steps
    let more ← readPiped steps
    let command := if more.isEmpty then first else Command.pipeline (first :: more)
    return if negated then .negation command else command

def readPiped : Nat → Reading (List Command)
  | 0 => fail .tooDeep
  | steps + 1 => do
    if ← passOperator "|" then
      skipLines ((← rest).length + 1)
      let command ← readCommand steps
      return command :: (← readPiped steps)
    else return []

def readCommand : Nat → Reading Command
  | 0 => fail .tooDeep
  | steps + 1 => do
    skipBlanks ((← rest).length + 1)
    replaceAliases
    let line := (← get).line
    let text ← rest
    if beginsSimple text then readSimple steps line [] [] []
    else
      let compound ← match operatorAt? text, reservedAt? text with
        | some "(", _ => do
          advance
          let inner ← readList steps false
          if !(← passOperator ")") then unexpected (some "\")\"")
          pure (Command.subshell line inner)
        | none, some r"{" => do
          advance
          let inner ← readList steps false
          requireReserved r"}"
          pure inner
        | none, some "if" => do
          skip 2
          readCondition steps
        | none, some "while" => do
          skip 5
          readLoop steps false
        | none, some "until" => do
          skip 5
          readLoop steps true
        | none, some "for" => do
          skip 3
          readEach steps line
        | none, some "case" => do
          skip 4
          readChoice steps line
        | _, _ => unexpected none
      let redirections ← readRedirections steps
      return if redirections.isEmpty then compound else .redirected line compound redirections

def readSimple : Nat → Nat → List (String × Word) → List Word → List Redirection → Reading Command
  | 0, _, _, _, _ => fail .tooDeep
  | steps + 1, line, assignments, words, redirections => do
    match ← readRedirection? steps with
    | some redirection => readSimple steps line assignments words (redirections ++ [redirection])
    | none =>
      let mayBeName := words.length = 1 && assignments.isEmpty && redirections.isEmpty
      if ← passOpening mayBeName then
        requireClosing
        match (words.head?.bind plainText?).filter isName with
        | none => fail .functionName
        | some name =>
          skipLines ((← rest).length + 1)
          return .definition name (← readCommand steps)
      else if (← rest).head?.all endsWord then
        return .simple line assignments words redirections
      else
        let word ← readWord steps
        match words, assignment? word with
        | [], some assignment => readSimple steps line (assignments ++ [assignment]) [] redirections
        | _, _ =>
          readSimple steps line assignments (if word.isEmpty then words else words ++ [word]) redirections

def readCondition : Nat → Reading Command
  | 0 => fail .tooDeep
  | steps + 1 => do
    let test ← readList steps false
    requireReserved "then"
    let yes ← readList steps false
    if ← passReserved "elif" then return .condition test yes (← readCondition steps)
    else if ← passReserved "else" then
      let no ← readList steps false
      requireReserved "fi"
      return .condition test yes no
    else
      requireReserved "fi"
      return .condition test yes .nothing

def readLoop : Nat → Bool → Reading Command
  | 0, _ => fail .tooDeep
  | steps + 1, untilSuccess => do
    let test ← readList steps false
    requireReserved "do"
    let body ← readList steps false
    requireReserved "done"
    return .loop untilSuccess test body

def readEach : Nat → Nat → Reading Command
  | 0, _ => fail .tooDeep
  | steps + 1, line => do
    skipBlanks ((← rest).length + 1)
    match (plainText? (← readWord steps)).filter isName with
    | none => fail .loopVariable
    | some name =>
      skipLines ((← rest).length + 1)
      let words ← if ← passReserved "in" then do
          let words ← readWords steps
          if !(← passOperator ";") then
            if (← rest).head? = some '\n' then advance else unexpected none
          pure (some words)
        else do
          discard (passOperator ";")
          pure none
      requireReserved "do"
      let body ← readList steps false
      requireReserved "done"
      return .each line name words body

def readWords : Nat → Reading (List Word)
  | 0 => fail .tooDeep
  | steps + 1 => do
    skipBlanks ((← rest).length + 1)
    if (← rest).head?.all endsWord then return []
    else
      let word ← readWord steps
      return word :: (← readWords steps)

def readChoice : Nat → Nat → Reading Command
  | 0, _ => fail .tooDeep
  | steps + 1, line => do
    skipBlanks ((← rest).length + 1)
    if (← rest).head?.all endsWord then unexpected (some "word")
    let word ← readWord steps
    requireReserved "in"
    return .choice line word (← readCases steps)

def readCases : Nat → Reading (List (List Word × Command))
  | 0 => fail .tooDeep
  | steps + 1 => do
    skipLines ((← rest).length + 1)
    if ← passReserved "esac" then return []
    discard (passOperator "(")
    let patterns ← readPatterns steps
    requireClosing
    let body ← readList steps true
    skipLines ((← rest).length + 1)
    if ← passOperator ";;" then return (patterns, body) :: (← readCases steps)
    else if ← passReserved "esac" then return [(patterns, body)]
    else unexpected (some "\";;\"")

def readPatterns : Nat → Reading (List Word)
  | 0 => fail .tooDeep
  | steps + 1 => do
    skipBlanks ((← rest).length + 1)
    let word ← match operatorAt? (← rest) with
      | some operator => do
        skip operator.length
        pure []
      | none => readWord steps
    if ← passOperator "|" then return word :: (← readPatterns steps)
    else return [word]

end

def readRestOfLine (work : Nat) : Nat → Command → Reading Command
  | 0, _ => fail .tooDeep
  | steps + 1, first => do
    let isBackground ← passOperator "&"
    let first := if isBackground then Command.background first else first
    let goesOn ← if isBackground then pure true else passOperator ";"
    skipBlanks ((← rest).length + 1)
    match ← rest with
    | [] => return first
    | '\n' :: _ =>
      advance
      return first
    | _ =>
      if goesOn then return .sequence first (← readRestOfLine work steps (← readAndOr work))
      else unexpected none

def readLine? : Reading (Option Command) := do
  let length := (← rest).length
  skipBlanks (length + 1)
  match ← rest with
  | [] => return none
  | '\n' :: _ =>
    advance
    return some .nothing
  | _ =>
    let work := 8 * length + 64
    return some (← readRestOfLine work work (← readAndOr work))

end TableScript.Shell
