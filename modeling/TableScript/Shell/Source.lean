import TableScript.Shell.Syntax

/-! The text of a script on its way to the reader, with the number of the line. The text of a here
document begins on the line after the one that asks for it: it is taken at once, and the end of that
line then leads to what follows the document. -/
namespace TableScript.Shell

inductive SyntaxFault where
  | unexpected (found : String) (expected : Option String)
  | openQuote
  | openSubstitution
  | openBrace
  | openArithmetic
  | loopVariable
  | functionName
  | tooDeep

def SyntaxFault.message : SyntaxFault → String
  | .unexpected found none => found ++ " unexpected"
  | .unexpected found (some expected) => found ++ " unexpected (expecting " ++ expected ++ ")"
  | .openQuote => "Unterminated quoted string"
  | .openSubstitution => "EOF in backquote substitution"
  | .openBrace => r"Missing '}'"
  | .openArithmetic => "Missing '))'"
  | .loopVariable => "Bad for loop variable"
  | .functionName => "Bad function name"
  | .tooDeep => "too deep"

structure Source where
  rest : List Char
  line : Nat
  afterLine : Option (List Char × Nat)
  aliases : List (String × String)

def Source.ofScript (script : String) (line : Nat) : Source := ⟨script.toList, line, none, []⟩

abbrev Reading := StateT Source (Except (Nat × SyntaxFault))

namespace Reading

def fail {α : Type} (fault : SyntaxFault) : Reading α := fun source => .error (source.line, fault)

def rest : Reading (List Char) := return (← get).rest

def advance : Reading Unit := modify fun source =>
  match source.rest, source.afterLine with
  | '\n' :: _, some (rest, line) => { source with rest := rest, line := line, afterLine := none }
  | '\n' :: rest, none => { source with rest := rest, line := source.line + 1 }
  | _ :: rest, _ => { source with rest := rest }
  | [], _ => source

def skip : Nat → Reading Unit
  | 0 => return
  | count + 1 => do
    advance
    skip count

def takeWhile (accept : Char → Bool) : Nat → Reading (List Char)
  | 0 => return []
  | steps + 1 => do
    match ← rest with
    | c :: _ =>
      if accept c then
        advance
        return c :: (← takeWhile accept steps)
      else return []
    | [] => return []

def skipBlanks : Nat → Reading Unit
  | 0 => return
  | steps + 1 => do
    match ← rest with
    | ' ' :: _ | '\t' :: _ =>
      advance
      skipBlanks steps
    | '\\' :: '\n' :: _ =>
      skip 2
      skipBlanks steps
    | '#' :: text => discard (takeWhile (· ≠ '\n') (text.length + 1))
    | _ => return

def skipLines : Nat → Reading Unit
  | 0 => return
  | steps + 1 => do
    skipBlanks (steps + 1)
    match ← rest with
    | '\n' :: _ =>
      advance
      skipLines steps
    | _ => return

end Reading

/-- The lines of a text before one that is the mark, what follows that line, and how many lines there
are in all. Tabs at the beginnings of lines may be passed over. -/
def linesBefore (mark : List Char) (dropTabs : Bool) : Nat → List Char → List Char × List Char × Nat
  | 0, text => ([], text, 0)
  | _, [] => ([], [], 0)
  | steps + 1, text =>
    let line := text.takeWhile (· ≠ '\n')
    let line := if dropTabs then line.dropWhile (· = '\t') else line
    let rest := text.dropWhile (· ≠ '\n')
    if line = mark then ([], rest.drop 1, 1)
    else
      let (body, after, count) := linesBefore mark dropTabs steps (rest.drop 1)
      (line ++ rest.take 1 ++ body, after, count + 1)

def Reading.document (mark : List Char) (dropTabs : Bool) : Reading (List Char × Nat) := do
  let source ← get
  let (text, line) := source.afterLine.getD
    ((source.rest.dropWhile (· ≠ '\n')).drop 1, source.line + 1)
  let (body, after, count) := linesBefore mark dropTabs (text.length + 1) text
  set { source with afterLine := some (after, line + count) }
  return (body, line)

def endsWord (c : Char) : Bool := " \t\n;&|<>()".toList.contains c

def operators : List String :=
  ["<<-", "<<", "<&", "<>", "<", ">>", ">&", ">|", ">", "&&", "&", "||", "|", ";;", ";", "(", ")", "\n"]

def operatorAt? (text : List Char) : Option String :=
  operators.find? fun operator => operator.toList.isPrefixOf text

def reservedAt? (text : List Char) : Option String :=
  let word := text.takeWhile fun c => !endsWord c
  reservedWords.find? fun reserved => reserved.toList = word

end TableScript.Shell
