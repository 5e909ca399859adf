import TableScript.Schema.ColumnLine
import TableScript.Text.Blank

/-! Table declarations: `create_table NAME` and what may follow it. The rest of the line decides
whether the table has no block, a block on the same line or a block on the lines that follow. -/
namespace TableScript.Schema

def declaration? (line : List Char) : Option (List Char × List Char) := do
  let rest ← after? "create_table".toList line
  let rest ← separator? rest
  name? isTableNameChar rest

inductive Closer where
  | word
  | brace
  deriving DecidableEq, Repr

/-- Whether a trimmed line ends the block: `end` alone or before a gap or a comment, or a line that
begins with a brace. -/
def Closer.closes : Closer → List Char → Bool
  | .word, line => match after? "end".toList line with
    | some [] => true
    | some (c :: _) => isGapChar c || c == '#'
    | none => false
  | .brace, line => match line with
    | c :: _ => c == '}'
    | [] => false

inductive Shape where
  | bare
  | opened (closer : Closer)
  | inline (body : List Char)
  deriving DecidableEq, Repr

def beforeLast? (c : Char) (text : List Char) : Option (List Char) :=
  match text.reverse.dropWhile (· != c) with
  | [] => none
  | _ :: before => some before.reverse

def afterFirst? (c : Char) (text : List Char) : Option (List Char) :=
  match text.dropWhile (· != c) with
  | [] => none
  | _ :: rest => some rest

def beginsApart : List Char → Bool
  | [] => true
  | c :: _ => !isIdentifierChar c

/-- What follows the first occurrence of a mark as a word of its own; `apart` says whether the
text begins where a word may begin. -/
def afterWord? (mark : List Char) : Bool → List Char → Option (List Char)
  | _, [] => none
  | apart, c :: text =>
    match after? mark (c :: text) with
    | some rest =>
      if apart && beginsApart rest then some rest else afterWord? mark (!isIdentifierChar c) text
    | none => afterWord? mark (!isIdentifierChar c) text

def beforeFinalEnd? (text : List Char) : Option (List Char) :=
  match after? "dne".toList text.reverse with
  | some before => if beginsApart before then some before.reverse else none
  | none => none

def dropParameter (body : List Char) : List Char :=
  match Text.trim body with
  | '|' :: rest => match afterFirst? '|' rest with
    | some body => Text.trim body
    | none => '|' :: rest
  | body => body

/-- The shape that the rest of a declaration line has. A brace anywhere begins a block; without
one, the word `do` does. -/
def Shape.ofRest (rest : List Char) : Shape :=
  match afterFirst? '{' rest with
  | some body => match beforeLast? '}' body with
    | some body => .inline (dropParameter body)
    | none => .opened .brace
  | none => match afterWord? "do".toList true rest with
    | none => .bare
    | some body => match beforeFinalEnd? (Text.trimEnd body) with
      | some body => .inline (dropParameter body)
      | none => .opened .word

def inlineColumns (body : List Char) : List Column :=
  (body.splitOn ';').filterMap fun piece => column? (Text.trim piece)

end TableScript.Schema
