/-! Commands of the shell and the words that they are made of. -/
namespace TableScript.Shell

/-- How a redirection opens a file. Only `replace` empties a file that is there whatever the flags of
the shell say. -/
inductive OpenMode where
  | read
  | write
  | replace
  | append
  | readWrite
  deriving DecidableEq

inductive Fallback where
  | use
  | assign
  | fail
  | alternate
  deriving DecidableEq

mutual

inductive Piece where
  | char (c : Char)
  | quoted (pieces : List Piece)
  | parameter (name : String) (use : ParameterUse)
  | output (command : Command)
  | arithmetic (expression : List Piece)

inductive ParameterUse where
  | value
  | length
  | fallback (emptyIsNone : Bool) (action : Fallback) (word : List Piece)
  | trim (atEnd longest : Bool) (pattern : List Piece)
  | unknown

inductive Redirection where
  | file (stream : Nat) (mode : OpenMode) (target : List Piece)
  | same (stream : Nat) (source : List Piece)
  | text (stream : Nat) (content : List Piece)

inductive Command where
  | nothing
  | simple (line : Nat) (assignments : List (String × List Piece)) (words : List (List Piece))
      (redirections : List Redirection)
  | sequence (first second : Command)
  | both (first second : Command)
  | either (first second : Command)
  | negation (command : Command)
  | pipeline (commands : List Command)
  | background (command : Command)
  | condition (test yes no : Command)
  | loop (untilSuccess : Bool) (test body : Command)
  | each (line : Nat) (name : String) (words : Option (List (List Piece))) (body : Command)
  | choice (line : Nat) (word : List Piece) (cases : List (List (List Piece) × Command))
  | subshell (line : Nat) (command : Command)
  | redirected (line : Nat) (command : Command) (redirections : List Redirection)
  | definition (name : String) (body : Command)

end

abbrev Word := List Piece

def startsName (c : Char) : Bool := c.isAlpha || c == '_'

def continuesName (c : Char) : Bool := c.isAlphanum || c == '_'

def isName (text : String) : Bool :=
  match text.toList with
  | c :: rest => startsName c && rest.all continuesName
  | [] => false

def reservedWords : List String :=
  ["!", r"{", r"}", "case", "do", "done", "elif", "else", "esac", "fi", "for", "if", "in", "then",
   "until", "while"]

def plainText? (word : Word) : Option String :=
  let plain? : Piece → Option Char
    | .char c => some c
    | _ => none
  (word.mapM plain?).map String.ofList

end TableScript.Shell
