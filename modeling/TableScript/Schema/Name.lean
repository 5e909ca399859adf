import TableScript.Text.Alphanumeric

/-! The smallest parts of a schema line: marks, gaps, identifiers and written names. Each reader
takes the text that is left and gives back what follows the part it read. -/
namespace TableScript.Schema

def isIdentifierChar (c : Char) : Bool := Text.isAlphanumeric c || c == '_'

def isTableNameChar (c : Char) : Bool := isIdentifierChar c || c == '.'

def isGapChar (c : Char) : Bool := c == ' ' || c == '\t'

def after? : List Char → List Char → Option (List Char)
  | [], text => some text
  | _ :: _, [] => none
  | m :: mark, c :: text => if m = c then after? mark text else none

def dropGap (text : List Char) : List Char := text.dropWhile isGapChar

def separator? : List Char → Option (List Char)
  | [] => none
  | c :: rest => if c = '(' ∨ isGapChar c = true then some (dropGap rest) else none

def run? (accept : Char → Bool) (text : List Char) : Option (List Char × List Char) :=
  if text.takeWhile accept = [] then none
  else some (text.takeWhile accept, text.dropWhile accept)

def identifier? (text : List Char) : Option (List Char × List Char) := run? isIdentifierChar text

inductive Quote where
  | double
  | single
  | symbol
  deriving DecidableEq, Repr

def Quote.write : Quote → List Char → List Char
  | .double, name => '"' :: name ++ ['"']
  | .single, name => '\'' :: name ++ ['\'']
  | .symbol, name => ':' :: name

def quoted? (accept : Char → Bool) (quote : Char) (text : List Char) :
    Option (List Char × List Char) :=
  match run? accept text with
  | some (name, c :: rest) => if c = quote then some (name, rest) else none
  | _ => none

/-- Reads a written name. Between quotes only accepted characters may stand; a symbol is always
an identifier. -/
def name? (accept : Char → Bool) : List Char → Option (List Char × List Char)
  | [] => none
  | c :: rest =>
    if c = '"' ∨ c = '\'' then quoted? accept c rest
    else if c = ':' then identifier? rest
    else none

theorem after?_eq_some_iff {mark text rest : List Char} :
    after? mark text = some rest ↔ text = mark ++ rest := by
  induction mark generalizing text with
  | nil => simp [after?, eq_comm]
  | cons m mark ih =>
    cases text with
    | nil => simp [after?]
    | cons c text =>
      by_cases same : m = c
      · simp [after?, same, ih]
      · simp [after?, same, Ne.symm same]

end TableScript.Schema
