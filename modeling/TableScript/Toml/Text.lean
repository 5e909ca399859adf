/-! The texts of a TOML document: basic and literal strings, on one line or on many. A reader takes
what follows the opening quotes and gives back the string and what follows the closing ones. -/
namespace TableScript.Toml

def isPrintable (c : Char) : Bool := c == '\t' || (' ' ≤ c && c != '\x7f')

def isGapChar (c : Char) : Bool := c == ' ' || c == '\t'

def dropGap (text : List Char) : List Char := text.dropWhile isGapChar

def lineBreak? : List Char → Option (List Char)
  | '\n' :: rest => some rest
  | '\r' :: '\n' :: rest => some rest
  | _ => none

def hexDigit? (c : Char) : Option Nat :=
  if '0' ≤ c ∧ c ≤ '9' then some (c.toNat - '0'.toNat)
  else if 'a' ≤ c ∧ c ≤ 'f' then some (c.toNat - 'a'.toNat + 10)
  else if 'A' ≤ c ∧ c ≤ 'F' then some (c.toNat - 'A'.toNat + 10)
  else none

def scalar? (digits : List Char) : Option Char := do
  let values ← digits.mapM hexDigit?
  let code := values.foldl (fun code value => code * 16 + value) 0
  if code.isValidChar then some (Char.ofNat code) else none

def escaped? : Char → Option Char
  | 'b' => some '\x08'
  | 't' => some '\t'
  | 'n' => some '\n'
  | 'f' => some '\x0c'
  | 'r' => some '\r'
  | '"' => some '"'
  | '\\' => some '\\'
  | _ => none

def prepend (c : Char) (read : Option (List Char × List Char)) : Option (List Char × List Char) :=
  read.map fun (value, rest) => (c :: value, rest)

def basic? : List Char → Option (List Char × List Char)
  | [] => none
  | c :: rest =>
    if c = '"' then some ([], rest)
    else if c = '\\' then match rest with
      | 'u' :: d :: e :: f :: g :: rest => match scalar? [d, e, f, g] with
        | some value => prepend value (basic? rest)
        | none => none
      | 'U' :: d :: e :: f :: g :: h :: i :: j :: k :: rest =>
        match scalar? [d, e, f, g, h, i, j, k] with
        | some value => prepend value (basic? rest)
        | none => none
      | letter :: rest => match escaped? letter with
        | some value => prepend value (basic? rest)
        | none => none
      | [] => none
    else if isPrintable c then prepend c (basic? rest)
    else none

def literal? : List Char → Option (List Char × List Char)
  | [] => none
  | c :: rest =>
    if c = '\'' then some ([], rest)
    else if isPrintable c then prepend c (literal? rest)
    else none

/-- What follows three quotes, where up to two more quotes before the last three belong to the
string: those quotes and the rest of the text. -/
def closing? (quote : Char) : List Char → Option (List Char × List Char)
  | a :: b :: c :: rest =>
    if a = quote ∧ b = quote ∧ c = quote then match rest with
      | d :: e :: rest' =>
        if d = quote ∧ e = quote then some ([quote, quote], rest')
        else if d = quote then some ([quote], e :: rest')
        else some ([], rest)
      | [d] => if d = quote then some ([quote], []) else some ([], rest)
      | [] => some ([], rest)
    else none
  | _ => none

def joinsLines (text : List Char) : Bool := (lineBreak? (dropGap text)).isSome

/-- Reads a basic string on many lines; `joining` says whether blanks and line breaks are being
dropped after a backslash at the end of a line. -/
def multilineBasic? (joining : Bool) : List Char → Option (List Char × List Char)
  | [] => none
  | c :: rest =>
    if joining && (isGapChar c || c == '\n') then multilineBasic? true rest
    else match closing? '"' (c :: rest) with
      | some read => some read
      | none =>
        if c = '\\' then
          if joinsLines rest then multilineBasic? true rest
          else match rest with
            | 'u' :: d :: e :: f :: g :: rest => match scalar? [d, e, f, g] with
              | some value => prepend value (multilineBasic? false rest)
              | none => none
            | 'U' :: d :: e :: f :: g :: h :: i :: j :: k :: rest =>
              match scalar? [d, e, f, g, h, i, j, k] with
              | some value => prepend value (multilineBasic? false rest)
              | none => none
            | letter :: rest => match escaped? letter with
              | some value => prepend value (multilineBasic? false rest)
              | none => none
            | [] => none
        else if c = '\r' then match rest with
          | '\n' :: rest =>
            if joining then multilineBasic? true rest
            else prepend '\n' (multilineBasic? false rest)
          | _ => none
        else if c = '\n' || isPrintable c then prepend c (multilineBasic? false rest)
        else none

def multilineLiteral? : List Char → Option (List Char × List Char)
  | [] => none
  | c :: rest => match closing? '\'' (c :: rest) with
    | some read => some read
    | none =>
      if c = '\r' then match rest with
        | '\n' :: rest => prepend '\n' (multilineLiteral? rest)
        | _ => none
      else if c = '\n' || isPrintable c then prepend c (multilineLiteral? rest)
      else none

def dropLineBreak (text : List Char) : List Char := (lineBreak? text).getD text

def string? : List Char → Option (List Char × List Char)
  | '"' :: '"' :: '"' :: rest => multilineBasic? false (dropLineBreak rest)
  | '\'' :: '\'' :: '\'' :: rest => multilineLiteral? (dropLineBreak rest)
  | '"' :: rest => basic? rest
  | '\'' :: rest => literal? rest
  | _ => none

end TableScript.Toml
