import TableScript.Data
import TableScript.Toml.Text

/-! JSON texts. A reader takes the front of a text and gives back what stands there and the rest. Numbers
stay as they are written; an escape stands for a character by itself, never for half of one. -/
namespace TableScript.Json

open Toml (scalar? prepend)

def isSpace (c : Char) : Bool := c == ' ' || c == '\t' || c == '\n' || c == '\r'

def dropSpace (text : List Char) : List Char := text.dropWhile isSpace

def escaped? (letter : Char) : Option Char := if letter = '/' then some '/' else Toml.escaped? letter

def stringRest? : List Char → Option (List Char × List Char)
  | [] => none
  | '"' :: rest => some ([], rest)
  | '\\' :: 'u' :: d :: e :: f :: g :: rest =>
    (scalar? [d, e, f, g]).bind fun value => prepend value (stringRest? rest)
  | '\\' :: letter :: rest => (escaped? letter).bind fun value => prepend value (stringRest? rest)
  | c :: rest => if ' ' ≤ c ∧ c ≠ '\\' then prepend c (stringRest? rest) else none

def string? : List Char → Option (String × List Char)
  | '"' :: rest => (stringRest? rest).map fun (value, rest) => (String.ofList value, rest)
  | _ => none

def digits? (text : List Char) : Option (List Char × List Char) :=
  if text.takeWhile Char.isDigit = [] then none
  else some (text.takeWhile Char.isDigit, text.dropWhile Char.isDigit)

def whole? : List Char → Option (List Char × List Char)
  | '0' :: rest => some (['0'], rest)
  | text => digits? text

def fraction : List Char → List Char × List Char
  | '.' :: rest => match digits? rest with
    | some (digits, rest) => ('.' :: digits, rest)
    | none => ([], '.' :: rest)
  | text => ([], text)

def exponent : List Char → List Char × List Char
  | mark :: rest =>
    let (sign, after) := match rest with
      | '+' :: after => (['+'], after)
      | '-' :: after => (['-'], after)
      | after => ([], after)
    if mark = 'e' ∨ mark = 'E' then match digits? after with
      | some (digits, rest) => (mark :: sign ++ digits, rest)
      | none => ([], mark :: rest)
    else ([], mark :: rest)
  | [] => ([], [])

def number? (text : List Char) : Option (String × List Char) :=
  let (sign, rest) := match text with
    | '-' :: rest => (['-'], rest)
    | rest => ([], rest)
  (whole? rest).map fun (whole, rest) =>
    let (part, rest) := fraction rest
    let (power, rest) := exponent rest
    (String.ofList (sign ++ whole ++ part ++ power), rest)

def word? (word : String) (value : Data) (text : List Char) : Option (Data × List Char) :=
  if word.toList.isPrefixOf text then some (value, text.drop word.length) else none

def scalarValue? (text : List Char) : Option (Data × List Char) :=
  if text.head? = some '"' then (string? text).map fun (value, rest) => (.text value, rest)
  else if text.head? = some 'n' then word? "null" .null text
  else if text.head? = some 't' then word? "true" (.flag true) text
  else if text.head? = some 'f' then word? "false" (.flag false) text
  else (number? text).map fun (written, rest) => (.number written, rest)

mutual

def value? : Nat → List Char → Option (Data × List Char)
  | 0, _ => none
  | steps + 1, text =>
    match dropSpace text with
    | '[' :: rest => match dropSpace rest with
      | ']' :: after => some (.list [], after)
      | _ => (items? steps rest).map fun (items, rest) => (.list items, rest)
    | '{' :: rest => match dropSpace rest with
      | '}' :: after => some (.record [], after)
      | _ => (fields? steps rest).map fun (fields, rest) => (.record fields, rest)
    | text => scalarValue? text

def items? : Nat → List Char → Option (List Data × List Char)
  | 0, _ => none
  | steps + 1, text => do
    let (item, rest) ← value? steps text
    match dropSpace rest with
    | ',' :: rest =>
      let (items, rest) ← items? steps rest
      some (item :: items, rest)
    | ']' :: rest => some ([item], rest)
    | _ => none

def fields? : Nat → List Char → Option (List (String × Data) × List Char)
  | 0, _ => none
  | steps + 1, text => do
    let (name, rest) ← string? (dropSpace text)
    match dropSpace rest with
    | ':' :: rest =>
      let (value, rest) ← value? steps rest
      match dropSpace rest with
      | ',' :: rest =>
        let (fields, rest) ← fields? steps rest
        some ((name, value) :: fields, rest)
      | '}' :: rest => some ([(name, value)], rest)
      | _ => none
    | _ => none

end

def read? (text : String) : Option Data :=
  match value? (text.toList.length + 1) text.toList with
  | some (value, rest) => if dropSpace rest = [] then some value else none
  | none => none

end TableScript.Json
