import TableScript.Toml.Scalar
import TableScript.Toml.Tree

/-! TOML documents: keys, values that hold other values, and the lines of a document. -/
namespace TableScript.Toml

def depthLimit : Nat := 80

def isBareChar (c : Char) : Bool := c.isAlphanum || c == '_' || c == '-'

def keyPart? (text : List Char) : Option (String × List Char) :=
  match text with
  | '"' :: rest => (basic? rest).map fun (name, rest) => (String.ofList name, rest)
  | '\'' :: rest => (literal? rest).map fun (name, rest) => (String.ofList name, rest)
  | _ =>
    if text.takeWhile isBareChar = [] then none
    else some (String.ofList (text.takeWhile isBareChar), text.dropWhile isBareChar)

/-- Reads at most `limit` parts of a key, parted by dots with gaps around them: the parts before
the last, the last, and the rest of the text. -/
def keyParts? : Nat → List Char → Option (List String × String × List Char)
  | 0, _ => none
  | limit + 1, text => do
    let (part, rest) ← keyPart? (dropGap text)
    match dropGap rest with
    | '.' :: rest =>
      let (path, last, rest) ← keyParts? limit rest
      some (part :: path, last, rest)
    | rest => some ([], part, rest)

def key? (text : List Char) : Option (List String × String × List Char) :=
  keyParts? (depthLimit - 1) text

def dropComment (text : List Char) : List Char :=
  match text with
  | '#' :: rest => rest.dropWhile isPrintable
  | _ => text

/-- What follows the end of a line, before which a gap and a comment may stand. The end of the
text ends a line too. -/
def lineEnd? (text : List Char) : Option (List Char) :=
  match dropComment (dropGap text) with
  | [] => some []
  | rest => lineBreak? rest

def dropSpace : Nat → List Char → List Char
  | 0, text => text
  | steps + 1, text =>
    match dropGap text with
    | '#' :: rest => match lineBreak? (rest.dropWhile isPrintable) with
      | some rest => dropSpace steps rest
      | none => '#' :: rest
    | rest => match lineBreak? rest with
      | some rest => dropSpace steps rest
      | none => rest

def afterSpace (text : List Char) : List Char := dropSpace text.length text

/-- Reads the items of a list up to its closing bracket, given a reader of values. A comma may
stand after the last item. -/
def items? (value? : List Char → Option (Data × List Char)) :
    Nat → List Char → Option (List Data × List Char)
  | 0, _ => none
  | steps + 1, text =>
    match afterSpace text with
    | ']' :: rest => some ([], rest)
    | text => do
      let (item, rest) ← value? text
      match afterSpace rest with
      | ',' :: rest =>
        let (items, rest) ← items? value? steps rest
        some (item :: items, rest)
      | ']' :: rest => some ([item], rest)
      | _ => none

def fields? (value? : List Char → Option (Data × List Char)) :
    Nat → Entries → List Char → Option (Entries × List Char)
  | 0, _, _ => none
  | steps + 1, entries, text => do
    let (path, key, rest) ← key? text
    match rest with
    | '=' :: rest =>
      let (data, rest) ← value? (dropGap rest)
      let (_, entries) ← putDotted path key data .defined entries
      match dropGap rest with
      | ',' :: rest => fields? value? steps entries rest
      | '}' :: rest => some (entries, rest)
      | _ => none
    | _ => none

def value? : Nat → List Char → Option (Data × List Char)
  | 0, text => scalarValue? text
  | depth + 1, text =>
    match text with
    | '[' :: rest => (items? (value? depth) text.length rest).map fun (items, rest) => (.list items, rest)
    | '{' :: rest => match dropGap rest with
      | '}' :: rest => some (.record [], rest)
      | rest => (fields? (value? depth) text.length [] rest).map fun (entries, rest) =>
        (.record (fieldsOf entries), rest)
    | _ => scalarValue? text

structure Document where
  entries : Entries
  header : List String

def Document.change (document : Document) (path : List String)
    (change : Origin → Entries → Option (Origin × Entries)) : Option Document :=
  (descend false change path .defined document.entries).map fun (_, entries) =>
    { document with entries := entries }

def header? (document : Document) : List Char → Option (Document × List Char)
  | '[' :: '[' :: rest => do
    let (path, key, rest) ← key? rest
    match rest with
    | ']' :: ']' :: rest =>
      let document ← document.change path (openElement key)
      some ({ document with header := path ++ [key] }, ← lineEnd? rest)
    | _ => none
  | '[' :: rest => do
    let (path, key, rest) ← key? rest
    match rest with
    | ']' :: rest =>
      let document ← document.change path (openTable key)
      some ({ document with header := path ++ [key] }, ← lineEnd? rest)
    | _ => none
  | _ => none

def keyValue? (document : Document) (text : List Char) : Option (Document × List Char) := do
  let (path, key, rest) ← key? text
  match rest with
  | '=' :: rest =>
    let (data, rest) ← value? (depthLimit - 1) (dropGap rest)
    let document ← document.change document.header (putDotted path key data)
    some (document, ← lineEnd? rest)
  | _ => none

def readLines : Nat → Document → List Char → Option Document
  | 0, document, text => if text = [] then some document else none
  | steps + 1, document, text =>
    match dropGap text with
    | [] => some document
    | '[' :: rest => do
      let (document, rest) ← header? document ('[' :: rest)
      readLines steps document rest
    | c :: rest => match lineEnd? (c :: rest) with
      | some rest => readLines steps document rest
      | none => do
        let (document, rest) ← keyValue? document (c :: rest)
        readLines steps document rest

def read? (text : String) : Option Data :=
  let text := match text.toList with
    | '\uFEFF' :: rest => rest
    | text => text
  (readLines text.length ⟨[], []⟩ text).map fun document => .record (fieldsOf document.entries)

end TableScript.Toml
