/-! Patterns: `*` fits any text, `?` any character, and `[…]` one of some characters. -/
namespace TableScript.Shell

inductive Choice where
  | span (first last : Char)
  | sort (name : String)

inductive Mark where
  | one (c : Char)
  | any
  | many
  | among (isNegated : Bool) (choices : List Choice)

def isOfSort (name : String) (c : Char) : Bool :=
  match name with
  | "alpha" => c.isAlpha
  | "digit" => c.isDigit
  | "alnum" => c.isAlphanum
  | "upper" => c.isUpper
  | "lower" => c.isLower
  | "space" => c = ' ' || ('\t' ≤ c && c ≤ '\r')
  | "blank" => c = ' ' || c = '\t'
  | "punct" => '!' ≤ c && c ≤ '~' && !c.isAlphanum
  | "print" => ' ' ≤ c && c ≤ '~'
  | "graph" => '!' ≤ c && c ≤ '~'
  | "cntrl" => c < ' ' || c = '\x7f'
  | "xdigit" => c.isDigit || ('a' ≤ c && c ≤ 'f') || ('A' ≤ c && c ≤ 'F')
  | _ => false

def Choice.offers (choice : Choice) (c : Char) : Bool :=
  match choice with
  | .span first last => first ≤ c && c ≤ last
  | .sort name => isOfSort name c

abbrev Letter := Char × Bool

/-- The choices up to the bracket that closes them, and what follows it. A bracket that comes first
is a choice itself. -/
def choicesOf : Nat → Bool → List Letter → Option (List Choice × List Letter)
  | 0, _, _ | _, _, [] => none
  | _ + 1, false, (']', false) :: rest => some ([], rest)
  | steps + 1, _, ('[', false) :: (':', false) :: rest =>
    let name := (rest.map Prod.fst).takeWhile Char.isAlpha
    match rest.drop name.length with
    | (':', false) :: (']', false) :: rest =>
      (choicesOf steps false rest).map fun (choices, rest) => (.sort (String.ofList name) :: choices, rest)
    | _ => (choicesOf steps false ((':', true) :: rest)).map fun (choices, rest) =>
        (.span '[' '[' :: choices, rest)
  | steps + 1, _, (first, _) :: ('-', false) :: (last, isQuoted) :: rest =>
    if last = ']' ∧ !isQuoted then
      (choicesOf steps false (('-', true) :: (last, isQuoted) :: rest)).map fun (choices, rest) =>
        (.span first first :: choices, rest)
    else (choicesOf steps false rest).map fun (choices, rest) => (.span first last :: choices, rest)
  | steps + 1, _, (c, _) :: rest =>
    (choicesOf steps false rest).map fun (choices, rest) => (.span c c :: choices, rest)

def marksOf : Nat → List Letter → List Mark
  | 0, _ | _, [] => []
  | steps + 1, (c, true) :: rest => .one c :: marksOf steps rest
  | steps + 1, ('\\', _) :: (c, _) :: rest => .one c :: marksOf steps rest
  | steps + 1, ('*', _) :: rest => .many :: marksOf steps rest
  | steps + 1, ('?', _) :: rest => .any :: marksOf steps rest
  | steps + 1, ('[', _) :: rest =>
    let (isNegated, inside) := match rest with
      | ('!', false) :: inside => (true, inside)
      | inside => (false, inside)
    match choicesOf (inside.length + 1) true inside with
    | some (choices, rest) => .among isNegated choices :: marksOf steps rest
    | none => .one '[' :: marksOf steps rest
  | steps + 1, (c, _) :: rest => .one c :: marksOf steps rest

def patternOf (word : List Letter) : List Mark := marksOf word.length word

def suffixes : List Char → List (List Char)
  | [] => [[]]
  | c :: rest => (c :: rest) :: suffixes rest

def fits : List Mark → List Char → Bool
  | [], text => text.isEmpty
  | .many :: rest, text => (suffixes text).any (fits rest)
  | .one c :: rest, d :: text => c = d && fits rest text
  | .any :: rest, _ :: text => fits rest text
  | .among isNegated choices :: rest, c :: text =>
    (choices.any (·.offers c) != isNegated) && fits rest text
  | _, [] => false

def isPattern (word : List Letter) : Bool :=
  word.any fun (c, isQuoted) => !isQuoted && (c == '*' || c == '?' || c == '[')

def trimmed (atEnd longest : Bool) (pattern : List Mark) (text : List Char) : List Char :=
  let cuts := if atEnd = longest then List.range (text.length + 1)
    else (List.range (text.length + 1)).reverse
  let fitting := cuts.find? fun cut => fits pattern (if atEnd then text.drop cut else text.take cut)
  match fitting with
  | some cut => if atEnd then text.take cut else text.drop cut
  | none => text

end TableScript.Shell
