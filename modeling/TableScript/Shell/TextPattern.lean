import TableScript.Shell.Arithmetic
import TableScript.Shell.Pattern

/-! Patterns for parts of a text, as `grep`, `sed` and `expr` take them, in the basic and the extended
notation. Of all fits that begin first, the longest counts. -/
namespace TableScript.Shell

inductive TextPattern where
  | empty
  | any
  | among (isNegated : Bool) (choices : List Choice)
  | lineStart
  | lineEnd
  | wordEdge (mayStart mayEnd : Bool)
  | noWordEdge
  | sequence (first second : TextPattern)
  | either (first second : TextPattern)
  | repeated (least : Nat) (most : Option Nat) (inner : TextPattern)
  | group (number : Nat) (inner : TextPattern)
  | again (number : Nat)

namespace TextPattern

structure Spot where
  previous : Option Char
  rest : List Char
  groups : List (Nat × List Char)

def Spot.advance (spot : Spot) (count : Nat) : Spot :=
  { spot with
    previous := if count = 0 then spot.previous else (spot.rest.take count).getLast?
    rest := spot.rest.drop count }

def isWordLetter (c : Char) : Bool := c.isAlphanum || c == '_'

def ends (foldsCase : Bool) : Nat → TextPattern → Spot → List Spot
  | 0, _, _ => []
  | steps + 1, pattern, spot =>
    let before := (spot.previous.map isWordLetter).getD false
    let after := (spot.rest.head?.map isWordLetter).getD false
    match pattern with
    | .empty => [spot]
    | .any => if spot.rest = [] then [] else [spot.advance 1]
    | .among isNegated choices => match spot.rest with
      | c :: _ =>
        let isOffered := choices.any (·.offers c) || (foldsCase &&
          (choices.any (·.offers c.toLower) || choices.any (·.offers c.toUpper)))
        if isOffered != isNegated then [spot.advance 1] else []
      | [] => []
    | .lineStart => if spot.previous.isNone || spot.previous = some '\n' then [spot] else []
    | .lineEnd => if spot.rest = [] || spot.rest.head? = some '\n' then [spot] else []
    | .wordEdge mayStart mayEnd =>
      if (mayStart && !before && after) || (mayEnd && before && !after) then [spot] else []
    | .noWordEdge => if before = after then [spot] else []
    | .sequence first second => (ends foldsCase steps first spot).flatMap (ends foldsCase steps second)
    | .either first second => ends foldsCase steps first spot ++ ends foldsCase steps second spot
    | .repeated least most inner =>
      let more := if most = some 0 then [] else
        ((ends foldsCase steps inner spot).filter fun next =>
          next.rest.length < spot.rest.length || 0 < least).flatMap
            (ends foldsCase steps (.repeated (least - 1) (most.map (· - 1)) inner))
      if least = 0 then more ++ [spot] else more
    | .group number inner => (ends foldsCase steps inner spot).map fun next =>
        { next with
          groups := (number, spot.rest.take (spot.rest.length - next.rest.length)) :: next.groups }
    | .again number =>
      let text := (spot.groups.lookup number).getD []
      if text.isPrefixOf spot.rest then [spot.advance text.length] else []

def longest? (foldsCase : Bool) (pattern : TextPattern) (spot : Spot) : Option Spot :=
  (ends foldsCase (spot.rest.length * 4 + 400) pattern spot).foldl (fun best next => match best with
    | some found => if next.rest.length < found.rest.length then some next else some found
    | none => some next) none

def find? (foldsCase : Bool) (pattern : TextPattern) : Nat → Spot → Option (Spot × Spot)
  | 0, _ => none
  | steps + 1, spot =>
    match longest? foldsCase pattern spot with
    | some found => some (spot, found)
    | none => if spot.rest = [] then none else find? foldsCase pattern steps (spot.advance 1)

abbrev PatternReading := StateT (List Char × Nat) (Except String)

def rest : PatternReading (List Char) := return (← get).1

def skip (count : Nat) : PatternReading Unit := modify fun (rest, groups) => (rest.drop count, groups)

def standsNext (isExtended : Bool) (operator : Char) : PatternReading Bool := do
  return match ← rest with
    | '\\' :: c :: _ => !isExtended && c == operator
    | c :: _ => isExtended && c == operator
    | [] => false

def pass (isExtended : Bool) (operator : Char) : PatternReading Bool := do
  if ← standsNext isExtended operator then
    skip (if isExtended then 1 else 2)
    return true
  else return false

def literal (c : Char) : TextPattern := .among false [.span c c]

def wordChoices : List Choice := [.sort "alnum", .span '_' '_']

def escaped (c : Char) : TextPattern :=
  match c with
  | 'w' => .among false wordChoices
  | 'W' => .among true wordChoices
  | 's' => .among false [.sort "space"]
  | 'S' => .among true [.sort "space"]
  | 'b' => .wordEdge true true
  | 'B' => .noWordEdge
  | '<' => .wordEdge true false
  | '>' => .wordEdge false true
  | 'n' => literal '\n'
  | 't' => literal '\t'
  | c => if c.isDigit ∧ c ≠ '0' then .again (c.toNat - '0'.toNat) else literal c

def bounds (text : List Char) : Option (Nat × Option Nat × List Char) :=
  let least := text.takeWhile Char.isDigit
  match text.drop least.length with
  | ',' :: after =>
    let most := after.takeWhile Char.isDigit
    some (Text.decimalValue least, if most = [] then none else some (Text.decimalValue most), after.drop most.length)
  | after => if least = [] then none
    else some (Text.decimalValue least, some (Text.decimalValue least), after)

mutual

def readEither (isExtended : Bool) : Nat → PatternReading TextPattern
  | 0 => throw "Regular expression too big"
  | steps + 1 => do
    let first ← readSequence isExtended steps true
    if ← pass isExtended '|' then return .either first (← readEither isExtended steps)
    else return first

def readSequence (isExtended : Bool) : Nat → Bool → PatternReading TextPattern
  | 0, _ => throw "Regular expression too big"
  | steps + 1, isFirst => do
    if (← rest) = [] then return .empty
    else if (← standsNext isExtended '|') || (← standsNext isExtended ')') then return .empty
    else
      let atom ← readAtom isExtended steps isFirst
      let repeated ← readRepetitions isExtended steps atom
      return .sequence repeated (← readSequence isExtended steps false)

def readRepetitions (isExtended : Bool) : Nat → TextPattern → PatternReading TextPattern
  | 0, _ => throw "Regular expression too big"
  | steps + 1, inner => do
    match ← rest with
    | '*' :: _ =>
      let isAnchor := match inner with
        | .lineStart => !isExtended
        | _ => false
      if isAnchor then return inner
      else
        skip 1
        readRepetitions isExtended steps (.repeated 0 none inner)
    | _ =>
      if ← pass isExtended '+' then readRepetitions isExtended steps (.repeated 1 none inner)
      else if ← pass isExtended '?' then readRepetitions isExtended steps (.repeated 0 (some 1) inner)
      else if ← standsNext isExtended '{' then
        match bounds ((← rest).drop (if isExtended then 1 else 2)) with
        | none => if isExtended then return inner else throw "Invalid preceding regular expression"
        | some (least, most, after) =>
          modify fun (_, groups) => (after, groups)
          if !(← pass isExtended '}') then throw r"Unmatched {"
          readRepetitions isExtended steps (.repeated least most inner)
      else return inner

def readAtom (isExtended : Bool) : Nat → Bool → PatternReading TextPattern
  | 0, _ => throw "Regular expression too big"
  | steps + 1, isFirst => do
    if ← pass isExtended '(' then
      let number := (← get).2 + 1
      modify fun (rest, _) => (rest, number)
      let inner ← readEither isExtended steps
      if !(← pass isExtended ')') then throw "Unmatched ( or \\("
      return .group number inner
    else match ← rest with
      | '.' :: _ =>
        skip 1
        return .any
      | '^' :: _ =>
        skip 1
        return if isExtended || isFirst then .lineStart else literal '^'
      | '$' :: after =>
        skip 1
        let closes := after = [] || isExtended || ['\\', ')'].isPrefixOf after || ['\\', '|'].isPrefixOf after
        return if closes then .lineEnd else literal '$'
      | '[' :: after =>
        let (isNegated, inside) := match after with
          | '^' :: inside => (true, inside)
          | inside => (false, inside)
        match choicesOf (inside.length + 1) true (inside.map (·, false)) with
        | some (choices, after) =>
          modify fun (_, groups) => (after.map Prod.fst, groups)
          return .among isNegated choices
        | none => throw "Unmatched [, [^, [:, [., or [="
      | ['\\'] => throw "Trailing backslash"
      | '\\' :: c :: _ =>
        skip 2
        return escaped c
      | c :: _ =>
        skip 1
        return literal c
      | [] => return .empty

end

def read (isExtended : Bool) (text : List Char) : Except String TextPattern := do
  let (pattern, rest, _) ← (readEither isExtended (4 * text.length + 8)).run (text, 0)
  if rest = [] then return pattern else throw "Unmatched ) or \\)"

def Spot.start (text : List Char) : Spot := ⟨none, text, []⟩

end TextPattern

end TableScript.Shell
