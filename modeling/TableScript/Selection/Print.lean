import TableScript.Selection.Grammar

/-! Writing selections. White space may stand between all tokens and zeros before each number, so a
selection has as many texts as there are choices of these. -/
namespace TableScript.Selection

def numeral (zeros id : Nat) : List Char := List.replicate zeros '0' ++ Nat.toDigits 10 id

def numerals (zeros : Nat → Nat) : List Nat → List (List Char)
  | [] => []
  | id :: ids => numeral (zeros 0) id :: numerals (fun place => zeros (place + 1)) ids

def tokens (zeros : Nat → Nat) : Selection → List (List Char)
  | .all => [['*']]
  | .single id => [numeral (zeros 0) id]
  | .range first last => [['('], numeral (zeros 0) first, ['.', '.'], numeral (zeros 1) last, [')']]
  | .list ids => ['['] :: (numerals zeros ids).intersperse [','] ++ [[']']]

def spaced (gap : Nat → List Char) : List (List Char) → List Char
  | [] => gap 0
  | token :: tokens => gap 0 ++ token ++ spaced (fun place => gap (place + 1)) tokens

def print (zeros : Nat → Nat) (gap : Nat → List Char) (selection : Selection) : String :=
  String.ofList (spaced gap (selection.tokens zeros))

def numbers : Selection → List Nat
  | .all => []
  | .single id => [id]
  | .range first last => [first, last]
  | .list ids => ids

/-- The selections that have a text: their numbers fit a word, and lists are not empty. -/
structure Printable (selection : Selection) : Prop where
  words : ∀ id ∈ selection.numbers, id ≤ Text.largestWord
  nonempty : selection ≠ .list []

end TableScript.Selection
