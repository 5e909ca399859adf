/-! Decimal numerals and the machine word that bounds them. -/
namespace TableScript.Text

def largestWord : Nat := 18446744073709551615

def decimalValue (digits : List Char) : Nat :=
  digits.foldl (fun value digit => value * 10 + (digit.toNat - '0'.toNat)) 0

def cappedValue (digits : List Char) : Nat := min (decimalValue digits) largestWord

/-- Reads a word: an optional plus sign, then one or more ASCII digits and nothing else, with a
value that fits. -/
def readWord? (text : List Char) : Option Nat :=
  let digits := match text with
    | '+' :: rest => rest
    | _ => text
  if digits ≠ [] ∧ digits.all Char.isDigit ∧ decimalValue digits ≤ largestWord then
    some (decimalValue digits)
  else none

/-- The texts that write a number in ASCII digits, with a plus sign before them or without. -/
inductive SignedNumeral : Nat → List Char → Prop
  | unsigned {digits : List Char} (some : digits ≠ []) (ascii : ∀ c ∈ digits, c.isDigit = true) :
      SignedNumeral (decimalValue digits) digits
  | signed {digits : List Char} (some : digits ≠ []) (ascii : ∀ c ∈ digits, c.isDigit = true) :
      SignedNumeral (decimalValue digits) ('+' :: digits)

end TableScript.Text
