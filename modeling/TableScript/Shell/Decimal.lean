import TableScript.Shell.Arithmetic

/-! Numbers with a fraction: the binary number nearest to a decimal numeral, written exactly to a
number of places. -/
namespace TableScript.Shell

structure Quotient where
  numerator : Nat
  denominator : Nat

def Quotient.ofFloat (value : Float) : Quotient :=
  let bits := value.toBits.toNat
  let exponent := bits / 4503599627370496 % 2048
  let fraction := bits % 4503599627370496
  let (digits, exponent) := if exponent = 0 then (fraction, 1) else (fraction + 4503599627370496, exponent)
  if 1075 ≤ exponent then ⟨digits * Nat.pow 2 (exponent - 1075), 1⟩
  else ⟨digits, Nat.pow 2 (1075 - exponent)⟩

def Quotient.scaled (quotient : Quotient) (power : Int) : Nat :=
  let numerator := quotient.numerator * Nat.pow 10 power.toNat
  let denominator := quotient.denominator * Nat.pow 10 (-power).toNat
  let whole := numerator / denominator
  let twice := 2 * (numerator % denominator)
  if denominator < twice ∨ (twice = denominator ∧ whole % 2 = 1) then whole + 1 else whole

def Quotient.magnitude (quotient : Quotient) (steps : Nat) (guess : Int) : Int :=
  match steps with
  | 0 => guess
  | steps + 1 =>
    let isBelow := quotient.numerator * Nat.pow 10 (-guess).toNat < quotient.denominator * Nat.pow 10 guess.toNat
    let isAbove := quotient.denominator * Nat.pow 10 (guess + 1).toNat ≤
      quotient.numerator * Nat.pow 10 (-(guess + 1)).toNat
    if isBelow then quotient.magnitude steps (guess - 1)
    else if isAbove then quotient.magnitude steps (guess + 1)
    else guess

def filledLeft (width : Nat) (fill : Char) (text : String) : String :=
  String.ofList (List.replicate (width - text.length) fill) ++ text

def filledRight (width : Nat) (text : String) : String :=
  text ++ String.ofList (List.replicate (width - text.length) ' ')

def placed (places units : Nat) : String :=
  let digits := (filledLeft (places + 1) '0' (toString units)).toList
  let whole := String.ofList (digits.take (digits.length - places))
  if places = 0 then whole else whole ++ "." ++ String.ofList (digits.drop (digits.length - places))

def Quotient.fixed (quotient : Quotient) (places : Nat) : String :=
  placed places (quotient.scaled places)

def Quotient.digits (quotient : Quotient) (places : Nat) : Nat × Int :=
  if quotient.numerator = 0 then (0, 0)
  else
    let power := quotient.magnitude 800 0
    let digits := quotient.scaled (places - power)
    if Nat.pow 10 (places + 1) ≤ digits then (digits / 10, power + 1) else (digits, power)

def exponential (places digits : Nat) (power : Int) : String :=
  placed places digits ++ (if power < 0 then "e-" else "e+") ++ filledLeft 2 '0' (toString power.natAbs)

def Quotient.exponential (quotient : Quotient) (places : Nat) : String :=
  let (digits, power) := quotient.digits places
  TableScript.Shell.exponential places digits power

def withoutZeros (text : String) : String :=
  if text.toList.contains '.' then
    String.ofList (((text.toList.reverse.dropWhile (· = '0')).dropWhile (· = '.')).reverse)
  else text

def Quotient.general (quotient : Quotient) (precision : Nat) : String :=
  let precision := max precision 1
  let (digits, power) := quotient.digits (precision - 1)
  if power < -4 ∨ precision ≤ power then
    withoutZeros (placed (precision - 1) digits) ++ (TableScript.Shell.exponential 0 0 power).drop 1
  else withoutZeros (quotient.fixed ((precision : Int) - 1 - power).toNat)

def leadingDecimal? (text : List Char) : Option (Bool × Quotient × List Char) :=
  let text := text.dropWhile isSpace
  let (isNegative, text) := match text with
    | '-' :: rest => (true, rest)
    | '+' :: rest => (false, rest)
    | rest => (false, rest)
  let whole := text.takeWhile Char.isDigit
  let rest := text.drop whole.length
  let (fraction, rest) := match rest with
    | '.' :: rest => (rest.takeWhile Char.isDigit, rest.dropWhile Char.isDigit)
    | rest => ([], rest)
  if whole = [] ∧ fraction = [] then none
  else
    let (exponent, rest) : Int × List Char := match rest with
      | e :: after =>
        let (isBelow, digits) := match after with
          | '-' :: digits => (true, digits)
          | '+' :: digits => (false, digits)
          | digits => (false, digits)
        let power := Text.decimalValue (digits.takeWhile Char.isDigit)
        if (e = 'e' ∨ e = 'E') ∧ (digits.head?.map Char.isDigit).getD false then
          (if isBelow then -power else power, digits.dropWhile Char.isDigit)
        else (0, rest)
      | [] => (0, [])
    let scale := exponent - fraction.length
    let value := Float.ofScientific (Text.decimalValue (whole ++ fraction)) (decide (scale < 0)) scale.natAbs
    some (isNegative, .ofFloat value, rest)

end TableScript.Shell
