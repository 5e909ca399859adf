import TableScript.Data
import TableScript.Text.Numeral
import TableScript.Toml.Text

/-! The numbers, moments and flags of a TOML document. Integers have 64 bits, a floating-point
number must not be beyond the largest finite one, and dates must exist. -/
namespace TableScript.Toml

def isDigitOf (base : Nat) (c : Char) : Bool :=
  match hexDigit? c with
  | some value => value < base
  | none => false

def digits (base : Nat) : List Char → List Char × List Char
  | [] => ([], [])
  | c :: rest =>
    if isDigitOf base c then
      let (taken, rest) := digits base rest
      (c :: taken, rest)
    else if c = '_' then match rest with
      | d :: _ => if isDigitOf base d then digits base rest else ([], c :: rest)
      | [] => ([], c :: rest)
    else ([], c :: rest)

def digitRun? (base : Nat) (text : List Char) : Option (List Char × List Char) :=
  match text with
  | c :: _ => if isDigitOf base c then some (digits base text) else none
  | [] => none

def valueOf (base : Nat) (digits : List Char) : Nat :=
  digits.foldl (fun value c => value * base + (hexDigit? c).getD 0) 0

def wholeDigits? : List Char → Option (List Char × List Char)
  | '0' :: rest => some (['0'], rest)
  | text => digitRun? 10 text

def sign : List Char → Bool × List Char
  | '-' :: rest => (true, rest)
  | '+' :: rest => (false, rest)
  | text => (false, text)

def fraction? : List Char → Option (List Char × List Char)
  | '.' :: rest => digitRun? 10 rest
  | _ => none

def exponent? : List Char → Option (Bool × List Char × List Char)
  | c :: rest =>
    if c = 'e' ∨ c = 'E' then
      let (negative, rest) := sign rest
      (digitRun? 10 rest).map fun (digits, rest) => (negative, digits, rest)
    else none
  | [] => none

/-- Numbers from here on round to infinity: the largest finite binary number and half of its last
place more. -/
def infinityFrom : Nat := Nat.pow 2 1024 - Nat.pow 2 970

/-- Whether the decimal number `mantissa · 10 ^ (raise - lower)` rounds to infinity. Exponents that
decide the matter by their size alone are not computed. -/
def overflows (mantissa raise lower : Nat) : Bool :=
  let places := (Nat.toDigits 10 mantissa).length + raise
  if mantissa = 0 then false
  else if 400 + lower < places then true
  else if places < 300 + lower then false
  else infinityFrom * Nat.pow 10 (lower - raise) ≤ mantissa * Nat.pow 10 (raise - lower)

def largestInteger : Nat := 9223372036854775807

def decimal? (negative : Bool) (text : List Char) : Option (Data × List Char) := do
  let (whole, rest) ← wholeDigits? text
  let (part, rest) := (fraction? rest).getD ([], rest)
  let (lowers, power, after) := (exponent? rest).getD (false, [], rest)
  let signed := if negative then "-" else ""
  let written := signed ++ String.ofList (whole ++ '.' :: part ++ 'e' :: power)
  if part = [] ∧ power = [] then
    let limit := if negative then largestInteger + 1 else largestInteger
    if valueOf 10 whole ≤ limit then some (.number (signed ++ String.ofList whole), after) else none
  else
    let size := valueOf 10 power
    let lower := part.length + if lowers then size else 0
    if !negative && overflows (valueOf 10 (whole ++ part)) (if lowers then 0 else size) lower then none
    else some (.number written, after)

def basedInteger? (base : Nat) (text : List Char) : Option (Data × List Char) := do
  let (taken, rest) ← digitRun? base text
  if valueOf base taken ≤ largestInteger then some (.number (toString (valueOf base taken)), rest)
  else none

def number? (text : List Char) : Option (Data × List Char) :=
  match text with
  | '0' :: 'x' :: rest => basedInteger? 16 rest
  | '0' :: 'o' :: rest => basedInteger? 8 rest
  | '0' :: 'b' :: rest => basedInteger? 2 rest
  | _ => match sign text with
    | (_, 'i' :: 'n' :: 'f' :: rest) => some (.number "inf", rest)
    | (_, 'n' :: 'a' :: 'n' :: rest) => some (.number "nan", rest)
    | (negative, rest) => decimal? negative rest

def fixedDigits? (count : Nat) (text : List Char) : Option (Nat × List Char) :=
  let taken := text.take count
  if taken.length = count ∧ taken.all Char.isDigit then
    some (Text.decimalValue taken, text.drop count)
  else none

def daysIn (year month : Nat) : Nat :=
  if month = 2 then
    if year % 4 = 0 ∧ (year % 100 ≠ 0 ∨ year % 400 = 0) then 29 else 28
  else if month ∈ [4, 6, 9, 11] then 30
  else 31

def afterChar? (c : Char) : List Char → Option (List Char)
  | d :: rest => if d = c then some rest else none
  | [] => none

def date? (text : List Char) : Option (List Char) := do
  let (year, rest) ← fixedDigits? 4 text
  let (month, rest) ← fixedDigits? 2 (← afterChar? '-' rest)
  let (day, rest) ← fixedDigits? 2 (← afterChar? '-' rest)
  if 1 ≤ month ∧ month ≤ 12 ∧ 1 ≤ day ∧ day ≤ daysIn year month then some rest else none

def hourMinute? (text : List Char) : Option (List Char) := do
  let (hour, rest) ← fixedDigits? 2 text
  let (minute, rest) ← fixedDigits? 2 (← afterChar? ':' rest)
  if hour ≤ 23 ∧ minute ≤ 59 then some rest else none

def time? (text : List Char) : Option (List Char) := do
  let rest ← hourMinute? text
  let (second, rest) ← fixedDigits? 2 (← afterChar? ':' rest)
  if second ≤ 60 then
    match rest with
    | '.' :: c :: rest' =>
      if c.isDigit then some (rest'.dropWhile Char.isDigit) else none
    | _ => some rest
  else none

def dropOffset : List Char → Option (List Char)
  | [] => some []
  | c :: rest =>
    if c = 'Z' ∨ c = 'z' then some rest
    else if c = '+' ∨ c = '-' then hourMinute? rest
    else some (c :: rest)

def afterMoment? (text : List Char) : Option (List Char) :=
  match date? text with
  | none => time? text
  | some [] => some []
  | some (c :: rest) =>
    if c = 'T' ∨ c = 't' ∨ c = ' ' then match time? rest with
      | some rest => dropOffset rest
      | none => some (c :: rest)
    else some (c :: rest)

def moment? (text : List Char) : Option (Data × List Char) :=
  (afterMoment? text).map fun rest =>
    (.moment (String.ofList (text.take (text.length - rest.length))), rest)

def scalarValue? (text : List Char) : Option (Data × List Char) :=
  match text with
  | [] => none
  | c :: _ =>
    if c = '"' ∨ c = '\'' then (string? text).map fun (value, rest) => (.text (String.ofList value), rest)
    else match text with
      | 't' :: 'r' :: 'u' :: 'e' :: rest => some (.flag true, rest)
      | 'f' :: 'a' :: 'l' :: 's' :: 'e' :: rest => some (.flag false, rest)
      | _ => match moment? text with
        | some read => some read
        | none => number? text

end TableScript.Toml
