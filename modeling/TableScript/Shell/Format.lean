import TableScript.Shell.Decimal

/-! What `echo` and `printf` write: escapes, and formats that are filled with arguments. -/
namespace TableScript.Shell

def letterEscape? : Char → Option Char
  | 'a' => some '\x07'
  | 'b' => some '\x08'
  | 'e' => some '\x1b'
  | 'f' => some '\x0c'
  | 'n' => some '\n'
  | 'r' => some '\r'
  | 't' => some '\t'
  | 'v' => some '\x0b'
  | '\\' => some '\\'
  | _ => none

/-- The character that an escape after a backslash stands for, and the text after it. A number has up
to three octal digits. -/
def escape? : List Char → Option (Char × List Char)
  | [] => none
  | c :: rest =>
    let digits := ((c :: rest).take 3).takeWhile isOctalDigit
    if digits = [] then (letterEscape? c).map (·, rest)
    else some (Char.ofNat (digitsValue 8 digits % 256), (c :: rest).drop digits.length)

/-- What the escapes in an argument stand for, and whether the output goes on after them. A zero may
stand before the digits of a number. -/
def unescaped : Nat → List Char → List Char × Bool
  | 0, _ | _, [] => ([], true)
  | steps + 1, '\\' :: rest =>
    match rest with
    | 'c' :: _ => ([], false)
    | rest =>
      let digits := match rest with
        | '0' :: d :: after => if isOctalDigit d then d :: after else rest
        | rest => rest
      let (c, after) := (escape? digits).getD ('\\', rest)
      let (text, goesOn) := unescaped steps after
      (c :: text, goesOn)
  | steps + 1, c :: rest =>
    let (text, goesOn) := unescaped steps rest
    (c :: text, goesOn)

def echoed (arguments : List String) : String :=
  let (arguments, lineEnd) := match arguments with
    | "-n" :: rest => (rest, "")
    | arguments => (arguments, "\n")
  let text := (String.intercalate " " arguments).toList
  let (text, goesOn) := unescaped (text.length + 1) text
  String.ofList text ++ if goesOn then lineEnd else ""

inductive ArgumentFault where
  | notNumber
  | notWhollyNumber
  | outOfRange

def ArgumentFault.message : ArgumentFault → String
  | .notNumber => "expected numeric value"
  | .notWhollyNumber => "not completely converted"
  | .outOfRange => "Numerical result out of range"

def integerArgument (isSigned : Bool) (text : String) : Int × Option ArgumentFault :=
  match text.toList with
  | [] => (0, none)
  | '"' :: rest | '\'' :: rest => ((rest.head?.map fun c => (c.toNat : Int)).getD 0, none)
  | text =>
    let digits := text.dropWhile isSpace
    let (isNegative, digits) := match digits with
      | '-' :: rest => (true, rest)
      | '+' :: rest => (false, rest)
      | rest => (false, rest)
    let longest (digits : List Char) (isDigit : Char → Bool) (base : Nat) : Nat × List Char :=
      (digitsValue base (digits.takeWhile isDigit), digits.dropWhile isDigit)
    let (magnitude, rest) := match leadingNumeral? digits with
      | none => (0, digits)
      | some (_, _) => match digits with
        | '0' :: x :: c :: rest =>
          if (x = 'x' ∨ x = 'X') ∧ isHexDigit c then longest (c :: rest) isHexDigit 16
          else longest digits isOctalDigit 8
        | '0' :: _ => longest digits isOctalDigit 8
        | _ => longest digits Char.isDigit 10
    let greatest := if isSigned then (if isNegative then 9223372036854775808 else 9223372036854775807)
      else Text.largestWord
    let value : Int := if isNegative then -(min magnitude greatest : Nat) else (min magnitude greatest : Nat)
    let value := if isSigned then value else (toWord value : Int)
    (value, if (leadingNumeral? digits).isNone then some .notNumber
      else if rest ≠ [] then some .notWhollyNumber
      else if greatest < magnitude then some .outOfRange
      else none)

structure Directive where
  flags : List Char
  width : Nat
  precision : Option Nat
  letter : Char

def Directive.set (directive : Directive) (text : String) : String :=
  if directive.flags.contains '-' then filledRight directive.width text
  else filledLeft directive.width ' ' text

def Directive.setNumber (directive : Directive) (sign digits : String) (mayFill : Bool) : String :=
  if directive.flags.contains '0' ∧ !directive.flags.contains '-' ∧ mayFill then
    sign ++ filledLeft (directive.width - sign.length) '0' digits
  else directive.set (sign ++ digits)

def Directive.sign (directive : Directive) (isNegative : Bool) : String :=
  if isNegative then "-"
  else if directive.flags.contains '+' then "+"
  else if directive.flags.contains ' ' then " "
  else ""

def Directive.integer (directive : Directive) (value : Int) : String :=
  let isSigned := directive.letter = 'd' || directive.letter = 'i'
  let base := match directive.letter with
    | 'o' => 8
    | 'x' | 'X' => 16
    | _ => 10
  let digits := String.ofList (Nat.toDigits base value.natAbs)
  let digits := if directive.letter = 'X' then digits.toUpper else digits
  let digits := match directive.precision with
    | some 0 => if value = 0 then "" else digits
    | some precision => filledLeft precision '0' digits
    | none => digits
  let digits := if directive.flags.contains '#' ∧ base = 8 ∧ digits.toList.head? ≠ some '0' then "0" ++ digits
    else digits
  let mark := if directive.flags.contains '#' ∧ base = 16 ∧ value ≠ 0 then "0" ++ directive.letter.toString
    else ""
  let sign := if isSigned then directive.sign (value < 0) else mark
  directive.setNumber sign digits directive.precision.isNone

def Directive.decimal (directive : Directive) (isNegative : Bool) (value : Quotient) : String :=
  let precision := directive.precision.getD 6
  let text := match directive.letter with
    | 'e' | 'E' => value.exponential precision
    | 'g' | 'G' => value.general precision
    | _ => value.fixed precision
  directive.setNumber (directive.sign isNegative)
    (if directive.letter.isUpper then text.toUpper else text) true

structure Filling where
  text : String
  arguments : List String
  complaints : List String
  goesOn : Bool
  fault : Option String
  asked : Bool

def Directive.fill? (directive : Directive) (argument : Option String) :
    Option (String × List String × Bool) :=
  let text := argument.getD ""
  let cut (text : String) : String := match directive.precision with
    | some precision => String.ofList (text.toList.take precision)
    | none => text
  let complaint (fault : Option ArgumentFault) : List String :=
    fault.toList.map fun fault => text ++ ": " ++ fault.message
  match directive.letter with
  | 's' => some (directive.set (cut text), [], true)
  | 'c' => some (directive.set (String.ofList [text.toList.headD '\x00']), [], true)
  | 'b' =>
    let (text, goesOn) := unescaped (text.length + 1) text.toList
    some (directive.set (cut (String.ofList text)), [], goesOn)
  | 'd' | 'i' | 'o' | 'u' | 'x' | 'X' =>
    let (value, fault) := integerArgument (directive.letter = 'd' || directive.letter = 'i') text
    some (directive.integer value, complaint fault, true)
  | 'e' | 'E' | 'f' | 'F' | 'g' | 'G' =>
    match leadingDecimal? text.toList with
    | some (isNegative, value, rest) =>
      some (directive.decimal isNegative value, complaint (if rest = [] then none else some .notWhollyNumber),
        true)
    | none => some (directive.decimal false ⟨0, 1⟩, complaint (if text = "" then none else some .notNumber),
        true)
  | _ => none

def directiveNumber (format : List Char) (arguments : List String) : Option Int × List Char × List String :=
  match format with
  | '*' :: rest => ((integerArgument true (arguments.headD "")).1, rest, arguments.tail)
  | format =>
    let digits := format.takeWhile Char.isDigit
    (if digits = [] then none else some (Text.decimalValue digits : Int), format.drop digits.length, arguments)

def fillOnce : Nat → List Char → List String → Filling
  | 0, _, arguments | _, [], arguments => ⟨"", arguments, [], true, none, false⟩
  | steps + 1, '\\' :: rest, arguments =>
    let (c, after) := (escape? rest).getD ('\\', rest)
    let filling := fillOnce steps after arguments
    { filling with text := c.toString ++ filling.text }
  | steps + 1, '%' :: '%' :: rest, arguments =>
    let filling := fillOnce steps rest arguments
    { filling with text := "%" ++ filling.text }
  | steps + 1, '%' :: rest, arguments =>
    let flags := rest.takeWhile fun c => "#-+ 0".toList.contains c
    let (width, after, left) := directiveNumber (rest.drop flags.length) arguments
    let (precision, after, left) := match after with
      | '.' :: after =>
        let (precision, after, left) := directiveNumber after left
        (some (precision.getD 0), after, left)
      | after => (none, after, left)
    let width := width.getD 0
    let flags := if width < 0 then '-' :: flags else flags
    match after with
    | [] => ⟨"", left, [], false, some "missing format character", true⟩
    | letter :: after =>
      let precision := (precision.filter (0 ≤ ·)).map Int.toNat
      let directive : Directive := ⟨flags, width.natAbs, precision, letter⟩
      match directive.fill? left.head? with
      | none =>
        let written := '%' :: rest.take (rest.length - after.length)
        ⟨"", left, [], false, some (String.ofList written ++ ": invalid directive"), true⟩
      | some (text, complaints, goesOn) =>
        if goesOn then
          let filling := fillOnce steps after left.tail
          { filling with
            text := text ++ filling.text
            complaints := complaints ++ filling.complaints
            asked := true }
        else ⟨text, left.tail, complaints, false, none, true⟩
  | steps + 1, c :: rest, arguments =>
    let filling := fillOnce steps rest arguments
    { filling with text := c.toString ++ filling.text }

def fillFormat : Nat → String → List String → Filling
  | 0, _, arguments => ⟨"", arguments, [], true, none, false⟩
  | steps + 1, format, arguments =>
    let filling := fillOnce (format.length + 1) format.toList arguments
    if filling.goesOn ∧ filling.asked ∧ filling.arguments ≠ [] then
      let more := fillFormat steps format filling.arguments
      { more with
        text := filling.text ++ more.text
        complaints := filling.complaints ++ more.complaints }
    else filling

end TableScript.Shell
