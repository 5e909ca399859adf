import TableScript.Shell.State
import TableScript.Text.Numeral

/-! Arithmetic on integers of 64 bits. What goes beyond them wraps around; a numeral beyond them means
the greatest of them. -/
namespace TableScript.Shell

inductive Operation where
  | times | over | modulo | plus | minus | shiftLeft | shiftRight
  | less | lessEqual | greater | greaterEqual | equal | unequal
  | bitAnd | bitXor | bitOr
  deriving DecidableEq

inductive Expression where
  | number (value : Int)
  | name (name : String)
  | negative (operand : Expression)
  | complement (operand : Expression)
  | opposite (operand : Expression)
  | binary (operation : Operation) (left right : Expression)
  | both (left right : Expression)
  | either (left right : Expression)
  | choice (condition yes no : Expression)
  | assign (name : String) (operation : Option Operation) (value : Expression)

inductive Token where
  | number (value : Int)
  | name (name : String)
  | operator (spelling : String)
  | unknown
  deriving DecidableEq

def greatestInteger : Int := 9223372036854775807

def wrapped (value : Int) : Int := value.bmod 18446744073709551616

def digitsValue (base : Nat) (digits : List Char) : Nat := digits.foldl (fun value c =>
  value * base + if c.isDigit then c.toNat - '0'.toNat else c.toLower.toNat - 'a'.toNat + 10) 0

def isHexDigit (c : Char) : Bool := c.isDigit || ('a' ≤ c.toLower && c.toLower ≤ 'f')

def isOctalDigit (c : Char) : Bool := '0' ≤ c && c ≤ '7'

def leadingNumeral? (text : List Char) : Option (Int × List Char) :=
  let take (base : Nat) (isDigit : Char → Bool) (text : List Char) : Int × List Char :=
    (min (digitsValue base (text.takeWhile isDigit)) greatestInteger, text.dropWhile isDigit)
  match text with
  | '0' :: x :: c :: rest =>
    if (x = 'x' ∨ x = 'X') ∧ isHexDigit c then some (take 16 isHexDigit (c :: rest))
    else some (take 8 isOctalDigit text)
  | '0' :: _ => some (take 8 isOctalDigit text)
  | c :: _ => if c.isDigit then some (take 10 Char.isDigit text) else none
  | [] => none

def isSpace (c : Char) : Bool := c = ' ' || ('\t' ≤ c && c ≤ '\r')

/-- Reads an integer: white space, a sign and a numeral with nothing but white space after it. An empty
text is zero. -/
def integer? (text : String) : Option Int :=
  let text := text.toList.dropWhile isSpace
  let (isNegative, digits) := match text with
    | '-' :: rest => (true, rest)
    | '+' :: rest => (false, rest)
    | rest => (false, rest)
  if text = [] then some 0
  else match leadingNumeral? digits with
    | some (value, rest) =>
      if rest.all isSpace then some (if isNegative then -value else value) else none
    | none => none

def spellings : List String :=
  ["<<=", ">>=", "<<", ">>", "<=", ">=", "==", "!=", "&&", "||", "+=", "-=", "*=", "/=", "%=", "&=", "^=",
   "|=", "+", "-", "*", "/", "%", "<", ">", "&", "^", "|", "!", "~", "?", ":", "(", ")", "="]

def tokens : Nat → List Char → List Token
  | 0, _ | _, [] => []
  | steps + 1, c :: rest =>
    if isSpace c then tokens steps rest
    else if startsName c then
      .name (String.ofList ((c :: rest).takeWhile continuesName)) ::
        tokens steps (rest.dropWhile continuesName)
    else match leadingNumeral? (c :: rest) with
      | some (value, rest) => .number value :: tokens steps rest
      | none => match spellings.find? fun spelling => spelling.toList.isPrefixOf (c :: rest) with
        | some spelling => .operator spelling :: tokens steps ((c :: rest).drop spelling.length)
        | none => .unknown :: tokens steps rest

def operationLevels : List (List (String × Operation)) :=
  [[("|", .bitOr)], [("^", .bitXor)], [("&", .bitAnd)], [("==", .equal), ("!=", .unequal)],
   [("<", .less), ("<=", .lessEqual), (">", .greater), (">=", .greaterEqual)],
   [("<<", .shiftLeft), (">>", .shiftRight)], [("+", .plus), ("-", .minus)],
   [("*", .times), ("/", .over), ("%", .modulo)]]

def assignments : List (String × Option Operation) :=
  ("=", none) :: (operationLevels.flatten.filterMap fun (spelling, operation) =>
    if operation ∈ [.equal, .unequal, .less, .lessEqual, .greater, .greaterEqual] then none
    else some (spelling ++ "=", some operation))

abbrev Parsed := Except String (Expression × List Token)

namespace Expression

mutual

def readAssignment : Nat → List Token → Parsed
  | 0, _ => .error "expecting primary"
  | steps + 1, .name target :: .operator spelling :: rest =>
    match assignments.lookup spelling with
    | some operation => do
      let (value, rest) ← readAssignment steps rest
      return (.assign target operation value, rest)
    | none => readConditional steps (.name target :: .operator spelling :: rest)
  | steps + 1, tokens => readConditional steps tokens

def readConditional : Nat → List Token → Parsed
  | 0, _ => .error "expecting primary"
  | steps + 1, tokens => do
    let (condition, rest) ← readEither steps tokens
    match rest with
    | .operator "?" :: rest =>
      let (yes, rest) ← readAssignment steps rest
      match rest with
      | .operator ":" :: rest =>
        let (no, rest) ← readConditional steps rest
        return (.choice condition yes no, rest)
      | _ => throw "expecting ':'"
    | rest => return (condition, rest)

def readEither : Nat → List Token → Parsed
  | 0, _ => .error "expecting primary"
  | steps + 1, tokens => do
    let (left, rest) ← readBoth steps tokens
    match rest with
    | .operator "||" :: rest =>
      let (right, rest) ← readEither steps rest
      return (.either left right, rest)
    | rest => return (left, rest)

def readBoth : Nat → List Token → Parsed
  | 0, _ => .error "expecting primary"
  | steps + 1, tokens => do
    let (left, rest) ← readLevel steps operationLevels tokens
    match rest with
    | .operator "&&" :: rest =>
      let (right, rest) ← readBoth steps rest
      return (.both left right, rest)
    | rest => return (left, rest)

def readLevel : Nat → List (List (String × Operation)) → List Token → Parsed
  | 0, _, _ => .error "expecting primary"
  | steps + 1, [], tokens => readPrimary steps tokens
  | steps + 1, operations :: tighter, tokens => do
    let (left, rest) ← readLevel steps tighter tokens
    readMore steps operations tighter left rest

def readMore : Nat → List (String × Operation) → List (List (String × Operation)) → Expression →
    List Token → Parsed
  | 0, _, _, _, _ => .error "expecting primary"
  | steps + 1, operations, tighter, left, .operator spelling :: rest =>
    match operations.lookup spelling with
    | some operation => do
      let (right, rest) ← readLevel steps tighter rest
      readMore steps operations tighter (.binary operation left right) rest
    | none => .ok (left, .operator spelling :: rest)
  | _ + 1, _, _, left, rest => .ok (left, rest)

def readPrimary : Nat → List Token → Parsed
  | 0, _ => .error "expecting primary"
  | steps + 1, token :: rest =>
    match token with
    | .number value => .ok (.number value, rest)
    | .name wanted => .ok (.name wanted, rest)
    | .operator "(" => do
      let (inner, rest) ← readAssignment steps rest
      match rest with
      | .operator ")" :: rest => return (inner, rest)
      | _ => throw "expecting ')'"
    | .operator "+" => readPrimary steps rest
    | .operator "-" => return (← readPrimary steps rest).map .negative id
    | .operator "!" => return (← readPrimary steps rest).map .opposite id
    | .operator "~" => return (← readPrimary steps rest).map .complement id
    | _ => .error "expecting primary"
  | _, [] => .error "expecting primary"

end

def read (text : List Char) : Except String Expression := do
  let tokens := tokens (text.length + 1) text
  match ← readAssignment (64 * (tokens.length + 1)) tokens with
  | (expression, []) => return expression
  | _ => throw "expecting EOF"

end Expression

def toWord (value : Int) : Nat := (value % 18446744073709551616).toNat

def ofWord (word : Nat) : Int := wrapped word

def Operation.apply? (operation : Operation) (a b : Int) : Option Int :=
  let truth (holds : Bool) : Option Int := some (if holds then 1 else 0)
  match operation with
  | .times => some (wrapped (a * b))
  | .over => if b = 0 then none else some (wrapped (a.tdiv b))
  | .modulo => if b = 0 then none else some (wrapped (a.tmod b))
  | .plus => some (wrapped (a + b))
  | .minus => some (wrapped (a - b))
  | .shiftLeft => some (wrapped (a * Nat.pow 2 (toWord b % 64)))
  | .shiftRight => some (a.fdiv (Nat.pow 2 (toWord b % 64)))
  | .less => truth (a < b)
  | .lessEqual => truth (a ≤ b)
  | .greater => truth (b < a)
  | .greaterEqual => truth (b ≤ a)
  | .equal => truth (a = b)
  | .unequal => truth (a ≠ b)
  | .bitAnd => some (ofWord (Nat.land (toWord a) (toWord b)))
  | .bitXor => some (ofWord (Nat.xor (toWord a) (toWord b)))
  | .bitOr => some (ofWord (Nat.lor (toWord a) (toWord b)))

def numberOf (name : String) : Run Int := do
  let text := (← Run.held? name).getD ""
  match integer? text with
  | some value => return value
  | none => Run.refuse ("Illegal number: " ++ text)

def refuseExpression {α : Type} (text reason : String) : Run α :=
  Run.refuse ("arithmetic expression: " ++ reason ++ ": \"" ++ text ++ "\"")

def Expression.value (text : String) : Expression → Run Int
  | .number value => return value
  | .name wanted => numberOf wanted
  | .negative operand => return wrapped (-(← operand.value text))
  | .complement operand => return wrapped (-(← operand.value text) - 1)
  | .opposite operand => return if (← operand.value text) = 0 then 1 else 0
  | .binary operation left right => do
    let a ← left.value text
    let b ← right.value text
    apply operation a b
  | .both left right => do
    if (← left.value text) = 0 then return 0
    else return if (← right.value text) = 0 then 0 else 1
  | .either left right => do
    if (← left.value text) ≠ 0 then return 1
    else return if (← right.value text) = 0 then 0 else 1
  | .choice condition yes no => do
    if (← condition.value text) ≠ 0 then yes.value text else no.value text
  | .assign target operation value => do
    let given ← value.value text
    let result ← match operation with
      | some operation => do apply operation (← numberOf target) given
      | none => pure given
    Run.assign target (toString result)
    return result
where
  apply (operation : Operation) (a b : Int) : Run Int :=
    match operation.apply? a b with
    | some value => return value
    | none => refuseExpression text "division by zero"

def evaluate (text : String) : Run Int :=
  match Expression.read text.toList with
  | .ok expression => expression.value text
  | .error expected => refuseExpression text expected

end TableScript.Shell
