import TableScript.Shell.Arithmetic

/-! Conditions on texts, numbers and files, as `test` reads them from its arguments. -/
namespace TableScript.Shell

inductive Condition where
  | never
  | notEmpty (text : String)
  | unary (operator text : String)
  | binary (operator left right : String)
  | negation (condition : Condition)
  | both (left right : Condition)
  | either (left right : Condition)

abbrev ConditionParsed := Except String (Condition × List String)

def unaryOperators : List String :=
  ["-b", "-c", "-d", "-e", "-f", "-g", "-h", "-k", "-n", "-p", "-r", "-s", "-t", "-u", "-w", "-x", "-z", "-G",
   "-L", "-O", "-S"]

def binaryOperators : List String :=
  ["=", "!=", "<", ">", "-eq", "-ne", "-lt", "-le", "-gt", "-ge", "-nt", "-ot", "-ef"]

def isUnaryOperator (operator : String) (rest : List String) : Bool :=
  unaryOperators.contains operator && match rest with
    | [] => false
    | [_] => true
    | _ :: second :: _ => !binaryOperators.contains (rest.headD "") || second = ")"

namespace Condition

mutual

def readOr : Nat → List String → ConditionParsed
  | 0, _ => .error "closing paren expected"
  | steps + 1, arguments => do
    let (left, rest) ← readAnd steps arguments
    match rest with
    | "-o" :: rest =>
      let (right, rest) ← readOr steps rest
      return (.either left right, rest)
    | rest => return (left, rest)

def readAnd : Nat → List String → ConditionParsed
  | 0, _ => .error "closing paren expected"
  | steps + 1, arguments => do
    let (left, rest) ← readNot steps arguments
    match rest with
    | "-a" :: rest =>
      let (right, rest) ← readAnd steps rest
      return (.both left right, rest)
    | rest => return (left, rest)

def readNot : Nat → List String → ConditionParsed
  | 0, _ => .error "closing paren expected"
  | steps + 1, arguments =>
    match arguments with
    | "!" :: rest =>
      if (rest.head?.map binaryOperators.contains).getD false ∧ 2 ≤ rest.length then
        readPrimary steps arguments
      else do
        let (condition, rest) ← readNot steps rest
        return (.negation condition, rest)
    | arguments => readPrimary steps arguments

def readPrimary : Nat → List String → ConditionParsed
  | 0, _ => .error "closing paren expected"
  | _, [] => .ok (.never, [])
  | steps + 1, first :: rest =>
    if first = "(" ∧ rest ≠ [] ∧ !(2 ≤ rest.length ∧ (rest.head?.map binaryOperators.contains).getD false) then
      match rest with
      | ")" :: rest => .ok (.never, rest)
      | rest => do
        let (condition, rest) ← readOr steps rest
        match rest with
        | ")" :: rest => return (condition, rest)
        | _ => throw "closing paren expected"
    else if isUnaryOperator first rest then
      .ok (.unary first (rest.headD ""), rest.tail)
    else match rest with
      | operator :: after =>
        if binaryOperators.contains operator then
          match after with
          | right :: after => .ok (.binary operator first right, after)
          | [] => .error (operator ++ ": argument expected")
        else .ok (.notEmpty first, rest)
      | [] => .ok (.notEmpty first, [])

end

def read (arguments : List String) : Except String Condition := do
  let steps := 4 * arguments.length + 8
  match arguments with
  | [left, operator, right] =>
    if binaryOperators.contains operator then return .binary operator left right
  | ["!", "!", "!", text] => return .notEmpty text
  | _ => pure ()
  match ← readOr steps arguments with
  | (condition, []) => return condition
  | (_, rest) =>
    let place := arguments.length - rest.length
    throw ((arguments[place - 1]?.getD "") ++ ": unexpected operator")

def decimal? (text : String) : Option Int :=
  let text := text.toList.dropWhile isSpace
  let (isNegative, text) := match text with
    | '-' :: rest => (true, rest)
    | '+' :: rest => (false, rest)
    | rest => (false, rest)
  let digits := text.takeWhile Char.isDigit
  let value : Int := Text.decimalValue digits
  if digits ≠ [] ∧ (text.drop digits.length).all isSpace ∧ value ≤ greatestInteger then
    some (if isNegative then -value else value)
  else none

def number (text : String) : ExceptT String Run Int :=
  match decimal? text with
  | some value => return value
  | none => throw ("Illegal number: " ++ text)

def unaryHolds (operator text : String) : ExceptT String Run Bool := do
  let isDevice := ["/dev/null", "/dev/tty", "/dev/zero"].contains text
  let node := (← Run.nodeOf text true).toOption
  let isDirectory := (node.map fun (_, node) => node.isDirectory).getD false
  match operator with
  | "-n" => return text ≠ ""
  | "-z" => return text = ""
  | "-t" =>
    discard (number text)
    return false
  | "-e" | "-r" | "-w" | "-O" | "-G" => return node.isSome || isDevice
  | "-f" => return node.isSome && !isDirectory
  | "-d" => return isDirectory
  | "-x" => return isDirectory || ((← Run.machine).executables.contains ((node.map Prod.fst).getD []))
  | "-s" => return match node with
      | some (_, .file bytes) => !bytes.isEmpty
      | some (_, .directory _) => true
      | _ => false
  | "-h" | "-L" => return match ← Run.nodeOf text false with
      | .ok (_, .link _) => true
      | _ => false
  | "-c" => return isDevice
  | _ => return false

def binaryHolds (operator left right : String) : ExceptT String Run Bool := do
  match operator with
  | "=" => return left = right
  | "!=" => return left ≠ right
  | "<" => return left < right
  | ">" => return right < left
  | "-ef" => return match ← Run.nodeOf left true, ← Run.nodeOf right true with
      | .ok (first, _), .ok (second, _) => first == second
      | _, _ => false
  | "-nt" | "-ot" => return false
  | operator =>
    let a ← number left
    let b ← number right
    return match operator with
      | "-eq" => decide (a = b)
      | "-ne" => decide (a ≠ b)
      | "-lt" => decide (a < b)
      | "-le" => decide (a ≤ b)
      | "-gt" => decide (b < a)
      | _ => decide (b ≤ a)

def holds : Condition → ExceptT String Run Bool
  | .never => return false
  | .notEmpty text => return text ≠ ""
  | .unary operator text => unaryHolds operator text
  | .binary operator left right => binaryHolds operator left right
  | .negation condition => return !(← condition.holds)
  | .both left right => do
    let first ← left.holds
    let second ← right.holds
    return first && second
  | .either left right => do
    let first ← left.holds
    let second ← right.holds
    return first || second

end Condition

end TableScript.Shell
