import TableScript.Text.Blank
import TableScript.Text.Numeral

/-! Selection expressions: `*`, `4`, `(4..6)` and `[4,6]`, with gaps allowed between the tokens. -/
namespace TableScript

inductive Selection where
  | all
  | single (id : Nat)
  | range (first last : Nat)
  | list (ids : List Nat)
  deriving DecidableEq, Repr

namespace Selection

def isGapChar (c : Char) : Bool := c == ' ' || c == '\t' || c == '\r' || c == '\n'

def dropGap (text : List Char) : List Char := text.dropWhile isGapChar

/-- Reads one or more decimal digits. A value beyond the largest word counts as that word. -/
def number? (text : List Char) : Option (Nat × List Char) :=
  if text.takeWhile Char.isDigit = [] then none
  else some (Text.cappedValue (text.takeWhile Char.isDigit), text.dropWhile Char.isDigit)

def ends (bracket : Char) (text : List Char) : Bool :=
  match dropGap text with
  | c :: rest => c == bracket && (dropGap rest).isEmpty
  | [] => false

def range? (text : List Char) : Option Selection := do
  let (first, rest) ← number? (dropGap text)
  match dropGap rest with
  | '.' :: '.' :: rest =>
    let (last, rest) ← number? (dropGap rest)
    if ends ')' rest then some (.range first last) else none
  | _ => none

theorem length_dropGap_le (text : List Char) : (dropGap text).length ≤ text.length :=
  (List.dropWhile_sublist _).length_le

theorem length_lt_of_number? {text rest : List Char} {value : Nat}
    (read : number? text = some (value, rest)) : rest.length < text.length := by
  unfold number? at read
  split at read
  · contradiction
  · rename_i nonempty
    cases read
    have split := congrArg List.length (List.takeWhile_append_dropWhile (p := Char.isDigit) (l := text))
    have := List.length_pos_iff.mpr nonempty
    simp only [List.length_append] at split
    omega

def items? (text : List Char) : Option (List Nat) :=
  match _read : number? text with
  | none => none
  | some (id, rest) =>
    if ends ']' rest then some [id]
    else match _next : dropGap rest with
      | ',' :: tail => (items? (dropGap tail)).map (id :: ·)
      | _ => none
termination_by text.length
decreasing_by
  have shorter := length_lt_of_number? _read
  have gap := length_dropGap_le rest
  have inner := length_dropGap_le tail
  rw [_next, List.length_cons] at gap
  omega

def read? (text : List Char) : Option Selection :=
  match dropGap text with
  | '*' :: rest => if (dropGap rest).isEmpty then some .all else none
  | '(' :: rest => range? rest
  | '[' :: rest => (items? (dropGap rest)).map .list
  | text => match number? text with
    | some (id, rest) => if (dropGap rest).isEmpty then some (.single id) else none
    | none => none

end Selection

end TableScript
