import TableScript.Text.Alphanumeric
import TableScript.Text.Case

/-! Class case: the words of a table name joined, each with a capital first letter. Only ASCII
letters change their case, but where a word begins depends on the case of any letter. -/
namespace TableScript.Model

/-- What the conversion knows between two characters: whether the next letter begins a word, the
last letter that was kept inside a word, and whether anything was written yet. -/
structure Case where
  atWord : Bool
  last : Char
  found : Bool

namespace Case

def start : Case := ⟨true, ' ', false⟩

/-- Takes one character and tells what is written for it. A number ends a word and stands for
itself; another separator ends a word only once something is written. -/
def step (state : Case) (c : Char) : Option Char × Case :=
  if !Text.isAlphanumeric c then (none, { state with atWord := state.atWord || state.found })
  else if Text.isNumeric c then (some c, { state with atWord := true, found := true })
  else if state.atWord || (Text.isLowercase state.last && Text.isUppercase c) then
    (some c.toUpper, { state with atWord := false, found := true })
  else (some c.toLower, { state with last := c, found := true })

def write (state : Case) : List Char → List Char
  | [] => []
  | c :: rest => match state.step c with
    | (some written, next) => written :: next.write rest
    | (none, next) => next.write rest

end Case

def dropTrailing (text : List Char) : List Char :=
  (text.reverse.dropWhile fun c => !Text.isAlphanumeric c).reverse

def joinWords (name : List Char) : List Char := Case.start.write (dropTrailing name)

end TableScript.Model
