/-! Text in styles and colours for a terminal. -/
namespace TableScript.Text

inductive Style where
  | bold
  | dimmed
  | red
  | green
  | yellow
  | cyan
  | white
  deriving DecidableEq

def Style.code : Style → String
  | .bold => "1"
  | .dimmed => "2"
  | .red => "31"
  | .green => "32"
  | .yellow => "33"
  | .cyan => "36"
  | .white => "37"

def styleEnd : String := "\x1b[0m"

def styleStart (styles : List Style) : String :=
  "\x1b[" ++ String.intercalate ";" (styles.map Style.code) ++ "m"

/-- A text in styles, or as it is when colours are off. Where the text itself ends all styles, they
begin anew. -/
def paint (coloured : Bool) (styles : List Style) (text : String) : String :=
  if coloured then
    styleStart styles ++
      String.intercalate (styleEnd ++ styleStart styles) (text.splitOn styleEnd) ++ styleEnd
  else text

def padStart (width : Nat) (text : String) : String :=
  String.ofList (List.replicate (width - text.length) ' ') ++ text

end TableScript.Text
