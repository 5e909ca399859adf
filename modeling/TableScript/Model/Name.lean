import TableScript.Model.ClassCase
import TableScript.Model.Singular

/-! The model that belongs to a table. -/
namespace TableScript.Model

def splitLastWord (text : List Char) : List Char × List Char :=
  let tail := (text.reverse.takeWhile fun c => !Text.isUppercase c).reverse
  match text.reverse.dropWhile fun c => !Text.isUppercase c with
  | [] => ([], tail)
  | capital :: before => (before.reverse, capital :: tail)

def className (table : String) : String :=
  let (before, word) := splitLastWord (joinWords table.toList)
  String.ofList (before ++ singular word)

end TableScript.Model
