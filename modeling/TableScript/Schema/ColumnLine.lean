import TableScript.Catalogue
import TableScript.Schema.Name

/-! Column lines: `t.KIND NAME` and `t.column NAME, KIND`. What follows on the line is ignored. -/
namespace TableScript.Schema

def otherMethods : List String :=
  ["index", "check_constraint", "exclusion_constraint", "unique_constraint", "foreign_key",
   "timestamps"]

def statedKind? (text : List Char) : Option (List Char) :=
  match dropGap text with
  | ',' :: rest => (name? isIdentifierChar (dropGap rest)).map Prod.fst
  | _ => none

def column? (line : List Char) : Option Column := do
  let rest ← after? "t.".toList line
  let (method, rest) ← identifier? rest
  if String.ofList method ∈ otherMethods then none
  else
    let rest ← separator? rest
    let (name, rest) ← name? isIdentifierChar rest
    if String.ofList method = "column" then
      let kind ← statedKind? rest
      some ⟨String.ofList name, String.ofList kind⟩
    else some ⟨String.ofList name, String.ofList method⟩

end TableScript.Schema
