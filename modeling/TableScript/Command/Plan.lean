import TableScript.Command.Arguments
import TableScript.Script
import TableScript.Text.Blank
import TableScript.Text.JsonText
import TableScript.Text.Style

/-! What a run is going to hand out: the scripts of the selected tables, and their two printed
forms. -/
namespace TableScript.Command

structure Plan where
  catalogue : Catalogue
  ids : List Nat
  scripts : List String
  target : Target

structure Entry where
  id : Nat
  script : String
  table : String
  deriving DecidableEq, Repr

namespace Plan

def body (plan : Plan) : String := String.join plan.scripts

def entries (plan : Plan) : List Entry :=
  (plan.ids.zip plan.scripts).filterMap fun (id, script) =>
    (plan.catalogue.get? id).map fun table => ⟨id, Text.trimmedEnd script, table.name⟩

def heading (plan : Plan) (coloured : Bool) : String :=
  "\n" ++ Text.paint coloured [.bold, .green] ("Script for " ++ plan.target.generator ++ ":") ++ "\n\n"

end Plan

def Entry.json (entry : Entry) : String :=
  r"  {" ++ "\n    \"id\": " ++ toString entry.id ++
    ",\n    \"script\": " ++ Text.jsonString entry.script ++
    ",\n    \"table\": " ++ Text.jsonString entry.table ++ "\n" ++ r"  }"

def Entry.jsonList : List Entry → String
  | [] => "[]\n"
  | entries => "[\n" ++ String.intercalate ",\n" (entries.map Entry.json) ++ "\n]\n"

def Plan.output (plan : Plan) (format : Format) (coloured : Bool) : String :=
  match format with
  | .text => plan.heading coloured ++ plan.body
  | .json => Entry.jsonList plan.entries

end TableScript.Command
