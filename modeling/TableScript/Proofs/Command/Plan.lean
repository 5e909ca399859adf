import TableScript.Command.Plan
import TableScript.Proofs.Script
import TableScript.Proofs.Selection.Scripts
import TableScript.Proofs.Text.Json

/-! The listed scripts of a plan and their printed form. A reader of JSON finds the entries in it, and
their scripts with an empty line after each are what a plan prints and copies as text. -/
namespace TableScript.Command

namespace Entry

def ofTable (options : ScriptOptions) (table : Table) : Entry :=
  ⟨table.id, table.command options, table.name⟩

def record (entry : Entry) : Data :=
  .record [("id", .number (toString entry.id)), ("script", .text entry.script), ("table", .text entry.table)]

/-- The text of an entry up to its number, up to its script, up to its table, and to its end. -/
theorem toList_json_append (entry : Entry) (rest : List Char) :
    entry.json.toList ++ rest = ' ' :: ' ' :: '{' :: ("\n    \"id\":".toList ++ ' ' ::
      ((toString entry.id).toList ++ ',' :: ("\n    \"script\":".toList ++ ' ' ::
        ((Text.jsonString entry.script).toList ++ ',' :: ("\n    \"table\":".toList ++ ' ' ::
          ((Text.jsonString entry.table).toList ++ '\n' :: ' ' :: ' ' :: '}' :: rest)))))) := by
  have opening : r"  {".toList = [' ', ' ', '{'] := by decide
  have first : "\n    \"id\": ".toList = "\n    \"id\":".toList ++ [' '] := by decide
  have second : ",\n    \"script\": ".toList = ',' :: "\n    \"script\":".toList ++ [' '] := by decide
  have third : ",\n    \"table\": ".toList = ',' :: "\n    \"table\":".toList ++ [' '] := by decide
  have closing : "\n".toList = ['\n'] ∧ r"  }".toList = [' ', ' ', '}'] := by decide
  simp only [json, String.toList_append, opening, first, second, third, closing.1, closing.2,
    List.append_assoc, List.cons_append, List.nil_append]

/-- An entry is read back, whatever follows it. -/
theorem value?_json (entry : Entry) (rest : List Char) (steps : Nat) :
    Json.value? (steps + 5) (entry.json.toList ++ rest) = some (entry.record, rest) := by
  have names (text : List Char) :
      Json.string? (Json.dropSpace ("\n    \"id\":".toList ++ text)) = some ("id", ':' :: text) ∧
        Json.string? (Json.dropSpace ("\n    \"script\":".toList ++ text)) = some ("script", ':' :: text) ∧
        Json.string? (Json.dropSpace ("\n    \"table\":".toList ++ text)) = some ("table", ':' :: text) :=
    ⟨rfl, rfl, rfl⟩
  have table := Json.value?_string steps entry.table ('\n' :: ' ' :: ' ' :: '}' :: rest)
  have tableField := Json.fields?_last (names _).2.2 table rfl
  have script := Json.value?_string (steps + 1) entry.script
  have scriptField := Json.fields?_more (names _).2.1 (script _) tableField
  have id := Json.value?_number (steps + 2) entry.id
  have fields := Json.fields?_more (names _).1 (id _) scriptField
  rw [toList_json_append]
  refine Json.value?_record rfl ?_ fields
  exact (by decide : some '"' ≠ some '}')

def listTail (entries : List Entry) : List Char :=
  entries.flatMap (fun entry => ',' :: '\n' :: entry.json.toList) ++ ['\n', ']', '\n']

theorem toList_jsonList (entry : Entry) (entries : List Entry) :
    (jsonList (entry :: entries)).toList = '[' :: '\n' :: (entry.json.toList ++ listTail entries) := by
  have rest : ∀ entry : Entry, (String.intercalate ",\n" ((entry :: entries).map json)).toList =
      entry.json.toList ++ entries.flatMap fun entry => ',' :: '\n' :: entry.json.toList := by
    induction entries with
    | nil => simp
    | cons next entries ih =>
      intro entry
      rw [List.map_cons, String.intercalate_cons_of_ne_nil (by simp), String.toList_append,
        String.toList_append, ih next]
      simp
  have opening : "[\n".toList = ['[', '\n'] := by decide
  have closing : "\n]\n".toList = ['\n', ']', '\n'] := by decide
  unfold jsonList
  simp only [String.toList_append, rest, opening, closing, listTail, List.append_assoc, List.cons_append,
    List.nil_append]

theorem listTail_cons (entry : Entry) (entries : List Entry) :
    listTail (entry :: entries) = ',' :: '\n' :: (entry.json.toList ++ listTail entries) := by
  simp [listTail]

theorem items?_listTail (entry : Entry) (entries : List Entry) (steps : Nat) :
    Json.items? (steps + entries.length + 6) (entry.json.toList ++ listTail entries) =
      some ((entry :: entries).map record, ['\n']) := by
  induction entries generalizing entry with
  | nil => exact Json.items?_last (value?_json entry _ _) rfl
  | cons next entries ih =>
    rw [listTail_cons]
    refine Json.items?_more (value?_json entry _ _) ?_
    rw [Json.items?_of_space rfl]
    exact ih next

theorem length_le_length_listTail (entries : List Entry) : entries.length + 3 ≤ (listTail entries).length := by
  induction entries with
  | nil => exact Nat.le_refl 3
  | cons entry entries ih =>
    simp only [listTail_cons, List.length_cons, List.length_append]
    omega

/-- A reader finds a list of entries as a list of their records. -/
theorem read?_jsonList (entries : List Entry) :
    Json.read? (jsonList entries) = some (.list (entries.map record)) := by
  cases entries with
  | nil => rfl
  | cons entry entries =>
    have begun : 3 ≤ entry.json.toList.length := by
      rw [← List.append_nil entry.json.toList, toList_json_append]
      simp only [List.length_cons]
      omega
    have tail := length_le_length_listTail entries
    obtain ⟨steps, length⟩ : ∃ steps,
        (entry.json.toList ++ listTail entries).length + 2 = steps + entries.length + 6 :=
      ⟨entry.json.toList.length + (listTail entries).length - entries.length - 4, by
        rw [List.length_append]
        omega⟩
    have items := items?_listTail entry entries steps
    rw [Json.read?, toList_jsonList, List.length_cons, List.length_cons, length]
    rw [Json.value?_list rfl ?_ ((Json.items?_of_space rfl).trans items)]
    · rfl
    · rw [toList_json_append]
      exact (by decide : some '{' ≠ some ']')

end Entry

namespace Plan

variable {plan : Plan} {tables : List Table} {options : ScriptOptions}

/-- No entry is lost: each number has its table and its script. -/
theorem entries_eq (found : plan.ids.map plan.catalogue.get? = tables.map some)
    (written : plan.scripts = tables.map (Table.script · options)) :
    plan.entries = tables.map (Entry.ofTable options) := by
  unfold entries
  rw [written]
  clear written
  generalize plan.ids = ids at found
  induction tables generalizing ids with
  | nil =>
    rw [List.map_nil, List.zip_nil_right]
    rfl
  | cons table tables ih =>
    cases ids with
    | nil => simp at found
    | cons id ids =>
      simp only [List.map_cons, List.cons.injEq] at found
      have number := (Catalogue.get?_eq_some_iff.mp found.1).2
      simp only [List.map_cons, List.zip_cons_cons, List.filterMap_cons, found.1, Option.map_some]
      rw [ih ids found.2]
      simp only [Entry.ofTable, trimmedEnd_script, number]

theorem body_eq (written : plan.scripts = tables.map (Table.script · options)) :
    plan.body = String.join ((tables.map (Entry.ofTable options)).map fun entry => entry.script ++ "\n\n") := by
  rw [body, written, List.map_map]
  rfl

/-- A reader finds the tables of a plan with their scripts, in order, in what is printed as JSON. -/
theorem read?_output (found : plan.ids.map plan.catalogue.get? = tables.map some)
    (written : plan.scripts = tables.map (Table.script · options)) (coloured : Bool) :
    Json.read? (plan.output .json coloured) =
      some (.list (tables.map fun table => (Entry.ofTable options table).record)) := by
  rw [output, entries_eq found written, Entry.read?_jsonList, List.map_map]
  rfl

end Plan

end TableScript.Command
