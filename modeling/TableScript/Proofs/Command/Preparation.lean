import TableScript.Command.Session
import TableScript.Proofs.Input
import TableScript.Proofs.Script
import TableScript.Proofs.Selection.Scripts
import TableScript.Proofs.Text.Utf8

/-! Which plan a run comes to. Parts of a dialogue share one input: what one part reads, the parts
after it do not find any more. -/
namespace TableScript

namespace Command

namespace Dialogue

variable {α β ε : Type}

/-- Each part of a dialogue goes on with the input that the part before it left. -/
theorem hold_bind (first : Dialogue α) (next : α → Dialogue β) (input : Input) :
    (first.bind next).hold input =
      let before := first.hold input
      let rest := (next before.result).hold before.input
      { rest with shown := before.shown ++ rest.shown } := by
  induction first generalizing input with
  | done result => simp [bind, hold]
  | tell text rest ih => simp [bind, hold, ih, String.append_assoc]
  | ask reply ih => simp [bind, hold, ih]

theorem result_andThen_of_ok {first : Dialogue (Except ε α)} {input : Input} {before : α}
    (succeeds : (first.hold input).result = .ok before) (next : α → Dialogue (Except ε β)) :
    ((first.andThen next).hold input).result =
      ((next before).hold (first.hold input).input).result := by
  simp [andThen, hold_bind, succeeds]

theorem input_andThen_of_ok {first : Dialogue (Except ε α)} {input : Input} {before : α}
    (succeeds : (first.hold input).result = .ok before) (next : α → Dialogue (Except ε β)) :
    ((first.andThen next).hold input).input = ((next before).hold (first.hold input).input).input := by
  simp [andThen, hold_bind, succeeds]

theorem result_andThen_of_error {first : Dialogue (Except ε α)} {input : Input} {failure : ε}
    (fails : (first.hold input).result = .error failure) (next : α → Dialogue (Except ε β)) :
    ((first.andThen next).hold input).result = .error failure := by
  simp [andThen, hold_bind, fails, hold]

theorem result_andThen_eq_ok_iff {first : Dialogue (Except ε α)} {next : α → Dialogue (Except ε β)}
    {input : Input} {result : β} :
    ((first.andThen next).hold input).result = .ok result ↔ ∃ before,
      (first.hold input).result = .ok before ∧
        ((next before).hold (first.hold input).input).result = .ok result := by
  cases held : (first.hold input).result with
  | ok before => simp [result_andThen_of_ok held]
  | error failure => simp [result_andThen_of_error held]

end Dialogue

/-- The plans that all preparing steps lead to: settings are loaded, a schema file is chosen and
read, its tables are loaded, some of them are selected, and each of these has its script. -/
inductive Prepared (surroundings : Surroundings) (arguments : Arguments) (input : Input) :
    Plan → Prop where
  | intro {settings : Settings} {path : Path} {left : Input} {text : String}
      {catalogue : Catalogue} {ids : List Nat} {scripts : List String}
      (configured : Settings.load surroundings.files surroundings.userDirectory = .ok settings)
      (chosen : ((schemaPath surroundings (arguments.path.getD settings.searchRoot)).hold input).result =
        .ok path)
      (remaining : ((schemaPath surroundings (arguments.path.getD settings.searchRoot)).hold input).input =
        left)
      (found : surroundings.files.readText path = .ok text)
      (loaded : Schema.load text = .ok catalogue)
      (selected : ((tableIds surroundings.coloured arguments catalogue).hold left).result = .ok ids)
      (written : catalogue.scripts ids (scriptOptions arguments settings) = .ok scripts) :
      Prepared surroundings arguments input
        ⟨catalogue, ids, scripts, (scriptOptions arguments settings).target⟩

variable {surroundings : Surroundings} {arguments : Arguments} {input : Input} {prepared : Plan}

theorem loadSchema_eq_ok_iff {files : FileSystem} {path : Path} {catalogue : Catalogue} :
    loadSchema files path = .ok catalogue ↔
      ∃ text, files.readText path = .ok text ∧ Schema.load text = .ok catalogue := by
  unfold loadSchema
  cases files.readText path with
  | error fault => simp
  | ok text => cases loaded : Schema.load text <;> simp [loaded, Except.mapError]

/-- Announcing the path takes nothing from the input. -/
theorem hold_announce (arguments : Arguments) (input : Input) (coloured : Bool) (path : Path) :
    ((announce coloured arguments path).hold input).result = .ok () ∧
      ((announce coloured arguments path).hold input).input = input := by
  unfold announce
  split <;> exact ⟨rfl, rfl⟩

theorem result_planFor_eq_ok_iff {settings : Settings} {path : Path} :
    ((planFor surroundings arguments settings path).hold input).result = .ok prepared ↔
      ∃ catalogue ids scripts, loadSchema surroundings.files path = .ok catalogue ∧
        ((tableIds surroundings.coloured arguments catalogue).hold input).result = .ok ids ∧
        catalogue.scripts ids (scriptOptions arguments settings) = .ok scripts ∧
        prepared = ⟨catalogue, ids, scripts, (scriptOptions arguments settings).target⟩ := by
  obtain ⟨announced, untouched⟩ := hold_announce arguments input surroundings.coloured path
  rw [planFor, Dialogue.result_andThen_eq_ok_iff, announced, untouched]
  cases loadSchema surroundings.files path with
  | error refusal => simp [Dialogue.hold]
  | ok catalogue =>
    simp only [Dialogue.result_andThen_eq_ok_iff, Dialogue.hold, Except.ok.injEq]
    constructor
    · rintro ⟨_, _, ids, selected, planned⟩
      cases written : catalogue.scripts ids (scriptOptions arguments settings) with
      | error failure => simp [written] at planned
      | ok scripts =>
        rw [written, Except.ok.injEq] at planned
        exact ⟨catalogue, ids, scripts, rfl, selected, written, planned.symm⟩
    · rintro ⟨_, ids, scripts, rfl, selected, written, rfl⟩
      exact ⟨(), trivial, ids, selected, by rw [written]⟩

theorem result_plan_eq_ok_iff :
    ((plan surroundings arguments).hold input).result = .ok prepared ↔
      Prepared surroundings arguments input prepared := by
  unfold plan
  cases configured : Settings.load surroundings.files surroundings.userDirectory with
  | error failure =>
    simp only [Dialogue.hold, reduceCtorEq, false_iff]
    intro made
    cases made with
    | intro loads => simp [loads] at configured
  | ok settings =>
    simp only [Dialogue.result_andThen_eq_ok_iff, result_planFor_eq_ok_iff, loadSchema_eq_ok_iff]
    constructor
    · rintro ⟨path, chosen, catalogue, ids, scripts, ⟨text, found, loaded⟩, selected, written, rfl⟩
      exact .intro configured chosen rfl found loaded selected written
    · intro made
      cases made with
      | intro loads chosen remaining found loaded selected written =>
        obtain rfl := Except.ok.inj (configured.symm.trans loads)
        subst remaining
        exact ⟨_, chosen, _, _, _, ⟨_, found, loaded⟩, selected, written, rfl⟩

/-- A prepared plan has the script of a table for each of its numbers. -/
theorem Prepared.exists_tables (made : Prepared surroundings arguments input prepared) :
    ∃ (tables : List Table) (options : ScriptOptions),
      prepared.ids.map prepared.catalogue.get? = tables.map some ∧
        prepared.scripts = tables.map (Table.script · options) := by
  cases made with
  | intro _ _ _ _ _ _ written =>
    obtain ⟨tables, found, scripts⟩ := Catalogue.scripts_eq_ok_iff.mp written
    exact ⟨tables, _, found, scripts⟩

theorem Prepared.exists_text (made : Prepared surroundings arguments input prepared) :
    ∃ text, prepared.catalogue = (Schema.read text).catalogue := by
  cases made with
  | @intro _ _ _ text _ _ _ _ _ _ _ loaded =>
    refine ⟨text, ?_⟩
    rw [Schema.load] at loaded
    split at loaded
    · contradiction
    · exact (Except.ok.inj loaded).symm

/-- The commands of a prepared plan are all its scripts, trimmed. -/
theorem Prepared.commandsOf_scripts (made : Prepared surroundings arguments input prepared) :
    commandsOf prepared.scripts = prepared.scripts.map Text.trimmed := by
  obtain ⟨tables, options, _, scripts⟩ := made.exists_tables
  rw [scripts, TableScript.commandsOf_scripts, List.map_map]
  exact List.map_congr_left fun table _ => (trimmed_script table options).symm

section Directory

def schemaFile : Path := .ofString "schema.rb"

def Surroundings.ofSchema (text : String) : Surroundings :=
  let root := FileNode.directory [(schemaFile.bytes, .file (Text.encodeString text))]
  ⟨⟨root, root, []⟩, none, false⟩

theorem readText_ofSchema (text : String) :
    (Surroundings.ofSchema text).files.readText schemaFile = .ok text := by
  have route : FileSystem.route schemaFile = [schemaFile.bytes] := by decide +kernel
  have resolved : (Surroundings.ofSchema text).files.resolve schemaFile =
      .ok (.file (Text.encodeString text)) := by
    simp only [FileSystem.resolve, route, Surroundings.ofSchema, FileSystem.follow]
    rfl
  have decoded : Text.decodeString (Text.encodeString text) = some text := by
    rw [Text.decodeString, Text.encodeString, Text.decode_encode, Option.map_some, String.ofList_toList]
  simp only [FileSystem.readText, FileSystem.read, resolved, decoded]

theorem settings_ofSchema (text : String) :
    Settings.load (Surroundings.ofSchema text).files none = .ok .default := by
  have route : FileSystem.route Settings.localFile = [Settings.localFile.bytes] := by decide +kernel
  have absent : (Surroundings.ofSchema text).files.isFile Settings.localFile = false := by
    simp only [FileSystem.isFile, FileSystem.resolve, route, Surroundings.ofSchema, FileSystem.follow]
    rfl
  simp [Settings.load, Settings.candidates, absent]

theorem prepared_ofSchema {text expression : String} {arguments : Arguments} {ids : List Nat}
    {scripts : List String} (input : Input) (named : arguments.path = some schemaFile) (untold : arguments.table = none)
    (asked : arguments.select = some expression)
    (declares : (Schema.read text).catalogue.isEmpty = false)
    (selected : (Schema.read text).catalogue.select expression = .ok ids)
    (written : (Schema.read text).catalogue.scripts ids (scriptOptions arguments .default) = .ok scripts) :
    Prepared (.ofSchema text) arguments input
      ⟨(Schema.read text).catalogue, ids, scripts, (scriptOptions arguments .default).target⟩ := by
  have chosen : schemaPath (.ofSchema text) (arguments.path.getD Settings.default.searchRoot) =
      .done (.ok schemaFile) := by
    have schema : schemaFile.isSchemaFile = true := by decide +kernel
    simp [named, schemaPath, schema]
  have loaded : Schema.load text = .ok (Schema.read text).catalogue := by simp [Schema.load, declares]
  refine .intro (settings_ofSchema text) (chosen ▸ rfl) rfl (readText_ofSchema text) loaded ?_ written
  simp [tableIds, untold, asked, Command.selected, selected, Dialogue.hold, Except.mapError]

def threeTables : String := "create_table :users\ncreate_table :teams\ncreate_table :jobs"

theorem prepared_threeTables {arguments : Arguments} (input : Input) (named : arguments.path = some schemaFile)
    (untold : arguments.table = none) (asked : arguments.select = some "[3,1,2]")
    (plain : scriptOptions arguments .default = .default) :
    Prepared (.ofSchema threeTables) arguments input
      ⟨(Schema.read threeTables).catalogue, [3, 1, 2],
        ["Job", "User", "Team"].map ("rails generate scaffold " ++ · ++ " --no-migration\n\n"),
        .scaffold⟩ := by
  have selected : (Schema.read threeTables).catalogue.select "[3,1,2]" = .ok [3, 1, 2] := by
    decide +kernel
  have written : (Schema.read threeTables).catalogue.scripts [3, 1, 2] .default =
      .ok (["Job", "User", "Team"].map ("rails generate scaffold " ++ · ++ " --no-migration\n\n")) := by
    decide +kernel
  rw [← plain] at written
  have made := prepared_ofSchema input named untold asked (by decide +kernel) selected written
  rwa [plain] at made

end Directory

end Command

end TableScript
