import TableScript.Proofs.Command.Arguments
import TableScript.Proofs.Command.Channels
import TableScript.Proofs.Command.SchemaChoice
import TableScript.Proofs.Selection.Spacing

/-! Selecting tables by an argument and by an answer. An answer is trimmed before it is read and an argument
is not, so the two runs do the same work unless white space around the expression is no gap. -/
namespace TableScript.Command

section Answers

variable (coloured : Bool) {text : String} {input : Input} {left : List UInt8}
  (unbroken : '\n' ∉ text.toList) (begins : input.bytes = Text.encodeString text ++ lineFeed :: left)

include unbroken begins

/-- A line of a text without line breaks is taken whole, and answers with the text trimmed. -/
theorem result_question_of_line (shown : String) :
    ((question coloured shown).hold input).result = .ok (Text.trimmed text) := by
  have line : lineFeed ∉ Text.encodeString text := fun member =>
    unbroken (Text.mem_of_mem_encode (by decide) member)
  have bytes : Text.encodeString text ++ [lineFeed] = Text.encode (text.toList ++ ['\n']) :=
    (Text.encode_append text.toList ['\n']).symm
  have answered : Answer.ofLine (Text.encodeString text ++ [lineFeed]) =
      .line (String.ofList (text.toList ++ ['\n'])) :=
    ofLine_eq_line_iff.mpr ⟨by simp, bytes ▸ Text.decode_encode _⟩
  have blank : Text.AllBlank ['\n'] := by decide
  rw [result_question_eq_ok_iff, (Input.line_of_firstLine (begins ▸ FirstLine.broken line)).1]
  exact ⟨_, answered, by rw [Text.trim_append_right blank, Text.trimmed]⟩

/-- Tables are chosen by an answer as by the trimmed expression. -/
theorem hold_chooseTables_of_line (catalogue : Catalogue) :
    ((chooseTables coloured catalogue).hold input).result = selected catalogue (Text.trimmed text) ∧
      ((chooseTables coloured catalogue).hold input).input = input.afterLine := by
  have answered := result_question_of_line coloured unbroken begins "Select a table: "
  simp only [chooseTables, Dialogue.hold]
  rw [Dialogue.result_andThen_of_ok answered, Dialogue.input_andThen_of_ok answered]
  exact ⟨rfl, input_question coloured "Select a table: "⟩

end Answers

section Plans

variable {surroundings : Surroundings} {arguments : Arguments} {select other : Option String}
  {path : Path} {input left : Input}
  (same : ∀ catalogue,
    ((tableIds surroundings.coloured { arguments with select } catalogue).hold input).result =
      ((tableIds surroundings.coloured { arguments with select := other } catalogue).hold left).result)

include same

/-- Planning reads the selection, and the input, only to choose the tables. -/
theorem hold_planFor_of_tableIds (settings : Settings) :
    let first := (planFor surroundings { arguments with select } settings path).hold input
    let second := (planFor surroundings { arguments with select := other } settings path).hold left
    first.result = second.result ∧
      ((∀ catalogue,
          ((tableIds surroundings.coloured { arguments with select } catalogue).hold input).input.unread =
            ((tableIds surroundings.coloured
              { arguments with select := other } catalogue).hold left).input.unread) →
        (∃ refusal, second.result = .error refusal) ∨ first.input.unread = second.input.unread) := by
  obtain ⟨announced, untouched⟩ :=
    hold_announce { arguments with select } input surroundings.coloured path
  obtain ⟨announcedOther, untouchedOther⟩ :=
    hold_announce { arguments with select := other } left surroundings.coloured path
  dsimp only
  rw [planFor, planFor, Dialogue.result_andThen_of_ok announced, Dialogue.result_andThen_of_ok announcedOther,
    Dialogue.input_andThen_of_ok announced, Dialogue.input_andThen_of_ok announcedOther, untouched,
    untouchedOther]
  cases loadSchema surroundings.files path with
  | error refusal => exact ⟨rfl, fun _ => .inl ⟨refusal, rfl⟩⟩
  | ok catalogue =>
    cases chosen : ((tableIds surroundings.coloured { arguments with select } catalogue).hold input).result with
    | error refusal =>
      have refused := (same catalogue).symm.trans chosen
      rw [Dialogue.result_andThen_of_error chosen, Dialogue.result_andThen_of_error refused]
      exact ⟨rfl, fun _ => .inl ⟨refusal, rfl⟩⟩
    | ok ids =>
      have chosenOther := (same catalogue).symm.trans chosen
      rw [Dialogue.result_andThen_of_ok chosen, Dialogue.result_andThen_of_ok chosenOther,
        Dialogue.input_andThen_of_ok chosen, Dialogue.input_andThen_of_ok chosenOther]
      exact ⟨rfl, fun unread => .inr (unread catalogue)⟩

theorem hold_plan_of_tableIds (named : arguments.path = some path) (schema : path.isSchemaFile = true) :
    let first := (plan surroundings { arguments with select }).hold input
    let second := (plan surroundings { arguments with select := other }).hold left
    first.result = second.result ∧
      ((∀ catalogue,
          ((tableIds surroundings.coloured { arguments with select } catalogue).hold input).input.unread =
            ((tableIds surroundings.coloured
              { arguments with select := other } catalogue).hold left).input.unread) →
        (∃ refusal, second.result = .error refusal) ∨ first.input.unread = second.input.unread) := by
  unfold plan
  cases Settings.load surroundings.files surroundings.userDirectory with
  | error failure => exact ⟨rfl, fun _ => .inl ⟨_, rfl⟩⟩
  | ok settings =>
    simp only [named, Option.getD_some, schemaPath_of_isSchemaFile schema]
    exact hold_planFor_of_tableIds same settings

end Plans

section Choices

variable (coloured : Bool) {arguments : Arguments} {expression : String} {left : List UInt8}
  (untold : arguments.table = none)

include untold

/-- An argument is read as it is and takes nothing from the input. -/
theorem hold_tableIds_of_argument (expression : String) (input : Input) (catalogue : Catalogue) :
    let chosen := (tableIds coloured { arguments with select := some expression } catalogue).hold input
    chosen.result = selected catalogue expression ∧ chosen.input = input := by
  simp only [tableIds, untold]
  exact ⟨rfl, rfl⟩

/-- An answer is read without the white space at its ends and takes a line from the input. -/
theorem hold_tableIds_of_answer {answers : Input} (unbroken : '\n' ∉ expression.toList)
    (begins : answers.bytes = Text.encodeString expression ++ lineFeed :: left) (catalogue : Catalogue) :
    let chosen := (tableIds coloured { arguments with select := none } catalogue).hold answers
    chosen.result = selected catalogue (Text.trimmed expression) ∧ chosen.input = answers.afterLine := by
  simp only [tableIds, untold]
  exact hold_chooseTables_of_line coloured unbroken begins catalogue

end Choices

section Runs

variable {State : Type} {launcher : Launcher State} {surroundings : Surroundings} {arguments : Arguments}
  {input : Input} {state : State}

theorem exists_result_plan_of_oddlySpaced {expression : String} (untold : arguments.table = none)
    (odd : Selection.OddlySpaced expression.toList) (input : Input) :
    ∃ refusal, ((plan surroundings { arguments with select := some expression }).hold input).result =
      .error refusal := by
  cases planned : ((plan surroundings { arguments with select := some expression }).hold input).result with
  | error refusal => exact ⟨refusal, rfl⟩
  | ok prepared =>
    cases result_plan_eq_ok_iff.mp planned with
    | @intro _ _ _ _ catalogue _ _ _ _ _ _ _ chosen =>
      obtain ⟨failure, failed⟩ := Catalogue.exists_select_of_oddlySpaced catalogue odd
      simp [tableIds, untold, selected, failed, Dialogue.hold, Except.mapError] at chosen

theorem run_of_refused {refusal : Refusal}
    (refused : ((plan surroundings arguments).hold input).result = .error refusal) :
    (run launcher surroundings arguments input state).code = 1 ∧
      (run launcher surroundings arguments input state).effects = [] := by
  simp [run, conclude, refused]

theorem Plan.output_ne_empty (plan : Plan) (format : Format) (coloured : Bool) :
    plan.output format coloured ≠ "" := by
  intro empty
  have nothing := congrArg String.toList empty
  cases format with
  | text => simp [Plan.output, Plan.heading] at nothing
  | json =>
    simp only [Plan.output] at nothing
    cases entries : plan.entries <;> simp [entries, Entry.jsonList] at nothing

theorem Outcome.printed_of_idle {outcome : Outcome State} (idle : outcome.effects = []) :
    outcome.printed = "" := by
  rw [Outcome.printed, idle]
  rfl

/-- A run does nothing and fails, or it prints. -/
theorem run_idle_or_prints (launcher : Launcher State) (surroundings : Surroundings) (arguments : Arguments)
    (input : Input) (state : State) :
    let outcome := run launcher surroundings arguments input state
    outcome.code = 1 ∧ outcome.effects = [] ∨ outcome.printed ≠ "" := by
  intro outcome
  cases planned : ((plan surroundings arguments).hold input).result with
  | error refusal => exact .inl (run_of_refused planned)
  | ok prepared =>
    have printed := (run_channels launcher (result_plan_eq_ok_iff.mp planned) state).1
    exact .inr (printed ▸ prepared.output_ne_empty arguments.format surroundings.coloured)

variable {first second : Outcome State}

theorem Outcome.SameWork.agrees (same : first.SameWork second) :
    first.printed = second.printed ∧ first.code = second.code := by
  refine ⟨?_, same.code⟩
  rw [Outcome.printed, same.effects]
  rfl

/-- With a run that failed and did nothing, only such a run agrees. -/
theorem agrees_iff_of_idle (fails : first.code = 1 ∧ first.effects = [])
    (idleOrPrints : second.code = 1 ∧ second.effects = [] ∨ second.printed ≠ "") :
    first.printed = second.printed ∧ first.code = second.code ↔ second.effects = [] := by
  have silent := Outcome.printed_of_idle fails.2
  constructor
  · rintro ⟨printed, _⟩
    rcases idleOrPrints with ⟨_, idle⟩ | prints
    · exact idle
    · exact absurd (printed.symm.trans silent) prints
  · intro idle
    rcases idleOrPrints with ⟨code, _⟩ | prints
    · exact ⟨silent.trans (Outcome.printed_of_idle idle).symm, fails.1.trans code.symm⟩
    · exact absurd (Outcome.printed_of_idle idle) prints

end Runs

/-- Arguments for a run on a schema file that leave the tables to an answer. -/
structure LeavesTablesOpen (others : List String) (arguments : Arguments) : Prop where
  read : Request.ofArguments? others = some (.run arguments)
  unended : "--" ∉ others
  untold : arguments.table = none
  unselected : arguments.select = none
  onSchema : ∃ path, arguments.path = some path ∧ path.isSchemaFile = true

/-- White space around an expression makes no difference exactly where it is a gap of the grammar, or what
stands between is no expression. So a run that is given an expression as an argument and a run that is
given it as an answer print and copy the same, and do the same work if the commands that are started find
the same input or ignore it, except where the expression has other white space at an end: then the run
with the argument fails, and the runs agree exactly if the run with the answer does nothing either. -/
theorem argument_agrees_with_answer_iff (expression : String) :
    (∀ catalogue : Catalogue, catalogue.size ≠ 0 →
      (catalogue.select expression = catalogue.select (Text.trimmed expression) ↔
        ¬ Selection.OddlySpaced expression.toList)) ∧
    ∀ {State : Type} (launcher : Launcher State) (surroundings : Surroundings) (state : State)
      {others option : List String} {arguments : Arguments} (input answers : Input) (left : List UInt8),
      LeavesTablesOpen others arguments → Selects expression option → '\n' ∉ expression.toList →
      answers.bytes = Text.encodeString expression ++ lineFeed :: left →
      let told := answer launcher surroundings input state (Request.ofArguments? (others ++ option))
      let asked := answer launcher surroundings answers state (Request.ofArguments? others)
      let meet := told.started ≠ [] → input.unread = answers.afterLine.unread ∨ launcher.IgnoresInput
      (¬ Selection.OddlySpaced expression.toList →
        told.printed = asked.printed ∧ told.copied = asked.copied ∧ (meet → told.SameWork asked)) ∧
      (Selection.OddlySpaced expression.toList → told.code = 1 ∧ told.effects = []) ∧
      (meet → (told.printed = asked.printed ∧ told.code = asked.code ↔
        (Selection.OddlySpaced expression.toList → asked.effects = []))) := by
  refine ⟨fun catalogue => Catalogue.select_eq_select_trimmed_iff, ?_⟩
  intro State launcher surroundings state others option arguments input answers left leaves selects unbroken
    begins told asked meet
  obtain ⟨read, unended, untold, unselected, path, named, schema⟩ := leaves
  have toldRun : told = run launcher surroundings { arguments with select := some expression } input state := by
    simp only [told, ofArguments?_append read unended untold unselected selects, answer]
  have askedRun : asked = run launcher surroundings { arguments with select := none } answers state := by
    simp only [asked, read, answer, ← unselected]
  have argument := hold_tableIds_of_argument surroundings.coloured untold expression input
  have line := hold_tableIds_of_answer surroundings.coloured untold unbroken begins
  have same (even : ¬ Selection.OddlySpaced expression.toList) :
      told.printed = asked.printed ∧ told.copied = asked.copied ∧ (meet → told.SameWork asked) := by
    have choice (catalogue : Catalogue) := (argument catalogue).1.trans
      ((congrArg (Except.mapError Refusal.notSelected) (Catalogue.select_trimmed even).symm).trans
        (line catalogue).1.symm)
    obtain ⟨result, unread⟩ := hold_plan_of_tableIds choice named schema
    rw [toldRun, askedRun]
    obtain ⟨printed, copied, _⟩ := channels_run_of_result launcher state result
    refine ⟨printed, copied, fun meets => sameWork_run_of_result result fun starts => ?_⟩
    refine (meets (toldRun ▸ starts)).imp_left fun remaining => unread fun catalogue => ?_
    rw [(argument catalogue).2, (line catalogue).2, remaining]
  have fails (odd : Selection.OddlySpaced expression.toList) : told.code = 1 ∧ told.effects = [] := by
    obtain ⟨refusal, refused⟩ := exists_result_plan_of_oddlySpaced untold odd input
    rw [toldRun]
    exact run_of_refused refused
  have idleOrPrints := run_idle_or_prints launcher surroundings { arguments with select := none } answers state
  rw [← askedRun] at idleOrPrints
  refine ⟨same, fails, fun meets => ?_⟩
  by_cases odd : Selection.OddlySpaced expression.toList
  · rw [agrees_iff_of_idle (fails odd) idleOrPrints]
    exact ⟨fun idle _ => idle, fun idle => idle odd⟩
  · exact iff_of_true ((same odd).2.2 meets).agrees fun other => absurd other odd

section ThreeTables

def spacedList : String := "\u00a0[3,1,2]"

theorem oddlySpaced_spacedList : Selection.OddlySpaced spacedList.toList := by
  have blank : Text.AllBlank ['\u00a0'] ∧ Text.AllBlank [] := by decide
  have written : Selection.Written Text.cappedValue (.list [3, 1, 2]) "[3,1,2]".toList :=
    Selection.read?_sound (by decide +kernel)
  have odd : ¬ (Selection.IsGap ['\u00a0'] ∧ Selection.IsGap []) := by
    rintro ⟨gap, _⟩
    exact absurd (gap '\u00a0' List.mem_cons_self) (by decide)
  exact .around blank.1 written.form_trim blank.2 odd

theorem argument_agrees_with_answer_iff_threeTables :
    let catalogue := (Schema.read threeTables).catalogue
    let launcher : Launcher Nat :=
      ⟨fun site _ => (.ended (.exited 0) "", { site with state := site.state + 1 }),
        fun count _ => (.ended (.exited 0), count)⟩
    let others := ["-p", "schema.rb", "-x"]
    let told (expression : String) := answer launcher (.ofSchema threeTables) ⟨[], [[lineFeed]]⟩ 0
      (Request.ofArguments? (others ++ ["-s", expression]))
    let asked (expression : String) := answer launcher (.ofSchema threeTables)
      ⟨[], [Text.encodeString expression ++ [lineFeed]]⟩ 0 (Request.ofArguments? others)
    catalogue.select "[3,1,2]\t" = catalogue.select (Text.trimmed "[3,1,2]\t") ∧
      catalogue.select spacedList ≠ catalogue.select (Text.trimmed spacedList) ∧
      (told "[3,1,2]\t").SameWork (asked "[3,1,2]\t") ∧
      (told spacedList).code = 1 ∧
      ¬ ((told spacedList).printed = (asked spacedList).printed ∧
        (told spacedList).code = (asked spacedList).code) := by
  intro catalogue launcher others told asked
  let arguments : Arguments :=
    ⟨some schemaFile, none, none, false, false, false, false, true, .text, false⟩
  have schema : schemaFile.isSchemaFile = true := by decide +kernel
  have leaves : LeavesTablesOpen others arguments :=
    ⟨rfl, by decide, rfl, rfl, schemaFile, rfl, schema⟩
  have some_table : catalogue.size ≠ 0 := by decide +kernel
  have unbroken : '\n' ∉ spacedList.toList := by decide
  have even : ¬ Selection.OddlySpaced "[3,1,2]\t".toList := fun odd =>
    odd.unwritten (Selection.read?_sound (by decide +kernel : _ = some (.list [3, 1, 2])))
  have ignores : launcher.IgnoresInput := fun _ _ _ _ => ⟨rfl, rfl⟩
  let toldInput : Input := ⟨[], [[lineFeed]]⟩
  let answers (expression : String) : Input := ⟨[], [Text.encodeString expression ++ [lineFeed]]⟩
  have bytes (expression : String) :
      (answers expression).bytes = Text.encodeString expression ++ lineFeed :: [] := by
    simp [answers, Input.bytes]
  obtain ⟨selectsSame, runsEvenly⟩ := argument_agrees_with_answer_iff "[3,1,2]\t"
  obtain ⟨selectsOther, runsOddly⟩ := argument_agrees_with_answer_iff spacedList
  obtain ⟨same, _, _⟩ := runsEvenly launcher (.ofSchema threeTables) 0 toldInput _ [] leaves
    (.short (by decide)) (by decide) (bytes _)
  obtain ⟨_, fails, agree⟩ := runsOddly launcher (.ofSchema threeTables) 0 toldInput _ [] leaves
    (.short (by decide)) unbroken (bytes _)
  refine ⟨(selectsSame catalogue some_table).mpr even,
    mt (selectsOther catalogue some_table).mp (not_not.mpr oddlySpaced_spacedList),
    (same even).2.2 fun _ => .inr ignores, (fails oddlySpaced_spacedList).1,
    mt (agree fun _ => .inr ignores).mp fun idle => ?_⟩
  -- The answer, trimmed, selects tables, so the run with the answer prints their scripts.
  have made : Prepared (.ofSchema threeTables) { arguments with select := some "[3,1,2]" } ⟨[], []⟩ _ :=
    prepared_threeTables ⟨[], []⟩ rfl rfl rfl rfl
  have trimmed : Text.trimmed spacedList = "[3,1,2]" := by decide +kernel
  have named : arguments.path = some schemaFile := rfl
  have untold : arguments.table = none := rfl
  have choice (catalogue : Catalogue) :
      ((tableIds false { arguments with select := none } catalogue).hold (answers spacedList)).result =
        ((tableIds false { arguments with select := some "[3,1,2]" } catalogue).hold ⟨[], []⟩).result :=
    trimmed ▸ (hold_tableIds_of_answer false untold unbroken (bytes spacedList) catalogue).1
  have planned : ((plan (.ofSchema threeTables) { arguments with select := none }).hold
      (answers spacedList)).result = _ := (hold_plan_of_tableIds choice named schema).1
  rw [result_plan_eq_ok_iff.mpr made, result_plan_eq_ok_iff] at planned
  have printed := (run_channels launcher planned 0).1
  have silent := Outcome.printed_of_idle (idle oddlySpaced_spacedList)
  exact Plan.output_ne_empty _ _ _ (printed.symm.trans silent)

end ThreeTables

end TableScript.Command
