import TableScript.Command.Run
import TableScript.Proofs.Command.Plan
import TableScript.Proofs.Command.Preparation
import TableScript.Proofs.Execution

/-! The stages of a run: printing, copying, executing. A stage is reached only if all stages before it
succeeded, and the exit code tells whether all that was asked for did. -/
namespace TableScript.Command

section Stages

variable {State : Type} (launcher : Launcher State) (arguments : Arguments) (plan : Plan) (input : Blocks)
  (state : State)

def CopySucceeds : Prop :=
  arguments.clipboard = true → (launcher.clipboard state plan.body).1.Succeeds

instance : Decidable (CopySucceeds launcher arguments plan state) :=
  inferInstanceAs (Decidable (_ → _))

def afterCopy : State :=
  if arguments.clipboard then (launcher.clipboard state plan.body).2 else state

def copies : List Effect := if arguments.clipboard then [.copy plan.body] else []

variable (coloured : Bool)

theorem execute_of_unasked (unasked : arguments.exec = false) :
    execute launcher coloured arguments plan input state = ⟨0, [], "", state⟩ := by
  simp [execute, unasked]

theorem execute_of_asked (asked : arguments.exec = true) :
    (execute launcher coloured arguments plan input state).effects =
        (runScripts launcher state plan.scripts input).started.map .start ∧
      (execute launcher coloured arguments plan input state).code =
        if (runScripts launcher state plan.scripts input).failure = none then 0 else 1 := by
  unfold execute
  simp only [asked, if_true]
  cases (runScripts launcher state plan.scripts input).failure <;> exact ⟨rfl, rfl⟩

/-- A failed copy ends the run; nothing is executed after it. -/
theorem copyAndExecute_stages :
    let rest := execute launcher coloured arguments plan input (afterCopy launcher arguments plan state)
    let copied := CopySucceeds launcher arguments plan state
    (copyAndExecute launcher coloured arguments plan input state).effects =
        copies arguments plan ++ (if copied then rest.effects else []) ∧
      (copyAndExecute launcher coloured arguments plan input state).code =
        if copied then rest.code else 1 := by
  unfold copyAndExecute
  by_cases asked : arguments.clipboard = true
  · simp only [asked, if_true, copies, afterCopy, CopySucceeds, true_imp_iff,
      ← ClipboardResult.failure?_eq_none_iff]
    cases (launcher.clipboard state plan.body).1.failure? <;> simp
  · simp [asked, copies, afterCopy, CopySucceeds]

variable {commands : List String} (given : commandsOf plan.scripts = commands)

include given

/-- The commands that a plan starts: none after a failed copy and none unless asked for, or else those
up to the first that fails. -/
theorem exists_started : ∃ started : List String,
    (perform launcher coloured arguments plan input state).effects =
        .print (plan.output arguments.format coloured) ::
          (copies arguments plan ++ started.map .start) ∧
      (¬ CopySucceeds launcher arguments plan state → started = []) ∧
      (arguments.exec = false → started = []) ∧
      (CopySucceeds launcher arguments plan state → arguments.exec = true → ∃ failure,
        launcher.Runs ⟨afterCopy launcher arguments plan state, input⟩ commands started failure) := by
  subst given
  simp only [perform, (copyAndExecute_stages launcher arguments plan input state coloured).1]
  by_cases copied : CopySucceeds launcher arguments plan state
  · simp only [copied, if_true]
    cases asked : arguments.exec with
    | false =>
      rw [execute_of_unasked launcher arguments plan input _ coloured asked]
      exact ⟨[], rfl, by simp⟩
    | true =>
      have runs := runs_runCommands launcher ⟨afterCopy launcher arguments plan state, input⟩
        (commandsOf plan.scripts)
      rw [(execute_of_asked launcher arguments plan input _ coloured asked).1]
      exact ⟨_, rfl, by simp, by simp, fun _ _ => ⟨_, runs⟩⟩
  · simp only [copied, if_false]
    exact ⟨[], rfl, by simp⟩

theorem code_perform :
    (perform launcher coloured arguments plan input state).code =
      if CopySucceeds launcher arguments plan state ∧ (arguments.exec = true →
        launcher.AllSucceed ⟨afterCopy launcher arguments plan state, input⟩ commands) then 0 else 1 := by
  subst given
  simp only [perform, (copyAndExecute_stages launcher arguments plan input state coloured).2]
  by_cases copied : CopySucceeds launcher arguments plan state
  · simp only [copied, if_true, true_and]
    cases asked : arguments.exec with
    | false =>
      rw [execute_of_unasked launcher arguments plan input _ coloured asked]
      simp
    | true =>
      have runs := runs_runCommands launcher ⟨afterCopy launcher arguments plan state, input⟩
        (commandsOf plan.scripts)
      rw [(execute_of_asked launcher arguments plan input _ coloured asked).2]
      simp only [runScripts, runs.failure_eq_none_iff, true_imp_iff]
  · simp [copied]

end Stages

def inputLeft (surroundings : Surroundings) (arguments : Arguments) (input : Input) : Blocks :=
  ((Command.plan surroundings arguments).hold input).input.unread

/-- A run prints, copies and executes in this order, and only once its plan is prepared. Otherwise it
does nothing and its exit code is 1. It prints a heading and the scripts, or a list of records in which a
reader of JSON finds the selected tables with their scripts in order. After a failed copy no command is
started; those that are started are the scripts of the plan in order, up to the first that fails. The
exit code is 0 exactly when the plan is prepared and all that was asked for succeeds. -/
theorem run_staged {State : Type} (launcher : Launcher State) (surroundings : Surroundings)
    (arguments : Arguments) (input : Input) (state : State) :
    let outcome := run launcher surroundings arguments input state
    ((¬ ∃ plan, Prepared surroundings arguments input plan) →
      outcome.effects = [] ∧ outcome.code = 1) ∧
    (∀ plan, Prepared surroundings arguments input plan →
      let copied := CopySucceeds launcher arguments plan state
      let next : Site State :=
        ⟨afterCopy launcher arguments plan state, inputLeft surroundings arguments input⟩
      let commands := plan.scripts.map Text.trimmed
      let printed := plan.output arguments.format surroundings.coloured
      (∃ started : List String,
        outcome.effects =
          [.print printed] ++ (if arguments.clipboard then [.copy plan.body] else []) ++ started.map .start ∧
        (¬ copied → started = []) ∧
        (arguments.exec = false → started = []) ∧
        (copied → arguments.exec = true → ∃ failure, launcher.Runs next commands started failure)) ∧
      (arguments.format = .text → printed =
        "\n" ++ Text.paint surroundings.coloured [.bold, .green] ("Script for " ++ plan.target.generator ++ ":") ++
          "\n\n" ++ String.join plan.scripts) ∧
      (arguments.format = .json → ∃ tables : List Table,
        plan.ids.map plan.catalogue.get? = tables.map some ∧ plan.scripts.length = tables.length ∧
        Json.read? printed = some (.list ((tables.zip commands).map fun (table, command) =>
          .record [("id", .number (toString table.id)), ("script", .text command), ("table", .text table.name)]))) ∧
      outcome.code =
        if copied ∧ (arguments.exec = true → launcher.AllSucceed next commands) then 0 else 1) := by
  intro outcome
  refine ⟨fun unprepared => ?_, fun plan made => ?_⟩
  · cases planned : ((Command.plan surroundings arguments).hold input).result with
    | ok plan => exact absurd ⟨plan, result_plan_eq_ok_iff.mp planned⟩ unprepared
    | error refusal => simp [outcome, run, conclude, planned]
  · have planned := result_plan_eq_ok_iff.mpr made
    have given := made.commandsOf_scripts
    obtain ⟨started, effects, facts⟩ := exists_started launcher arguments plan
      (inputLeft surroundings arguments input) state surroundings.coloured given
    have code := code_perform launcher arguments plan (inputLeft surroundings arguments input) state
      surroundings.coloured given
    refine ⟨⟨started, ?_, facts⟩, ?_, ?_, ?_⟩
    · simpa [outcome, run, conclude, planned, copies, inputLeft] using effects
    · intro text
      rw [text]
      rfl
    · intro json
      obtain ⟨tables, options, found, written⟩ := made.exists_tables
      refine ⟨tables, found, by rw [written, List.length_map], ?_⟩
      have commands : plan.scripts.map Text.trimmed = tables.map (Table.command · options) := by
        rw [written, List.map_map]
        exact List.map_congr_left fun table _ => trimmed_script table options
      rw [json, Plan.read?_output found written, commands, List.zip_map_right, List.map_map, List.zip_eq_zipWith]
      simp [List.zipWith_self, Entry.ofTable, Entry.record]
    · simpa [outcome, run, conclude, planned, inputLeft] using code

theorem run_staged_secondFails :
    let arguments : Arguments :=
      ⟨some schemaFile, none, some "[3,1,2]", false, false, false, true, true, .text, false⟩
    let launcher : Launcher Nat :=
      ⟨fun site _ => (.ended (.exited site.state) "", { site with state := site.state + 1 }),
        fun count _ => (.ended (.exited 0), count)⟩
    let outcome := run launcher (.ofSchema threeTables) arguments ⟨[], []⟩ 0
    let unread := inputLeft (.ofSchema threeTables) arguments ⟨[], []⟩
    ∃ plan, Prepared (.ofSchema threeTables) arguments ⟨[], []⟩ plan ∧ plan.ids = [3, 1, 2] ∧
      ∃ started : List String,
        outcome.effects =
          [.print ("\nScript for scaffold:\n\n" ++ plan.body)] ++ [.copy plan.body] ++ started.map .start ∧
        (∃ failure, launcher.Runs ⟨0, unread⟩ (plan.scripts.map Text.trimmed) started failure) ∧
        outcome.code = 1 := by
  intro arguments launcher outcome unread
  have made : Prepared (.ofSchema threeTables) arguments ⟨[], []⟩ _ :=
    prepared_threeTables ⟨[], []⟩ rfl rfl rfl rfl
  obtain ⟨⟨started, effects, _, _, runs⟩, text, _, code⟩ :=
    (run_staged launcher _ arguments ⟨[], []⟩ 0).2 _ made
  refine ⟨_, made, rfl, started, ?_, runs ?_ rfl, code.trans ?_⟩
  · rw [effects, text rfl]
    rfl
  · decide
  · decide +kernel

end TableScript.Command
