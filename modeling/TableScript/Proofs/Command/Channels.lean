import TableScript.Proofs.Command.Plan
import TableScript.Proofs.Command.Run

/-! Where the scripts of a plan go: the JSON list, the printed text, the clipboard and the shell. All of
them carry the same commands. -/
namespace TableScript.Command

section Outcome

variable {State : Type} (outcome : Outcome State)

def Outcome.copied : List String :=
  outcome.effects.filterMap fun
    | .copy text => some text
    | _ => none

def Outcome.started : List String :=
  outcome.effects.filterMap fun
    | .start command => some command
    | _ => none

end Outcome

/-- Which plan is prepared does not depend on where its scripts go. -/
theorem Prepared.of_channels {surroundings : Surroundings} {arguments : Arguments} {input : Input}
    {prepared : Plan} (made : Prepared surroundings arguments input prepared) (format : Format)
    (clipboard exec : Bool) :
    Prepared surroundings { arguments with format, clipboard, exec } input prepared := by
  rw [← result_plan_eq_ok_iff] at made ⊢
  exact made

section Effects

variable {State : Type} {outcome : Outcome State} {text : String} {copies started : List String}
  (effects : outcome.effects = .print text :: (copies.map .copy ++ started.map .start))

include effects

theorem printed_eq : outcome.printed = text := by
  simp [Outcome.printed, effects]

theorem copied_eq : outcome.copied = copies := by
  simp [Outcome.copied, effects]

theorem started_eq : outcome.started = started := by
  simp [Outcome.started, effects]

end Effects

theorem copies_eq_map (arguments : Arguments) (plan : Plan) :
    copies arguments plan = (if arguments.clipboard then [plan.body] else []).map .copy := by
  unfold copies
  split <;> rfl

section Input

variable {State : Type} {launcher : Launcher State} (coloured : Bool) {arguments : Arguments} (state : State)
  {input other : Blocks}

theorem copyAndExecute_of_input {plan : Plan}
    (same : CopySucceeds launcher arguments plan state →
      execute launcher coloured arguments plan input (afterCopy launcher arguments plan state) =
        execute launcher coloured arguments plan other (afterCopy launcher arguments plan state)) :
    copyAndExecute launcher coloured arguments plan input state =
      copyAndExecute launcher coloured arguments plan other state := by
  unfold copyAndExecute
  by_cases asked : arguments.clipboard = true
  · simp only [CopySucceeds, afterCopy, asked, if_true, true_imp_iff,
      ← ClipboardResult.failure?_eq_none_iff] at same ⊢
    cases failed : (launcher.clipboard state plan.body).1.failure? with
    | some failure => rfl
    | none => simp only [same failed]
  · rw [if_neg asked, if_neg asked]
    simpa [CopySucceeds, afterCopy, asked] using same

/-- The input matters to nothing but the commands that are started. -/
theorem conclude_of_input {result : Except Refusal Plan}
    (meets : (conclude launcher coloured arguments input state result).started ≠ [] →
      input = other ∨ launcher.IgnoresInput) :
    conclude launcher coloured arguments input state result =
      conclude launcher coloured arguments other state result := by
  cases result with
  | error refusal => rfl
  | ok plan =>
    obtain ⟨started, effects, _, _, runs⟩ := exists_started launcher arguments plan input state coloured rfl
    rw [copies_eq_map] at effects
    rw [conclude, started_eq effects] at meets
    have work : copyAndExecute launcher coloured arguments plan input state =
        copyAndExecute launcher coloured arguments plan other state := by
      refine copyAndExecute_of_input coloured state fun copied => ?_
      cases asked : arguments.exec with
      | false => rw [execute_of_unasked _ _ _ _ _ _ asked, execute_of_unasked _ _ _ _ _ _ asked]
      | true =>
        obtain ⟨_, runs⟩ := runs copied asked
        by_cases idle : started = []
        · simp only [execute, asked, if_true, runScripts, runs.eq_nil_of_idle idle, runCommands]
        · rcases meets idle with rfl | ignores
          · rfl
          · obtain ⟨started, complaints, failure, left⟩ := runCommands_of_ignoresInput ignores
              (commandsOf plan.scripts) (afterCopy launcher arguments plan state) input other
            simp only [execute, asked, if_true, runScripts, started, complaints, failure, left]
    simp only [conclude, perform, work]

/-- Whatever input is left, the same is printed and copied, and the same commands are started as far as
the work goes. -/
theorem channels_conclude (result : Except Refusal Plan) :
    let first := conclude launcher coloured arguments input state result
    let second := conclude launcher coloured arguments other state result
    first.printed = second.printed ∧ first.copied = second.copied ∧
      (first.started <+: second.started ∨ second.started <+: first.started) := by
  cases result with
  | error refusal => exact ⟨rfl, rfl, .inl List.prefix_rfl⟩
  | ok plan =>
    obtain ⟨started, effects, stopped, unasked, runs⟩ :=
      exists_started launcher arguments plan input state coloured rfl
    obtain ⟨others, otherEffects, _, _, otherRuns⟩ :=
      exists_started launcher arguments plan other state coloured rfl
    rw [copies_eq_map] at effects otherEffects
    refine ⟨(printed_eq effects).trans (printed_eq otherEffects).symm,
      (copied_eq effects).trans (copied_eq otherEffects).symm, ?_⟩
    simp only [conclude, started_eq effects, started_eq otherEffects]
    by_cases copied : CopySucceeds launcher arguments plan state
    · cases asked : arguments.exec with
      | false => exact .inl (unasked asked ▸ List.nil_prefix)
      | true =>
        obtain ⟨_, runs⟩ := runs copied asked
        obtain ⟨_, otherRuns⟩ := otherRuns copied asked
        exact List.prefix_or_prefix_of_prefix runs.started_first otherRuns.started_first
    · exact .inl (stopped copied ▸ List.nil_prefix)

end Input

/-- What a run with a prepared plan hands out, by the channel. -/
theorem run_channels {State : Type} (launcher : Launcher State) {surroundings : Surroundings}
    {arguments : Arguments} {input : Input} {prepared : Plan}
    (made : Prepared surroundings arguments input prepared) (state : State) :
    let outcome := run launcher surroundings arguments input state
    outcome.printed = prepared.output arguments.format surroundings.coloured ∧
      outcome.copied = (if arguments.clipboard then [prepared.body] else []) ∧
      (CopySucceeds launcher arguments prepared state → arguments.exec = true → ∃ failure,
        launcher.Runs ⟨afterCopy launcher arguments prepared state, inputLeft surroundings arguments input⟩
          (prepared.scripts.map Text.trimmed) outcome.started failure) := by
  intro outcome
  obtain ⟨started, effects, _, _, runs⟩ := exists_started launcher arguments prepared
    (inputLeft surroundings arguments input) state surroundings.coloured made.commandsOf_scripts
  have whole : outcome.effects = .print (prepared.output arguments.format surroundings.coloured) ::
      ((if arguments.clipboard then [prepared.body] else []).map .copy ++ started.map .start) := by
    rw [copies_eq_map] at effects
    simpa [outcome, run, conclude, result_plan_eq_ok_iff.mpr made, inputLeft] using effects
  rw [started_eq whole]
  exact ⟨printed_eq whole, copied_eq whole, runs⟩

/-- All channels of a prepared plan carry the same commands. What is printed as JSON is read as a list of
records, one for each selected number in its place, with the number, the table's name and the command.
The commands with an empty line after each are what is printed after the heading and what is copied, and
they are what is started if each succeeds. -/
theorem channels_agree {surroundings : Surroundings} {arguments : Arguments} {input : Input}
    {plan : Plan} (made : Prepared surroundings arguments input plan) :
    ∃ entries : List Entry,
      entries.map Entry.id = plan.ids ∧
      (∀ entry ∈ entries, ∃ table,
        plan.catalogue.get? entry.id = some table ∧ table.name = entry.table) ∧
      ∀ {State : Type} (launcher : Launcher State) (state : State) (format : Format)
        (clipboard exec : Bool),
        let asked := { arguments with format, clipboard, exec }
        let outcome := run launcher surroundings asked input state
        let text := String.join (entries.map fun entry => entry.script ++ "\n\n")
        (format = .json → Json.read? outcome.printed = some (.list (entries.map fun entry =>
          .record [("id", .number (toString entry.id)), ("script", .text entry.script),
            ("table", .text entry.table)]))) ∧
        (format = .text → outcome.printed = plan.heading surroundings.coloured ++ text) ∧
        (clipboard = true → outcome.copied = [text]) ∧
        (exec = true → CopySucceeds launcher asked plan state →
          launcher.AllSucceed ⟨afterCopy launcher asked plan state, inputLeft surroundings asked input⟩
            outcome.started →
          outcome.started = entries.map Entry.script) := by
  obtain ⟨tables, options, found, written⟩ := made.exists_tables
  refine ⟨tables.map (Entry.ofTable options), ?_, ?_, ?_⟩
  · rw [List.map_map]
    exact Catalogue.map_id_of_map_get? found
  · intro entry member
    obtain ⟨table, present, rfl⟩ := List.mem_map.mp member
    have placed : some table ∈ plan.ids.map plan.catalogue.get? := by
      rw [found]
      exact List.mem_map_of_mem present
    obtain ⟨id, _, own⟩ := List.mem_map.mp placed
    exact ⟨table, Catalogue.get?_eq_some_iff.mpr ⟨(Catalogue.get?_eq_some_iff.mp own).1, rfl⟩, rfl⟩
  · intro State launcher state format clipboard exec asked outcome text
    obtain ⟨printed, copied, runs⟩ :=
      run_channels launcher (made.of_channels format clipboard exec) state
    have body : plan.body = text := Plan.body_eq written
    refine ⟨?_, ?_, ?_, ?_⟩
    · rintro rfl
      rw [printed, Plan.read?_output found written, List.map_map]
      rfl
    · rintro rfl
      rw [printed, Plan.output, body]
    · rintro rfl
      rw [copied, if_pos rfl, body]
    · intro executed fine succeed
      obtain ⟨failure, runs⟩ := runs fine executed
      have commands := runs.started_eq succeed
      rw [commands, written, List.map_map, List.map_map]
      exact List.map_congr_left fun table _ => trimmed_script table options

theorem channels_agree_jobsUsersTeams :
    let arguments : Arguments :=
      ⟨some schemaFile, none, some "[3,1,2]", false, false, false, false, false, .text, false⟩
    let launcher : Launcher Nat :=
      ⟨fun site _ => (.ended (.exited 0) "", { site with state := site.state + 1 }),
        fun count _ => (.ended (.exited 0), count)⟩
    let input : Input := ⟨[], [[lineFeed]]⟩
    ∃ plan, Prepared (.ofSchema threeTables) arguments input plan ∧ ∃ entries : List Entry,
      let text := String.join (entries.map fun entry => entry.script ++ "\n\n")
      entries.map Entry.id = [3, 1, 2] ∧
      Json.read? (run launcher (.ofSchema threeTables) { arguments with format := .json } input 0).printed =
        some (.list (entries.map fun entry => .record [("id", .number (toString entry.id)),
          ("script", .text entry.script), ("table", .text entry.table)])) ∧
      (run launcher (.ofSchema threeTables) { arguments with clipboard := true } input 0).copied = [text] ∧
      (run launcher (.ofSchema threeTables) { arguments with exec := true } input 0).started =
        entries.map Entry.script := by
  intro arguments launcher input
  have made : Prepared (.ofSchema threeTables) arguments input _ :=
    prepared_threeTables input rfl rfl rfl rfl
  have succeed : ∀ (commands : List String) (site : Site Nat), launcher.AllSucceed site commands := by
    intro commands
    induction commands with
    | nil => exact fun _ => trivial
    | cons command rest ih => exact fun site => ⟨rfl, ih _⟩
  obtain ⟨entries, ids, _, channels⟩ := channels_agree made
  refine ⟨_, made, entries, ids, (channels launcher 0 .json false false).1 rfl,
    (channels launcher 0 .text true false).2.2.1 rfl,
    (channels launcher 0 .text false true).2.2.2 rfl nofun (succeed _ _)⟩

end TableScript.Command
