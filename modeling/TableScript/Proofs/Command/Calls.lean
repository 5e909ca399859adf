import TableScript.Proofs.Catalogue
import TableScript.Proofs.Command.Channels
import TableScript.Proofs.Shell.Machine

/-! What a run that executes its scripts calls on a machine: `rails`, once for each selected table that
it comes to. -/
namespace TableScript.Command

open Shell (Machine calledWith statusOf)

section State

variable {State : Type} (launcher : Launcher State) (coloured : Bool) {arguments : Arguments} (plan : Plan)
  (left : Blocks) (state : State)

theorem state_execute (asked : arguments.exec = true) :
    (execute launcher coloured arguments plan left state).state =
      (runScripts launcher state plan.scripts left).state := by
  unfold execute
  rw [if_pos asked]
  dsimp only
  split <;> rfl

theorem state_copyAndExecute (copied : CopySucceeds launcher arguments plan state) :
    (copyAndExecute launcher coloured arguments plan left state).state =
      (execute launcher coloured arguments plan left (afterCopy launcher arguments plan state)).state := by
  unfold copyAndExecute afterCopy
  split
  · rename_i asked
    have taken := ClipboardResult.failure?_eq_none_iff.mpr (copied asked)
    dsimp only
    rw [taken]
  · rfl

theorem perform_of_asked (asked : arguments.exec = true) (copied : CopySucceeds launcher arguments plan state) :
    let outcome := perform launcher coloured arguments plan left state
    let executed := runScripts launcher (afterCopy launcher arguments plan state) plan.scripts left
    outcome.state = executed.state ∧ outcome.started = executed.started ∧
      (outcome.code = 0 ↔ executed.failure = none) := by
  intro outcome executed
  obtain ⟨effects, code⟩ := copyAndExecute_stages launcher arguments plan left state coloured
  obtain ⟨started, status⟩ := execute_of_asked launcher arguments plan left
    (afterCopy launcher arguments plan state) coloured asked
  rw [if_pos copied, started, copies_eq_map] at effects
  rw [if_pos copied, status] at code
  refine ⟨?_, started_eq (congrArg (List.cons _) effects), ?_⟩
  · exact (state_copyAndExecute launcher coloured plan left state copied).trans
      (state_execute launcher coloured plan left _ asked)
  · rw [show outcome.code = _ from code]
    split
    · rename_i succeeds
      exact iff_of_true rfl succeeds
    · rename_i fails
      exact iff_of_false (by decide) fails

end State

/-- A run whose copy succeeds is, from there on, the run of its scripts. -/
theorem run_of_asked {State : Type} (launcher : Launcher State) {surroundings : Surroundings}
    {arguments : Arguments} {input : Input} {plan : Plan} (made : Prepared surroundings arguments input plan)
    (asked : arguments.exec = true) (state : State) (copied : CopySucceeds launcher arguments plan state) :
    let outcome := run launcher surroundings arguments input state
    let executed := runScripts launcher (afterCopy launcher arguments plan state) plan.scripts
      (inputLeft surroundings arguments input)
    outcome.state = executed.state ∧ outcome.started = executed.started ∧
      (outcome.code = 0 ↔ executed.failure = none) := by
  simp only [run, conclude, result_plan_eq_ok_iff.mpr made]
  exact perform_of_asked launcher surroundings.coloured plan _ state asked copied

theorem afterCopy_machine (clipboardCode : Option Nat) (arguments : Arguments) (plan : Plan) (machine : Machine) :
    afterCopy (Machine.launcher clipboardCode) arguments plan machine = machine := by
  unfold afterCopy
  split
  · cases clipboardCode <;> rfl
  · rfl

/-- A run that executes the scripts of a prepared plan calls the program for the selected tables in
order, with the words of each, up to the first call that fails; its exit code is 0 exactly when none
does. -/
theorem run_calls {surroundings : Surroundings} {arguments : Arguments} {input : Input} {plan : Plan}
    (made : Prepared surroundings arguments input plan) (asked : arguments.exec = true)
    (short : ∀ script ∈ plan.scripts, (Text.trimmed script).utf8ByteSize ≤ Machine.longestCommand)
    {machine : Machine} {code : List String → Nat} (offers : machine.Offers code) {clipboardCode : Option Nat}
    (copied : CopySucceeds (Machine.launcher clipboardCode) arguments plan machine) :
    ∃ (tables : List Table) (options : ScriptOptions),
      plan.ids.map plan.catalogue.get? = tables.map some ∧
      let outcome := run (Machine.launcher clipboardCode) surroundings arguments input machine
      outcome.state.callsOf "rails" =
          machine.callsOf "rails" ++ (tables.take outcome.started.length).map (calledWith · options) ∧
        (outcome.code = 0 ↔ ∀ table ∈ tables, statusOf code table options = 0) := by
  obtain ⟨tables, options, found, written⟩ := made.exists_tables
  obtain ⟨text, loaded⟩ := made.exists_text
  refine ⟨tables, options, found, ?_⟩
  have own : ∀ table ∈ tables, table ∈ (Schema.read text).catalogue.tables := by
    intro table member
    have placed : some table ∈ plan.ids.map plan.catalogue.get? := by
      rw [found]
      exact List.mem_map_of_mem member
    obtain ⟨id, _, located⟩ := List.mem_map.mp placed
    rw [loaded] at located
    exact (Catalogue.get?_eq_some_iff.mp located).1
  have fits : ∀ table ∈ tables, (table.command options).utf8ByteSize ≤ Machine.longestCommand := by
    intro table member
    have script := short (table.script options) (by rw [written]; exact List.mem_map_of_mem member)
    rwa [trimmed_script] at script
  obtain ⟨state, started, succeeds⟩ := run_of_asked (Machine.launcher clipboardCode) made asked machine copied
  rw [afterCopy_machine, written] at state started succeeds
  obtain ⟨calls, -, -, failure⟩ := Shell.runScripts_script options own fits offers
    (inputLeft surroundings arguments input) clipboardCode
  intro outcome
  rw [state, started, succeeds]
  exact ⟨calls, failure⟩

end TableScript.Command
