import TableScript.Execution

/-! How far a run of commands comes. Each command meets the state and the input that the commands before
it left, and the run ends with the first that cannot be started or fails. -/
namespace TableScript

def CommandResult.Succeeds : CommandResult → Prop
  | .notStarted _ => False
  | .ended status _ => status.isSuccess = true

def CommandResult.failure? (command : String) : CommandResult → Option Failure
  | .notStarted fault => some (.system fault)
  | .ended status _ => if status.isSuccess then none else some (.commandFailed command status)

/-- Whether the clipboard program was started, took its text and ended well. -/
def ClipboardResult.Succeeds : ClipboardResult → Prop
  | .notStarted _ | .notTaken _ => False
  | .ended status => status.isSuccess = true

instance (result : CommandResult) : Decidable result.Succeeds :=
  match result with
  | .notStarted _ => inferInstanceAs (Decidable False)
  | .ended status _ => inferInstanceAs (Decidable (status.isSuccess = true))

instance (result : ClipboardResult) : Decidable result.Succeeds :=
  match result with
  | .notStarted _ | .notTaken _ => inferInstanceAs (Decidable False)
  | .ended status => inferInstanceAs (Decidable (status.isSuccess = true))

theorem CommandResult.failure?_eq_none_iff {result : CommandResult} {command : String} :
    result.failure? command = none ↔ result.Succeeds := by
  cases result <;> simp [failure?, Succeeds]

/-- The two ways in which a command fails. -/
theorem CommandResult.failure?_eq_some_iff {result : CommandResult} {command : String}
    {failure : Failure} : result.failure? command = some failure ↔
      (∃ fault, result = .notStarted fault ∧ failure = .system fault) ∨
      ∃ status complaint, result = .ended status complaint ∧ status.isSuccess = false ∧
        failure = .commandFailed command status := by
  constructor
  · intro fails
    cases result with
    | notStarted fault => exact .inl ⟨fault, rfl, (Option.some.inj fails).symm⟩
    | ended status complaint =>
      simp only [failure?] at fails
      split at fails
      · contradiction
      · rename_i unsuccessful
        exact .inr ⟨status, complaint, rfl, by simpa using unsuccessful, (Option.some.inj fails).symm⟩
  · rintro (⟨fault, rfl, rfl⟩ | ⟨status, complaint, rfl, unsuccessful, rfl⟩)
    · rfl
    · simp [failure?, unsuccessful]

theorem CommandResult.not_succeeds {result : CommandResult} {command : String} {failure : Failure}
    (fails : result.failure? command = some failure) : ¬ result.Succeeds := by
  rw [← failure?_eq_none_iff, fails]
  exact Option.some_ne_none failure

theorem ClipboardResult.failure?_eq_none_iff {result : ClipboardResult} :
    result.failure? = none ↔ result.Succeeds := by
  cases result <;> simp [failure?, Succeeds]

namespace Launcher

variable {State : Type} (launcher : Launcher State)

def after (site : Site State) (commands : List String) : Site State :=
  commands.foldl (fun site command => (launcher.shell site command).2) site

def AllSucceed : Site State → List String → Prop
  | _, [] => True
  | site, command :: rest =>
    (launcher.shell site command).1.Succeeds ∧ AllSucceed (launcher.shell site command).2 rest

instance decidableAllSucceed (site : Site State) (commands : List String) :
    Decidable (launcher.AllSucceed site commands) :=
  match commands with
  | [] => inferInstanceAs (Decidable True)
  | command :: rest =>
    have := decidableAllSucceed (launcher.shell site command).2 rest
    inferInstanceAs (Decidable (_ ∧ _))

def IgnoresInput : Prop :=
  ∀ (state : State) (input other : Blocks) (command : String),
    (launcher.shell ⟨state, input⟩ command).1 = (launcher.shell ⟨state, other⟩ command).1 ∧
      (launcher.shell ⟨state, input⟩ command).2.state = (launcher.shell ⟨state, other⟩ command).2.state

/-- The commands that are handed to the shell out of given ones, and the failure that ends the run:
either all succeed, or those up to a first one that fails are handed over. -/
inductive Runs (site : Site State) : List String → List String → Option Failure → Prop where
  | all {commands : List String} (succeed : launcher.AllSucceed site commands) :
      Runs site commands commands none
  | failing {before after : List String} {command : String} {failure : Failure}
      (succeed : launcher.AllSucceed site before)
      (fails : (launcher.shell (launcher.after site before) command).1.failure? command = some failure) :
      Runs site (before ++ command :: after) (before ++ [command]) (some failure)

variable {launcher}

theorem allSucceed_append {site : Site State} {before rest : List String} :
    launcher.AllSucceed site (before ++ rest) ↔
      launcher.AllSucceed site before ∧ launcher.AllSucceed (launcher.after site before) rest := by
  induction before generalizing site with
  | nil => simp [AllSucceed, after]
  | cons command before ih => simp [AllSucceed, after, ih, and_assoc]

namespace Runs

variable {site : Site State} {command : String} {commands started : List String}

theorem first {failure : Failure}
    (fails : (launcher.shell site command).1.failure? command = some failure) :
    launcher.Runs site (command :: commands) [command] (some failure) := by
  have none_before : launcher.AllSucceed site [] := trivial
  simpa using Runs.failing none_before fails

theorem cons {failure : Option Failure} (succeeds : (launcher.shell site command).1.Succeeds)
    (rest : launcher.Runs (launcher.shell site command).2 commands started failure) :
    launcher.Runs site (command :: commands) (command :: started) failure := by
  cases rest with
  | all succeed => exact .all ⟨succeeds, succeed⟩
  | failing succeed fails =>
    have extended : launcher.AllSucceed site (command :: _) := ⟨succeeds, succeed⟩
    exact Runs.failing extended fails

theorem failure_eq_none_iff {failure : Option Failure}
    (runs : launcher.Runs site commands started failure) :
    failure = none ↔ launcher.AllSucceed site commands := by
  cases runs with
  | all succeed => simp [succeed]
  | failing succeed fails =>
    simp [allSucceed_append, AllSucceed, CommandResult.not_succeeds fails]

/-- A run comes to the end of its commands or to one that fails. -/
theorem failed_or_all {failure : Option Failure}
    (runs : launcher.Runs site commands started failure) :
    (launcher.AllSucceed site commands ∧ started = commands ∧ failure = none) ∨
      ∃ before command after cause, commands = before ++ command :: after ∧
        launcher.AllSucceed site before ∧ started = before ++ [command] ∧
        (launcher.shell (launcher.after site before) command).1.failure? command = some cause ∧
        failure = some cause := by
  cases runs with
  | all succeed => exact .inl ⟨succeed, rfl, rfl⟩
  | failing succeed fails => exact .inr ⟨_, _, _, _, rfl, succeed, rfl, fails, rfl⟩

theorem started_first {failure : Option Failure} (runs : launcher.Runs site commands started failure) :
    started <+: commands := by
  cases runs with
  | all => exact List.prefix_rfl
  | failing => exact ⟨_, by rw [List.append_assoc, List.singleton_append]⟩

/-- A run that starts no command has none to start. -/
theorem eq_nil_of_idle {failure : Option Failure} (runs : launcher.Runs site commands started failure)
    (idle : started = []) : commands = [] := by
  rcases runs.failed_or_all with ⟨_, whole, _⟩ | ⟨before, command, _, _, _, _, last, _⟩
  · rw [← whole, idle]
  · simp [idle] at last

/-- A run in which no command fails has no command left. -/
theorem started_eq {failure : Option Failure} (runs : launcher.Runs site commands started failure)
    (succeed : launcher.AllSucceed site started) : started = commands := by
  cases runs with
  | all => rfl
  | failing _ fails =>
    exact absurd (allSucceed_append.mp succeed).2.1 (CommandResult.not_succeeds fails)

end Runs

end Launcher

section Runs

variable {State : Type} {launcher : Launcher State} {site : Site State} {command : String}

/-- A command that fails is the last one that the shell meets. -/
theorem runCommands_of_failure {failure : Failure}
    (fails : (launcher.shell site command).1.failure? command = some failure) (rest : List String) :
    (runCommands launcher site (command :: rest)).started = [command] ∧
      (runCommands launcher site (command :: rest)).failure = some failure ∧
      (runCommands launcher site (command :: rest)).toSite = (launcher.shell site command).2 := by
  rcases answered : launcher.shell site command with ⟨result, next⟩
  cases result with
  | notStarted fault => simpa [runCommands, answered, CommandResult.failure?] using fails
  | ended status complaint =>
    by_cases succeeds : status.isSuccess = true
    · simp [answered, CommandResult.failure?, succeeds] at fails
    · simpa [runCommands, answered, CommandResult.failure?, succeeds] using fails

/-- After a command that succeeds the run goes on where the command left off. -/
theorem runCommands_of_succeeds (succeeds : (launcher.shell site command).1.Succeeds)
    (rest : List String) :
    let later := runCommands launcher (launcher.shell site command).2 rest
    (runCommands launcher site (command :: rest)).started = command :: later.started ∧
      (runCommands launcher site (command :: rest)).failure = later.failure ∧
      (runCommands launcher site (command :: rest)).toSite = later.toSite := by
  rcases answered : launcher.shell site command with ⟨result, next⟩
  cases result with
  | notStarted fault => simp [answered, CommandResult.Succeeds] at succeeds
  | ended status complaint =>
    have success : status.isSuccess = true := by simpa [answered, CommandResult.Succeeds] using succeeds
    simp [runCommands, answered, success]

variable (launcher site) (commands : List String)

/-- A run hands its commands over in order, each where those before it left off, and ends with
the first that fails. -/
theorem runs_runCommands :
    launcher.Runs site commands (runCommands launcher site commands).started
      (runCommands launcher site commands).failure := by
  induction commands generalizing site with
  | nil => exact .all trivial
  | cons command rest ih =>
    cases result : (launcher.shell site command).1.failure? command with
    | some failure =>
      obtain ⟨started, failed, _⟩ := runCommands_of_failure result rest
      rw [started, failed]
      exact .first result
    | none =>
      have succeeds := CommandResult.failure?_eq_none_iff.mp result
      obtain ⟨started, failed, _⟩ := runCommands_of_succeeds succeeds rest
      rw [started, failed]
      exact .cons succeeds (ih _)

/-- A run leaves what the commands it handed over leave one after the other. -/
theorem toSite_runCommands :
    (runCommands launcher site commands).toSite =
      launcher.after site (runCommands launcher site commands).started := by
  induction commands generalizing site with
  | nil => rfl
  | cons command rest ih =>
    cases result : (launcher.shell site command).1.failure? command with
    | some failure =>
      obtain ⟨started, _, left⟩ := runCommands_of_failure result rest
      rw [started, left]
      rfl
    | none =>
      obtain ⟨started, _, left⟩ :=
        runCommands_of_succeeds (CommandResult.failure?_eq_none_iff.mp result) rest
      rw [started, left, ih]
      rfl

end Runs

theorem commandsOf_eq (scripts : List String) :
    commandsOf scripts = (scripts.map Text.trimmed).filter (· ≠ "") := by
  induction scripts with
  | nil => rfl
  | cons script scripts ih =>
    by_cases blank : Text.trimmed script = "" <;>
      simpa [commandsOf, commandOf?, blank] using ih

section Input

variable {State : Type} {launcher : Launcher State} (ignores : launcher.IgnoresInput)

include ignores

/-- Where commands ignore their input, a run of commands does so too. -/
theorem runCommands_of_ignoresInput (commands : List String) (state : State) (input other : Blocks) :
    let run := runCommands launcher ⟨state, input⟩ commands
    let twin := runCommands launcher ⟨state, other⟩ commands
    run.started = twin.started ∧ run.complaints = twin.complaints ∧ run.failure = twin.failure ∧
      run.state = twin.state := by
  induction commands generalizing state input other with
  | nil => exact ⟨rfl, rfl, rfl, rfl⟩
  | cons command rest ih =>
    obtain ⟨answer, left⟩ := ignores state input other command
    rcases answered : launcher.shell ⟨state, input⟩ command with ⟨result, next, unread⟩
    rcases otherwise : launcher.shell ⟨state, other⟩ command with ⟨_, _, unused⟩
    simp only [answered, otherwise] at answer left
    subst answer left
    cases result with
    | notStarted fault => simp [runCommands, answered, otherwise]
    | ended status complaint =>
      obtain ⟨started, complaints, failure, kept⟩ := ih next unread unused
      by_cases success : status.isSuccess = true <;>
        simp [runCommands, answered, otherwise, success, started, complaints, failure, kept]

end Input

/-- Scripts are run up to the first whose command fails. The commands are the scripts without white
space at their ends, blank ones left out. The shell meets the first of them in order and no others:
what is left, of the input as well, is what these commands leave, whatever the shell does and keeps.
Either all commands succeed and the run is good, or they succeed up to one that is the last to be handed
over: it could not be started, or it ended with the status that the failure names. -/
theorem runScripts_in_order {State : Type} (launcher : Launcher State) (state : State)
    (scripts : List String) (input : Blocks) :
    let commands := (scripts.map Text.trimmed).filter (· ≠ "")
    let run := runScripts launcher state scripts input
    let site : Site State := ⟨state, input⟩
    run.toSite = launcher.after site run.started ∧
    (run.failure = none ↔ launcher.AllSucceed site commands) ∧
    ((launcher.AllSucceed site commands ∧ run.started = commands ∧ run.failure = none) ∨
      ∃ before command after result, commands = before ++ command :: after ∧
        launcher.AllSucceed site before ∧ run.started = before ++ [command] ∧
        (launcher.shell (launcher.after site before) command).1 = result ∧
        ((∃ fault, result = .notStarted fault ∧ run.failure = some (.system fault)) ∨
          ∃ status complaint, result = .ended status complaint ∧ status.isSuccess = false ∧
            run.failure = some (.commandFailed command status))) := by
  intro commands run site
  have runs : launcher.Runs site (commandsOf scripts) run.started run.failure :=
    runs_runCommands launcher site _
  rw [commandsOf_eq] at runs
  refine ⟨toSite_runCommands launcher site _, runs.failure_eq_none_iff, ?_⟩
  rcases runs.failed_or_all with ⟨succeed, whole, good⟩ |
    ⟨before, command, after, failure, split, succeed, last, fails, failed⟩
  · exact .inl ⟨succeed, whole, good⟩
  · refine .inr ⟨before, command, after, _, split, succeed, last, rfl, ?_⟩
    simpa only [failed, Option.some.injEq] using CommandResult.failure?_eq_some_iff.mp fails

-- A shell that records what it is given never meets the command after one that could not start.
example :
    let launcher : Launcher (List String) :=
      ⟨fun site command => (if command = "b" then .notStarted .notFound else .ended (.exited 0) "",
        { site with state := site.state ++ [command] }), fun met _ => (.ended (.exited 0), met)⟩
    (runScripts launcher [] [" a\n\n", " \n", "b", "c"]).state = ["a", "b"] := by decide +kernel

end TableScript
