import TableScript.Proofs.Files.Place
import TableScript.Proofs.Shell.Reader
import TableScript.Shell.Machine

/-! How a new shell runs a line of inert words that begins with an installed program: the program is
called once, with the words after its name as they stand, and nothing else changes but the status. -/
namespace TableScript.Shell

open Run

namespace Run

variable {α β γ : Type} {s t u : State}

theorem bind_run {first : Run α} {next : α → Run β} {a : α} (run : first.run s = (.ok a, t)) :
    (first >>= next).run s = (next a).run t := by
  change (ExceptT.bindCont next (first.run s).1) (first.run s).2 = _
  rw [run]
  rfl

theorem pure_run (a : α) : (pure a : Run α).run s = (.ok a, s) := rfl

theorem process_run : process.run s = (.ok s.process, s) := rfl

theorem machine_run : machine.run s = (.ok s.machine, s) := rfl

theorem changeProcess_run (change : Process → Process) :
    (changeProcess change).run s = (.ok (), { s with process := change s.process }) := rfl

theorem changeMachine_run (change : Machine → Machine) :
    (changeMachine change).run s = (.ok (), { s with machine := change s.machine }) := rfl

theorem hasFlag_run (flag : Char) : (hasFlag flag).run s = (.ok (s.process.flags.contains flag), s) := rfl

theorem held?_run (name : String) :
    (held? name).run s = (.ok ((s.process.bindings.lookup name).bind Binding.value), s) := rfl

theorem fieldBreaks_run : fieldBreaks.run s =
    (.ok (((s.process.bindings.lookup "IFS").bind Binding.value).getD " \t\n").toList, s) := rfl

theorem ending_run {body : Run α} {a : α} (run : body.run s = (.ok a, t)) :
    (ending body).run s = (.ok (.ok a), t) := by
  let whole : Run (Except Stop α) := .ok <$> body
  have inner : whole.run s = (.ok (.ok a), t) := by
    change (Except.ok <$> body : Run (Except Stop α)).run s = _
    rw [map_eq_pure_bind, bind_run run, pure_run]
  have stepped (next : Except Stop (Except Stop α) → StateM State (Except Stop (Except Stop α))) :
      (whole.run >>= next) s = next (.ok (.ok a)) t := by
    change next (whole.run s).1 (whole.run s).2 = _
    rw [inner]
  simp only [ending, tryCatch, tryCatchThe, MonadExceptOf.tryCatch, ExceptT.tryCatch, ExceptT.run_mk]
  exact stepped _

/-- A loop that goes on to its end and leaves the state as it is. -/
theorem forIn_run {l : List γ} {h : γ → α} {f : α → β → Run (ForInStep β)} {g : β → γ → β}
    (step : ∀ a ∈ l, ∀ b, (f (h a) b).run s = (.ok (.yield (g b a)), s)) (b : β) :
    (forIn (l.map h) b f).run s = (.ok (l.foldl g b), s) := by
  induction l generalizing b with
  | nil => rfl
  | cons a l ih =>
    rw [List.map_cons, List.forIn_cons, bind_run (step a List.mem_cons_self b)]
    exact ih (fun other member => step other (List.mem_cons_of_mem a member)) (g b a)

/-- A loop of rounds that ends in its second round. -/
theorem forIn_rounds {f : Nat → β → Run (ForInStep β)} {b : β} (next result : β)
    (first : (f 0 b).run s = (.ok (.yield next), t)) (second : (f 1 next).run t = (.ok (.done result), u)) :
    (forIn [0:roundLimit] b f).run s = (.ok result, u) := by
  have rounds : List.range' 0 roundLimit 1 = 0 :: 1 :: List.range' 2 99998 1 := rfl
  rw [Std.Legacy.Range.forIn_eq_forIn_range', Std.Legacy.Range.size]
  simp only [Nat.sub_zero, Nat.add_sub_cancel, Nat.div_one]
  rw [rounds, List.forIn_cons, bind_run first]
  dsimp only
  rw [List.forIn_cons, bind_run second]
  rfl

end Run

/-! ### Words -/

section Words

variable {word : List Char} (steps : Nat) (s : State)

theorem wordBits_run (word : List Char) :
    (wordBits (steps + 2) .literal (word.map .char)).run s = (.ok (word.map (.char · false)), s) := by
  have joined : (word.foldl (fun (bits : Array Bit) c => bits ++ [Bit.char c false]) #[]).toList =
      word.map (.char · false) := by simp
  have step : ∀ c ∈ word, ∀ bits : Array Bit,
      (do return ForInStep.yield (bits ++ (← bitsOf (steps + 1) .literal (.char c))) : Run _).run s =
        (.ok (.yield (bits ++ [Bit.char c false])), s) := by
    intro c _ bits
    rw [bitsOf]
    rfl
  rw [wordBits, bind_run (forIn_run step #[]), pure_run, joined]

theorem fieldsOf_chars (breaks : List Char) (ending : Ending) (word : List Char) (field : List Letter) :
    fieldsOf breaks ending (some field) (word.map (.char · false)) = [field ++ word.map (·, false)] := by
  induction word generalizing field with
  | nil => simp [fieldsOf]
  | cons c word ih => simp [fieldsOf, ih]

theorem fieldsOf_word (breaks : List Char) (filled : word ≠ []) :
    fieldsOf breaks .mark none (word.map (.char · false)) = [word.map (·, false)] := by
  obtain ⟨c, rest, rfl⟩ := List.exists_cons_of_ne_nil filled
  rw [List.map_cons, fieldsOf, fieldsOf_chars]
  rfl

variable (inert : IsInert word)

include inert

theorem withHome_run : (withHome (word.map .char)).run s = (.ok (word.map .char), s) := by
  have no_tilde : (tilde? false (word.map .char)).run s = (.ok none, s) := by
    unfold tilde?
    split
    · rename_i rest same
      have first : Piece.char '~' ∈ word.map .char := same ▸ List.mem_cons_self
      obtain ⟨c, member, same⟩ := List.mem_map.mp first
      cases same
      exact absurd (inert _ member) (by decide)
    · rfl
  rw [withHome, bind_run no_tilde]
  rfl

theorem isPattern_of_isInert : isPattern (word.map (·, false)) = false := by
  rw [isPattern, List.any_eq_false]
  intro letter member
  obtain ⟨c, inside, rfl⟩ := List.mem_map.mp member
  have unlike {d : Char} (special : isInertChar d = false) := ne_of_isInertChar (inert c inside) special
  simp [unlike (d := '*') (by decide), unlike (d := '?') (by decide), unlike (d := '[') (by decide)]

theorem expandPaths_run : (expandPaths (word.map (·, false))).run s = (.ok [String.ofList word], s) := by
  have text : plain (word.map (·, false)) = String.ofList word := by simp [plain, Function.comp_def]
  rw [expandPaths, bind_run (hasFlag_run 'f'), isPattern_of_isInert inert, text]
  rfl

theorem wordFields_run (filled : word ≠ []) :
    (wordFields (steps + 3) (word.map .char)).run s = (.ok [String.ofList word], s) := by
  rw [wordFields, bind_run (withHome_run s inert), bind_run (wordBits_run _ s _)]
  dsimp only
  rw [bind_run fieldBreaks_run, fieldsOf_word _ filled]
  refine bind_run (a := [String.ofList word]) ?_
  rw [List.forIn_cons, bind_assoc, bind_run (expandPaths_run s inert)]
  rfl

omit inert

theorem commandFields_run {words : List (List Char)} (inert : ∀ word ∈ words, word ≠ [] ∧ IsInert word) :
    (commandFields (steps + 4) (words.map (List.map .char))).run s = (.ok (words.map String.ofList), s) := by
  have joined : words.foldl (fun fields word => fields ++ [String.ofList word]) [] = words.map String.ofList := by
    simp [← List.flatMap_def, ← List.map_eq_flatMap]
  rw [commandFields, bind_run (forIn_run (l := words) (g := fun fields word => fields ++ [String.ofList word]) _ []),
    pure_run, joined]
  intro word member fields
  obtain ⟨filled, plain⟩ := inert word member
  dsimp only
  rw [assignment?_of_inert plain, ite_self]
  dsimp only
  rw [bind_run (wordFields_run _ s plain filled)]
  rfl

theorem redirect_run : (redirect (steps + 1) []).run s = (.ok true, s) := by
  rw [redirect]
  rfl

end Words

/-! ### Machines that have the program, and new shells on them -/

def inUsr (name : String) : List FileName := ["usr", name].map Text.encodeString

/-- The program `rails` is installed, and no directory that is searched before its own is there. -/
structure Machine.Offers (machine : Machine) (code : List String → Nat) : Prop where
  installed : machine.programs.lookup "rails" = some code
  unshadowed : ∀ name ∈ ["local", "sbin"], machine.root.at? (inUsr name) = none

example : ({ root := .directory [], home := [], programs := [("rails", fun _ => 3)] } : Machine).Offers fun _ => 3 :=
  ⟨rfl, by decide⟩

/-- A machine that has the program as a command meets it, with no other process about. -/
structure Machine.IsReady (machine : Machine) (code : List String → Nat) : Prop extends machine.Offers code where
  present : (machine.root.at? (inUsr "bin")).isSome
  signals : machine.signals = []
  pending : machine.pending = []

def Machine.noting (machine : Machine) (call : List String) : Machine :=
  { machine with calls := machine.calls ++ [call] }

def pathIn (directory : String) : String := withoutSlashes directory ++ "/" ++ "rails"

/-- A directory of the search path from which the program would be reached through an entry of `/usr`
that is not there. -/
def IsShadowed (second directory : String) : Prop :=
  second ∈ ["local", "sbin"] ∧ directory ≠ "" ∧ directory ∉ programDirectories ∧
    directoryName (pathIn directory) ∉ programDirectories ∧ (toPath (pathIn directory)).isAbsolute = true ∧
    inUsr second <+: FileSystem.route (toPath (pathIn directory)) ∧
    FileSystem.route (toPath (pathIn directory)) ≠ inUsr second

instance (second directory : String) : Decidable (IsShadowed second directory) :=
  inferInstanceAs (Decidable (_ ∧ _ ∧ _ ∧ _ ∧ _ ∧ _ ∧ _))

structure Process.IsFresh (process : Process) : Prop where
  line : process.line = 1
  flags : process.flags = []
  functions : process.functions = []
  aliases : process.aliases = []
  traps : process.traps = []
  outputStatus : process.outputStatus = none
  path : (process.bindings.lookup "PATH").bind Binding.value = some defaultPath

def Process.withStatus (process : Process) (status : Nat) : Process := { process with status := status }

section Ready

variable {machine : Machine} {process : Process} {code : List String → Nat} (ready : machine.IsReady code)

include ready

theorem Machine.IsReady.noting (call : List String) : (machine.noting call).IsReady code where
  installed := ready.installed
  unshadowed := ready.unshadowed
  present := ready.present
  signals := ready.signals
  pending := ready.pending

theorem actOnSignals_run (steps : Nat) :
    (actOnSignals (steps + 1)).run ⟨machine, process⟩ = (.ok (), ⟨machine, process⟩) := by
  have none_there : takeSignal?.run ⟨machine, process⟩ = (.ok none, ⟨machine, process⟩) := by
    rw [takeSignal?, bind_run process_run]
    dsimp only
    split
    · rfl
    · rw [bind_run machine_run, ready.signals]
      rfl
  rw [actOnSignals, bind_run none_there]
  rfl

theorem settle_run (steps : Nat) (deadline : Option Nat) (begun : List Nat) :
    (settle (steps + 1) deadline begun).run ⟨machine, process⟩ = (.ok (), ⟨machine, process⟩) := by
  rw [settle, bind_run machine_run, ready.pending]
  rfl

section Search

variable {second directory : String} (shadowed : IsShadowed second directory)

include shadowed

theorem programAt_run :
    (programAt (pathIn directory)).run ⟨machine, process⟩ = (.ok .missing, ⟨machine, process⟩) := by
  obtain ⟨member, -, -, outside, absolute, ⟨rest, route⟩, further⟩ := shadowed
  have some_left : rest ≠ [] := by
    rintro rfl
    exact further (by rw [← route, List.append_nil])
  have ordinary : ∀ name ∈ inUsr second, name ≠ [dot] ∧ name ≠ [dot, dot] ∧ name.length ≤ 255 := by
    rcases List.mem_pair.mp member with rfl | rfl <;> decide
  have traced := FileNode.trace_of_missing ready.present (ready.unshadowed second member) some_left ordinary true
    FileSystem.linkLimit
  have filled : (toPath (pathIn directory)).bytes ≠ [] := by
    intro empty
    simp [Path.isAbsolute, empty] at absolute
  have placed : (placeOf (pathIn directory) true).run ⟨machine, process⟩ =
      (.ok (.error .notFound), ⟨machine, process⟩) := by
    rw [placeOf]
    dsimp only
    rw [if_neg filled, bind_run process_run, bind_run machine_run, if_pos absolute, List.nil_append, ← route, pure_run]
    exact congrArg (fun result => (Except.ok result, State.mk machine process)) traced
  have absent : (nodeOf (pathIn directory) true).run ⟨machine, process⟩ =
      (.ok (.error .notFound), ⟨machine, process⟩) := by
    rw [nodeOf, bind_run placed]
    rfl
  rw [programAt, if_neg (fun both => outside (by simpa using both.1)), bind_run absent]
  rfl

theorem searchProgram_run (others : List String) (isDenied : Bool) :
    (searchProgram "rails" isDenied (directory :: others)).run ⟨machine, process⟩ =
      (searchProgram "rails" isDenied others).run ⟨machine, process⟩ := by
  have ⟨_, filled, outside, _⟩ := shadowed
  rw [searchProgram, bind_run machine_run, if_neg (fun both => outside (by simpa using both.1))]
  dsimp only
  rw [if_neg filled]
  exact bind_run (programAt_run ready shadowed)

end Search

variable (fresh : process.IsFresh)

include fresh

theorem findProgram_run :
    (findProgram "rails").run ⟨machine, process⟩ = (.ok (.installed "rails"), ⟨machine, process⟩) := by
  have directories : searchPath defaultPath =
      ["/usr/local/sbin", "/usr/local/bin", "/usr/sbin", "/usr/bin", "/sbin", "/bin"] := by decide
  have held : (held? "PATH").run ⟨machine, process⟩ = (.ok (some defaultPath), ⟨machine, process⟩) := by
    rw [held?_run, fresh.path]
  have earlier : IsShadowed "local" "/usr/local/sbin" ∧ IsShadowed "local" "/usr/local/bin" ∧
      IsShadowed "sbin" "/usr/sbin" := by decide
  obtain ⟨first, second, third⟩ := earlier
  rw [findProgram, if_neg (by decide), bind_run held, if_neg (by decide), bind_run held]
  dsimp only
  rw [directories, searchProgram_run ready first, searchProgram_run ready second, searchProgram_run ready third,
    searchProgram, bind_run machine_run, if_pos (by simp [ready.installed]; decide)]
  rfl

theorem runProgram_run (steps : Nat) (arguments : List String) :
    (runProgram (steps + 1) false "rails" arguments).run ⟨machine, process⟩ = (.ok (),
      ⟨machine.noting ("rails" :: arguments), process.withStatus (code arguments % 256)⟩) := by
  rw [runProgram, bind_run (findProgram_run ready fresh)]
  dsimp only
  rw [bind_run machine_run, bind_run (changeMachine_run _), ready.installed]
  rfl

theorem invoke_run (steps : Nat) (isTested : Bool) (arguments : List String) :
    (invoke (steps + 2) isTested true "rails" arguments).run ⟨machine, process⟩ = (.ok (),
      ⟨machine.noting ("rails" :: arguments), process.withStatus (code arguments % 256)⟩) := by
  have no_function : (if true = true ∧ (!specialBuiltins.contains "rails") = true then
      process.functions.lookup "rails" else none) = none := by
    rw [fresh.functions]
    decide
  rw [invoke]
  dsimp only
  rw [bind_run process_run]
  split
  · rename_i body defined
    rw [no_function] at defined
    contradiction
  · rw [if_neg (by decide)]
    exact runProgram_run ready fresh _ _

omit ready

theorem Process.IsFresh.withStatus (status : Nat) : (process.withStatus status).IsFresh where
  line := fresh.line
  flags := fresh.flags
  functions := fresh.functions
  aliases := fresh.aliases
  traps := fresh.traps
  outputStatus := fresh.outputStatus
  path := fresh.path

theorem hasFlag_of_isFresh (flag : Char) :
    (hasFlag flag).run ⟨machine, process⟩ = (.ok false, ⟨machine, process⟩) := by
  rw [hasFlag_run, fresh.flags]
  rfl

theorem exitOnFailure_run (isTested : Bool) :
    (exitOnFailure isTested).run ⟨machine, process⟩ = (.ok (), ⟨machine, process⟩) := by
  rw [exitOnFailure, bind_run process_run, bind_run (hasFlag_of_isFresh fresh 'e'), if_neg (by simp)]
  rfl

theorem finish_run (steps : Nat) :
    (finish (steps + 1)).run ⟨machine, process⟩ = (.ok (), ⟨machine, process⟩) := by
  rw [finish, bind_run process_run, fresh.traps]
  rfl

end Ready

/-! ### Lines that call the program -/

section Line

variable {machine : Machine} {process : Process} {code : List String → Nat} (ready : machine.IsReady code)
  (fresh : process.IsFresh) {words : List (List Char)} (inert : ∀ word ∈ words, IsInert word)

/-- The arguments that the words after the name of a program come to. -/
def argumentsOf (words : List (List Char)) : List String := (words.filter (· ≠ [])).map String.ofList

def Machine.called (machine : Machine) (process : Process) (code : List String → Nat)
    (arguments : List String) : State :=
  ⟨machine.noting ("rails" :: arguments), process.withStatus (code arguments % 256)⟩

include ready fresh inert

theorem runSimple_run (steps : Nat) (isTested : Bool) :
    (runSimple (steps + 5) isTested 1 [] (("rails".toList :: words.filter (· ≠ [])).map (List.map .char)) []).run
      ⟨machine, process⟩ = (.ok (), machine.called process code (argumentsOf words)) := by
  have kept : (changeProcess ({ · with line := 1, outputStatus := none })).run ⟨machine, process⟩ =
      (.ok (), ⟨machine, process⟩) := by
    rw [changeProcess_run]
    congr 2
    rw [← fresh.line, ← fresh.outputStatus]
  have whole : ∀ word ∈ "rails".toList :: words.filter (· ≠ []), word ≠ [] ∧ IsInert word := by
    refine List.forall_mem_cons.mpr ⟨by decide, fun word member => ?_⟩
    obtain ⟨present, filled⟩ := List.mem_filter.mp member
    exact ⟨by simpa using filled, inert word present⟩
  have named : ("rails".toList :: words.filter (· ≠ [])).map String.ofList = "rails" :: argumentsOf words := by
    rw [List.map_cons, String.ofList_toList, argumentsOf]
  rw [runSimple, bind_run kept, bind_run (commandFields_run _ _ whole), bind_run process_run]
  dsimp only
  rw [bind_run (redirect_run _ _), if_neg (by decide), List.forIn_nil, bind_run (pure_run _),
    bind_run (hasFlag_of_isFresh fresh 'x'), named]
  dsimp only
  rw [if_neg (by decide), bind_run (ending_run (invoke_run ready fresh _ _ _))]
  rfl

theorem runCommand_run (steps : Nat) (isTested : Bool) :
    (runCommand (steps + 6) isTested (lineCommand 1 "rails".toList words)).run ⟨machine, process⟩ =
      (.ok (), machine.called process code (argumentsOf words)) := by
  rw [lineCommand, runCommand, bind_run (hasFlag_of_isFresh fresh 'n'), if_neg (by decide),
    bind_run (runSimple_run ready fresh inert _ _), Machine.called, bind_run (actOnSignals_run (ready.noting _) _)]
  exact exitOnFailure_run (fresh.withStatus _) isTested

theorem runScript_run (steps : Nat) (isTested : Bool) :
    (runScript (steps + 7) isTested (.ofScript (String.ofList ("rails".toList ++ spacedOut words)) 1)).run
      ⟨machine, process⟩ = (.ok (), machine.called process code (argumentsOf words)) := by
  have begun : readLine?.run ⟨"rails".toList ++ spacedOut words, 1, none, process.aliases⟩ =
      .ok (some (lineCommand 1 "rails".toList words), ⟨[], 1, none, []⟩) := by
    rw [fresh.aliases]
    exact readLine?_line (by decide) (List.forall_mem_cons.mpr ⟨by decide, inert⟩) (by decide)
  have ended (aliases : List (String × String)) :
      readLine?.run ⟨[], 1, none, aliases⟩ = .ok (none, ⟨[], 1, none, aliases⟩) := rfl
  let final := machine.called process code (argumentsOf words)
  rw [runScript, bind_run (forIn_rounds (t := final) (u := final) (none, ⟨[], 1, none, []⟩, true)
    (some (), ⟨[], 1, none, []⟩, true) _ _)]
  · rfl
  -- The first round reads the whole line and runs it, the second finds the script at its end.
  · dsimp only [Source.ofScript]
    rw [bind_run process_run, String.toList_ofList, begun]
    dsimp only [lineCommand]
    rw [← lineCommand, bind_run (runCommand_run ready fresh inert _ _)]
    rfl
  · dsimp only
    rw [bind_run process_run, ended]
    rfl

theorem session_run :
    (Machine.session (String.ofList ("rails".toList ++ spacedOut words))).run ⟨machine, process⟩ =
      (.ok (), machine.called process code (argumentsOf words)) := by
  have limit : Machine.nestingLimit = 3993 + 7 := rfl
  rw [Machine.session, limit, bind_run (ending_run (runScript_run ready fresh inert _ _))]
  dsimp only [Machine.called]
  rw [bind_run (finish_run (fresh.withStatus _) _), bind_run process_run, bind_run machine_run,
    bind_run (settle_run (ready.noting _) _ _ _)]
  rfl

end Line

end TableScript.Shell
