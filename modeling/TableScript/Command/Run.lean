import TableScript.Command.Session
import TableScript.Execution

/-! A whole run of the command. What it does to the world outside comes in a fixed order: printing,
then the clipboard, then commands; nothing of it happens before the plan is made, and nothing after
the first failure. The commands find what the dialogue has not read of the input. -/
namespace TableScript.Command

inductive Effect where
  | print (text : String)
  | copy (text : String)
  | start (command : String)
  deriving DecidableEq, Repr

/-- What a run comes to: its exit code, what it did in order, what it wrote to the error stream, and
the state of the programs it started. -/
structure Outcome (State : Type) where
  code : Nat
  effects : List Effect
  complaints : String
  state : State

def Outcome.printed {State : Type} (outcome : Outcome State) : String :=
  String.join (outcome.effects.filterMap fun
    | .print text => some text
    | _ => none)

def errorLine (coloured : Bool) (refusal : Refusal) : String :=
  Text.paint coloured [.bold, .red] "Error:" ++ " " ++ refusal.message ++ "\n"

def execute {State : Type} (launcher : Launcher State) (coloured : Bool) (arguments : Arguments)
    (plan : Plan) (input : Blocks) (state : State) : Outcome State :=
  if arguments.exec then
    let run := runScripts launcher state plan.scripts input
    let effects := run.started.map Effect.start
    match run.failure with
    | some failure => ⟨1, effects, run.complaints ++ errorLine coloured (.failure failure), run.state⟩
    | none =>
      let count := toString plan.scripts.length
      ⟨0, effects, run.complaints ++ Text.paint coloured [.green] "✓" ++ " executed " ++ count ++
        " script(s)\n", run.state⟩
  else ⟨0, [], "", state⟩

def copyAndExecute {State : Type} (launcher : Launcher State) (coloured : Bool)
    (arguments : Arguments) (plan : Plan) (input : Blocks) (state : State) : Outcome State :=
  if arguments.clipboard then
    let (result, state) := launcher.clipboard state plan.body
    match result.failure? with
    | some failure => ⟨1, [.copy plan.body], errorLine coloured (.failure failure), state⟩
    | none =>
      let rest := execute launcher coloured arguments plan input state
      { rest with
        effects := .copy plan.body :: rest.effects
        complaints := Text.paint coloured [.dimmed] "(copied to your clipboard)" ++ "\n" ++ rest.complaints }
  else execute launcher coloured arguments plan input state

def perform {State : Type} (launcher : Launcher State) (coloured : Bool) (arguments : Arguments)
    (plan : Plan) (input : Blocks) (state : State) : Outcome State :=
  let rest := copyAndExecute launcher coloured arguments plan input state
  { rest with effects := .print (plan.output arguments.format coloured) :: rest.effects }

def conclude {State : Type} (launcher : Launcher State) (coloured : Bool) (arguments : Arguments)
    (input : Blocks) (state : State) : Except Refusal Plan → Outcome State
  | .ok plan => perform launcher coloured arguments plan input state
  | .error refusal => ⟨1, [], errorLine coloured refusal, state⟩

def run {State : Type} (launcher : Launcher State) (surroundings : Surroundings)
    (arguments : Arguments) (input : Input) (state : State) : Outcome State :=
  let conversation := (plan surroundings arguments).hold input
  let rest := conclude launcher surroundings.coloured arguments conversation.input.unread state
    conversation.result
  { rest with complaints := conversation.shown ++ rest.complaints }

def versionLine : String := "scaffold 0.3.0\n"

def usage : String :=
  "Usage: scaffold [OPTIONS]\n\n" ++
  "  -p, --path <PATH>      schema file, or directory to search\n" ++
  "  -t, --table <TABLE>    one table, by number or name\n" ++
  "  -s, --select <SELECT>  tables: 4, (4..6), [4,6] or *\n" ++
  "  -f, --factory          call factory_girl:model instead of scaffold\n" ++
  "  -m, --migration        let the generator write migrations\n" ++
  "      --force            overwrite files\n" ++
  "  -c, --clipboard        copy the script to the clipboard\n" ++
  "  -x, --exec             execute the script\n" ++
  "      --format <FORMAT>  text or json\n" ++
  "  -v, --verbose          show the chosen schema\n" ++
  "  -h, --help             show this help\n" ++
  "  -V, --version          show the version\n"

def answer {State : Type} (launcher : Launcher State) (surroundings : Surroundings)
    (input : Input) (state : State) : Option Request → Outcome State
  | some (.run arguments) => run launcher surroundings arguments input state
  | some .version => ⟨0, [.print versionLine], "", state⟩
  | some .help => ⟨0, [.print usage], "", state⟩
  | none => ⟨2, [], usage, state⟩

end TableScript.Command
