import TableScript.Files.Path

/-! The arguments of the command. They are read from left to right; each option may be given once,
and a value follows its option or is attached to it. -/
namespace TableScript.Command

inductive Format where
  | text
  | json
  deriving DecidableEq, Repr

structure Arguments where
  path : Option Path
  table : Option String
  select : Option String
  factory : Bool
  migration : Bool
  force : Bool
  clipboard : Bool
  exec : Bool
  format : Format
  verbose : Bool

inductive Request where
  | run (arguments : Arguments)
  | version
  | help

inductive Valued where
  | path
  | table
  | select
  | format
  deriving DecidableEq

inductive Switch where
  | factory
  | migration
  | force
  | clipboard
  | exec
  | verbose
  deriving DecidableEq

inductive OptionMeaning where
  | valued (option : Valued)
  | switch (option : Switch)
  | version
  | help

def short? : Char → Option OptionMeaning
  | 'p' => some (.valued .path)
  | 't' => some (.valued .table)
  | 's' => some (.valued .select)
  | 'f' => some (.switch .factory)
  | 'm' => some (.switch .migration)
  | 'c' => some (.switch .clipboard)
  | 'x' => some (.switch .exec)
  | 'v' => some (.switch .verbose)
  | 'V' => some .version
  | 'h' => some .help
  | _ => none

def long? : String → Option OptionMeaning
  | "path" => some (.valued .path)
  | "table" => some (.valued .table)
  | "select" => some (.valued .select)
  | "format" => some (.valued .format)
  | "factory" => some (.switch .factory)
  | "migration" => some (.switch .migration)
  | "force" => some (.switch .force)
  | "clipboard" => some (.switch .clipboard)
  | "exec" => some (.switch .exec)
  | "verbose" => some (.switch .verbose)
  | "version" => some .version
  | "help" => some .help
  | _ => none

structure Given where
  values : List (Valued × String)
  switches : List Switch

namespace Given

/-- Takes a value for an option that has none yet. A path must not be empty and a format must be
known. -/
def value? (given : Given) (option : Valued) (value : String) : Option Given :=
  if given.values.any fun (other, _) => other == option then none
  else if option = .path ∧ value = "" then none
  else if option = .format ∧ value ≠ "text" ∧ value ≠ "json" then none
  else some { given with values := given.values ++ [(option, value)] }

def switch? (given : Given) (option : Switch) : Option Given :=
  if option ∈ given.switches then none
  else some { given with switches := given.switches ++ [option] }

def value (given : Given) (option : Valued) : Option String :=
  given.values.lookup option

def request? (given : Given) : Option Request :=
  if (given.value .table).isSome ∧ (given.value .select).isSome then none
  else some (.run {
    path := (given.value .path).map Path.ofString
    table := given.value .table
    select := given.value .select
    factory := given.switches.contains .factory
    migration := given.switches.contains .migration
    force := given.switches.contains .force
    clipboard := given.switches.contains .clipboard
    exec := given.switches.contains .exec
    format := if given.value .format = some "json" then .json else .text
    verbose := given.switches.contains .verbose })

end Given

/-- What reading an argument leads to: more options are known, a value is still awaited, or the
request is settled. -/
inductive Progress where
  | given (given : Given)
  | awaiting (given : Given) (option : Valued)
  | settled (request : Request)

def attached : List Char → String
  | '=' :: value => String.ofList value
  | value => String.ofList value

def readShorts (given : Given) : List Char → Option Progress
  | [] => some (.given given)
  | letter :: rest => match short? letter with
    | none => none
    | some (.valued option) =>
      if rest = [] then some (.awaiting given option)
      else (given.value? option (attached rest)).map .given
    | some (.switch option) => match given.switch? option with
      | some given => readShorts given rest
      | none => none
    | some .version => some (.settled .version)
    | some .help => some (.settled .help)

def readLong (given : Given) (text : List Char) : Option Progress :=
  let name := String.ofList (text.takeWhile (· ≠ '='))
  let value := match text.dropWhile (· ≠ '=') with
    | [] => none
    | _ :: value => some (String.ofList value)
  match long? name, value with
  | some (.valued option), some value => (given.value? option value).map .given
  | some (.valued option), none => some (.awaiting given option)
  | some (.switch option), none => (given.switch? option).map .given
  | some .version, none => some (.settled .version)
  | some .help, none => some (.settled .help)
  | _, _ => none

def readOption (given : Given) : List Char → Option Progress
  | '-' :: '-' :: text => readLong given text
  | '-' :: c :: text => readShorts given (c :: text)
  | _ => none

def isValue : List Char → Bool
  | '-' :: _ :: _ => false
  | _ => true

def readArguments (given : Given) : List String → Option Request
  | [] => given.request?
  | argument :: rest =>
    if argument = "--" then if rest = [] then given.request? else none
    else match readOption given argument.toList with
      | none => none
      | some (.given given) => readArguments given rest
      | some (.settled request) => some request
      | some (.awaiting given option) => match rest with
        | [] => none
        | value :: rest =>
          if isValue value.toList then match given.value? option value with
            | some given => readArguments given rest
            | none => none
          else none

def Request.ofArguments? (arguments : List String) : Option Request :=
  readArguments ⟨[], []⟩ arguments

end TableScript.Command
