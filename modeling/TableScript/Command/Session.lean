import TableScript.Command.Dialogue
import TableScript.Command.Plan
import TableScript.Command.Refusal
import TableScript.Files.Discovery
import TableScript.Files.SettingsFile
import TableScript.Schema.Reader
import TableScript.Selection.Resolution

/-! The first half of a run: choosing the schema file and the tables. It reads files and holds a
dialogue, and comes to a plan or to a refusal. -/
namespace TableScript

def Schema.load (text : String) : Except Failure Catalogue :=
  let catalogue := (read text).catalogue
  if catalogue.isEmpty then .error .noTables else .ok catalogue

namespace Command

/-- What a run finds in its surroundings: files, the user's directory for settings, and whether
texts are coloured. -/
structure Surroundings where
  files : FileSystem
  userDirectory : Option Path
  coloured : Bool

def listed (coloured : Bool) (number : Nat) (text : String) : String :=
  Text.paint coloured [.cyan] (Text.padStart 4 (toString number)) ++ ". " ++ text ++ "\n"

def question (coloured : Bool) (text : String) : Dialogue (Except Refusal String) :=
  .tell ("\n" ++ Text.paint coloured [.bold] text) <| .ask fun
    | .nothing => .done (.error .noInput)
    | .unreadable fault => .done (.error (.unreadableInput fault))
    | .line text => .done (.ok (Text.trimmed text))

def pathNumbered? (paths : List Path) (input : String) : Option Path :=
  match Text.readWord? input.toList with
  | some (place + 1) => paths[place]?
  | _ => none

def choosePath (coloured : Bool) (paths : List Path) : Dialogue (Except Refusal Path) :=
  .tell ("\n" ++ String.join (paths.zipIdx.map fun (path, place) =>
    listed coloured (place + 1) path.display)) <|
  (question coloured "Select a path to the target schema: ").andThen fun input =>
    .done (match pathNumbered? paths input with
      | some path => .ok path
      | none => .error (.noSuchPath input))

def schemaPath (surroundings : Surroundings) (root : Path) : Dialogue (Except Refusal Path) :=
  if root.isSchemaFile then .done (.ok root)
  else match surroundings.files.schemaFiles root with
    | .error failure => .done (.error (.failure failure))
    | .ok [path] => .done (.ok path)
    | .ok paths => choosePath surroundings.coloured paths

def selected (catalogue : Catalogue) (input : String) : Except Refusal (List Nat) :=
  (catalogue.select input).mapError .notSelected

def chooseTables (coloured : Bool) (catalogue : Catalogue) : Dialogue (Except Refusal (List Nat)) :=
  .tell ("\n" ++ Text.paint coloured [.bold, .green] "Loaded tables:" ++ "\n" ++
    String.join (catalogue.listing.map fun (id, name) =>
      listed coloured id (Text.paint coloured [.white] name)) ++
    "\n" ++ Text.paint coloured [.dimmed] selectionHelp ++ "\n") <|
  (question coloured "Select a table: ").andThen fun input => .done (selected catalogue input)

def tableIds (coloured : Bool) (arguments : Arguments) (catalogue : Catalogue) :
    Dialogue (Except Refusal (List Nat)) :=
  match arguments.table, arguments.select with
  | some token, _ => .done (match catalogue.lookup? token with
    | some id => .ok [id]
    | none => .error (.noSuchTable token))
  | none, some input => .done (selected catalogue input)
  | none, none => chooseTables coloured catalogue

def scriptOptions (arguments : Arguments) (settings : Settings) : ScriptOptions where
  target := if arguments.factory then .factory else settings.options.target
  migration := settings.options.migration || arguments.migration
  force := settings.options.force || arguments.force

def loadSchema (files : FileSystem) (path : Path) : Except Refusal Catalogue :=
  match files.readText path with
  | .error fault => .error (.unreadableSchema path.display fault)
  | .ok text => (Schema.load text).mapError (.noTablesIn path.display)

def announce (coloured : Bool) (arguments : Arguments) (path : Path) : Dialogue (Except Refusal Unit) :=
  if arguments.verbose then
    .tell (Text.paint coloured [.dimmed] "Schema:" ++ " " ++
      Text.paint coloured [.yellow] path.display ++ "\n") (.done (.ok ()))
  else .done (.ok ())

def planFor (surroundings : Surroundings) (arguments : Arguments) (settings : Settings)
    (path : Path) : Dialogue (Except Refusal Plan) :=
  (announce surroundings.coloured arguments path).andThen fun _ =>
  match loadSchema surroundings.files path with
  | .error refusal => .done (.error refusal)
  | .ok catalogue =>
    (tableIds surroundings.coloured arguments catalogue).andThen fun ids =>
    let options := scriptOptions arguments settings
    .done (match catalogue.scripts ids options with
      | .ok scripts => .ok ⟨catalogue, ids, scripts, options.target⟩
      | .error failure => .error (.failure failure))

def plan (surroundings : Surroundings) (arguments : Arguments) : Dialogue (Except Refusal Plan) :=
  match Settings.load surroundings.files surroundings.userDirectory with
  | .error failure => .done (.error (.failure failure))
  | .ok settings =>
    (schemaPath surroundings (arguments.path.getD settings.searchRoot)).andThen fun path =>
    planFor surroundings arguments settings path

end Command

end TableScript
