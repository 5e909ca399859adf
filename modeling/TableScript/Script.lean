import TableScript.Catalogue
import TableScript.Failure
import TableScript.Model.Name

/-! Generator scripts: one command per table, followed by an empty line. -/
namespace TableScript

inductive Target where
  | scaffold
  | factory
  deriving DecidableEq, Repr

def Target.generator : Target → String
  | .scaffold => "scaffold"
  | .factory => "factory_girl:model"

/-- What a generator is told: which one it is, whether it writes a migration, and whether it
replaces files that are there. -/
structure ScriptOptions where
  target : Target
  migration : Bool
  force : Bool
  deriving DecidableEq, Repr

def ScriptOptions.default : ScriptOptions := ⟨.scaffold, false, false⟩

def Column.argument (column : Column) : String :=
  column.name ++ ":" ++ if column.isReference then "references" else column.kind

def Table.words (table : Table) (options : ScriptOptions) : List String :=
  ["rails", "generate", options.target.generator, Model.className table.name] ++
  ((table.columns.filter fun column => !column.isBookkeeping).map Column.argument) ++
  [if options.migration then "--migration" else "--no-migration"] ++
  (if options.force then ["--force"] else [])

def Table.command (table : Table) (options : ScriptOptions) : String :=
  String.intercalate " " (table.words options)

def Table.script (table : Table) (options : ScriptOptions) : String :=
  table.command options ++ "\n\n"

namespace Catalogue

def script (catalogue : Catalogue) (options : ScriptOptions) : String :=
  String.join (catalogue.tables.map (Table.script · options))

def tablesAt (catalogue : Catalogue) : List Nat → Except Failure (List Table)
  | [] => .ok []
  | id :: ids => match catalogue.get? id with
    | none => .error (.unknownTable id (toString id))
    | some table => match catalogue.tablesAt ids with
      | .ok tables => .ok (table :: tables)
      | .error failure => .error failure

def scripts (catalogue : Catalogue) (ids : List Nat) (options : ScriptOptions) :
    Except Failure (List String) :=
  (catalogue.tablesAt ids).map fun tables => tables.map (Table.script · options)

end Catalogue

end TableScript
