import TableScript.Execution
import TableScript.Proofs.Model.ClassName
import TableScript.Proofs.Schema.Reader
import TableScript.Proofs.Text.Split
import TableScript.Script

/-! What a script can hold. The names of a table that was read have no blanks, colons or dashes, so a
command is cut back into its words and a column's word into its name and kind, and nothing that the
shell would take for more than a word gets into a command. -/
namespace TableScript

open Schema (IsNamedColumn IsNamedTable isNamedTable_of_mem_read)

def isPlainChar (c : Char) : Bool := Text.isAlphanumeric c || ['_', ':', '-'].contains c

def lineWords (line : String) : List String := (line.toList.splitOn ' ').map String.ofList

def argumentParts (word : String) : List String := (word.toList.splitOn ':').map String.ofList

def Column.generatedKind (column : Column) : String :=
  if column.kind ∈ ["references", "belongs_to"] then "references" else column.kind

def Table.generatedColumns (table : Table) : List Column :=
  table.columns.filter fun column => column.name ∉ ["id", "created_at", "updated_at"]

def flags (migration force : Bool) : List String :=
  [if migration then "--migration" else "--no-migration"] ++ if force then ["--force"] else []

theorem Column.argument_eq (column : Column) :
    column.argument = column.name ++ ":" ++ column.generatedKind := by
  simp [argument, generatedKind, isReference]

theorem Table.words_eq (table : Table) (options : ScriptOptions) :
    table.words options =
      ["rails", "generate", options.target.generator, Model.className table.name] ++
        table.generatedColumns.map Column.argument ++ flags options.migration options.force := by
  have same : (fun column : Column => !column.isBookkeeping) =
      fun column => decide (column.name ∉ ["id", "created_at", "updated_at"]) := by
    funext column
    simp [Column.isBookkeeping, Bool.beq_eq_decide_eq, Bool.and_assoc]
  simp only [words, same, generatedColumns, flags, List.append_assoc]

theorem isPlainChar_of_isIdentifierChar {c : Char} (member : Schema.isIdentifierChar c = true) :
    isPlainChar c = true := by
  simp only [Schema.isIdentifierChar, Bool.or_eq_true, beq_iff_eq] at member
  rcases member with alphanumeric | rfl
  · simp [isPlainChar, alphanumeric]
  · decide

namespace Schema.IsNamedColumn

variable {column : Column} (named : IsNamedColumn column)

include named

theorem generatedKind : Schema.IsIdentifier column.generatedKind.toList := by
  unfold Column.generatedKind
  split
  · decide
  · exact named.2

theorem argument_plain : ∀ c ∈ column.argument.toList, isPlainChar c = true := by
  intro c member
  simp only [Column.argument_eq, String.toList_append, List.mem_append] at member
  rcases member with (name | colon) | kind
  · exact isPlainChar_of_isIdentifierChar (named.1.2 c name)
  · obtain rfl : c = ':' := by simpa using colon
    decide
  · exact isPlainChar_of_isIdentifierChar (named.generatedKind.2 c kind)

/-- A column's word has one colon and is cut there into its name and its kind. -/
theorem argumentParts_argument : argumentParts column.argument = [column.name, column.generatedKind] := by
  have apart {text : List Char} (identifier : Schema.IsIdentifier text) : ':' ∉ text := fun member =>
    absurd (identifier.2 ':' member) (by decide)
  simp only [argumentParts, Column.argument_eq, String.toList_append, List.append_assoc]
  rw [show ":".toList = [':'] from rfl, List.singleton_append, 
    List.splitOn_append_cons_self_of_not_mem (apart named.1),
    List.splitOn_eq_singleton (apart named.generatedKind)]
  simp

end Schema.IsNamedColumn

theorem flags_plain : ∀ migration force, ∀ word ∈ flags migration force,
    word.toList.all isPlainChar = true := by
  decide

theorem flags_inj : ∀ migration force otherMigration otherForce,
    flags migration force = flags otherMigration otherForce →
      migration = otherMigration ∧ force = otherForce := by
  decide

theorem generator_inj : ∀ target other : Target, target.generator = other.generator → target = other := by
  rintro (_ | _) (_ | _) same <;> first | rfl | exact absurd same (by decide)

section Command

variable {table : Table} (named : IsNamedTable table) (options : ScriptOptions)

include named

theorem words_plain : ∀ word ∈ table.words options, ∀ c ∈ word.toList, isPlainChar c = true := by
  intro word member c inside
  simp only [Table.words_eq, List.mem_append, List.mem_cons, List.not_mem_nil, or_false,
    List.mem_map] at member
  rcases member with ((rfl | rfl | rfl | rfl) | ⟨column, own, rfl⟩) | flag
  · exact List.all_eq_true.mp (by decide) c inside
  · exact List.all_eq_true.mp (by decide) c inside
  · have plain : ∀ target : Target, target.generator.toList.all isPlainChar = true := by
      rintro (_ | _) <;> decide
    exact List.all_eq_true.mp (plain options.target) c inside
  · simp [isPlainChar, Model.isAlphanumeric_of_mem_className table.name c inside]
  · exact (named.2 column (List.mem_filter.mp own).1).argument_plain c inside
  · exact List.all_eq_true.mp (flags_plain _ _ word flag) c inside

theorem lineWords_command : lineWords (table.command options) = table.words options := by
  have whole : ∀ piece ∈ (table.words options).map String.toList, ' ' ∉ piece := by
    intro piece member blank
    obtain ⟨word, present, rfl⟩ := List.mem_map.mp member
    exact absurd (words_plain named options word present ' ' blank) (by decide)
  rw [lineWords, Table.command, String.toList_intercalate, show " ".toList = [' '] from rfl,
    List.splitOn_intercalate _ whole (by simp [Table.words])]
  simp

theorem command_plain : ∀ c ∈ (table.command options).toList, isPlainChar c = true ∨ c = ' ' := by
  intro c member
  rw [Table.command, String.toList_intercalate, show " ".toList = [' '] from rfl] at member
  rcases Text.mem_intercalate member with blank | ⟨piece, present, inside⟩
  · exact .inr blank
  · obtain ⟨word, isWord, rfl⟩ := List.mem_map.mp present
    exact .inl (words_plain named options word isWord c inside)

end Command

theorem tight_command (table : Table) (options : ScriptOptions) :
    Text.Tight (table.command options).toList := by
  have last : ∀ migration force, Text.Tight (String.intercalate " " (flags migration force)).toList := by
    decide
  rw [Table.command, Table.words_eq,
    String.intercalate_append_of_ne_nil (by simp) (by simp [flags]),
    List.cons_append, List.cons_append, String.intercalate_cons_of_ne_nil (by simp)]
  generalize String.intercalate " " ("generate" :: _) = inner
  have first : Text.Tight "rails".toList := by decide
  simpa only [String.toList_append, List.append_assoc] using
    first.append (last options.migration options.force) (" " ++ inner ++ " ").toList

theorem trimmed_script (table : Table) (options : ScriptOptions) :
    Text.trimmed (table.script options) = table.command options := by
  rw [Text.trimmed, Table.script, String.toList_append, (tight_command table options).trim_append]
  rw [show Text.trimEnd "\n\n".toList = [] by decide, List.append_nil, String.ofList_toList]

theorem trimmedEnd_script (table : Table) (options : ScriptOptions) :
    Text.trimmedEnd (table.script options) = table.command options := by
  have blank : Text.AllBlank "\n\n".toList := by decide
  have kept := (tight_command table options).trimEnd_append []
  rw [List.nil_append] at kept
  rw [Text.trimmedEnd, Table.script, String.toList_append, Text.trimEnd_append blank, kept,
    String.ofList_toList]

theorem commandOf?_script (table : Table) (options : ScriptOptions) :
    commandOf? (table.script options) = some (table.command options) := by
  have nonempty : table.command options ≠ "" := by
    obtain ⟨⟨c, rest, whole, _⟩, _⟩ := tight_command table options
    intro empty
    simp [empty] at whole
  rw [commandOf?, trimmed_script, if_neg nonempty]

/-- No script is passed over for being blank. -/
theorem commandsOf_scripts (tables : List Table) (options : ScriptOptions) :
    commandsOf (tables.map (Table.script · options)) = tables.map (Table.command · options) := by
  induction tables with
  | nil => rfl
  | cons table tables ih =>
    rw [List.map_cons, commandsOf, List.filterMap_cons_some (commandOf?_script table options),
      List.map_cons, ← ih, commandsOf]

theorem started_script {State : Type} (launcher : Launcher State) (state : State) (table : Table)
    (options : ScriptOptions) :
    (runScripts launcher state [table.script options]).started = [table.command options] := by
  rw [runScripts, commandsOf, List.filterMap_cons_some (commandOf?_script table options),
    List.filterMap_nil, runCommands]
  split
  · rfl
  · split <;> rfl

/-- Columns' words have a colon and flags have none, so the flags begin at the first word without. -/
theorem takeWhile_arguments (columns : List Column) (migration force : Bool) :
    (columns.map Column.argument ++ flags migration force).takeWhile (':' ∈ ·.toList) =
      columns.map Column.argument := by
  have colons : ∀ word ∈ columns.map Column.argument, decide (':' ∈ word.toList) = true := by
    intro word member
    obtain ⟨column, _, rfl⟩ := List.mem_map.mp member
    simp [Column.argument_eq]
  have stops : ∀ migration force, (flags migration force).takeWhile (':' ∈ ·.toList) = [] := by decide
  rw [List.takeWhile_append_of_pos colons, stops, List.append_nil]

/-- The words after the model tell the columns and the flags apart. -/
theorem arguments_flags_inj {first second : List Column} {migration force otherMigration otherForce : Bool}
    (same : first.map Column.argument ++ flags migration force =
      second.map Column.argument ++ flags otherMigration otherForce) :
    first.map Column.argument = second.map Column.argument ∧
      migration = otherMigration ∧ force = otherForce := by
  have arguments := congrArg (List.takeWhile (':' ∈ ·.toList)) same
  rw [takeWhile_arguments, takeWhile_arguments] at arguments
  rw [arguments] at same
  exact ⟨arguments, flags_inj _ _ _ _ (List.append_cancel_left same)⟩

theorem words_inj {table other : Table} {options otherOptions : ScriptOptions}
    (same : table.words options = other.words otherOptions) :
    options = otherOptions ∧ Model.className table.name = Model.className other.name ∧
      table.generatedColumns.map Column.argument = other.generatedColumns.map Column.argument := by
  simp only [Table.words_eq, List.cons_append, List.nil_append, List.cons.injEq, true_and] at same
  obtain ⟨generator, model, rest⟩ := same
  obtain ⟨arguments, migration, force⟩ := arguments_flags_inj rest
  have target := generator_inj _ _ generator
  refine ⟨?_, model, arguments⟩
  cases options
  cases otherOptions
  simp_all

/-- Whatever the text, the script of a table that was read is one line of plain words and blanks and
an empty line; the line is what the shell gets, it is cut at its blanks into the expected words, and
the script tells all that it was made from as far as it is generated. -/
theorem script_decodes {text : String} {table : Table}
    (member : table ∈ (Schema.read text).catalogue.tables) (options : ScriptOptions) :
    (∃ line, table.script options = line ++ "\n\n" ∧
      (∀ c ∈ line.toList, isPlainChar c = true ∨ c = ' ') ∧
      lineWords line =
        ["rails", "generate", options.target.generator, Model.className table.name] ++
          (table.generatedColumns.map fun column => column.name ++ ":" ++ column.generatedKind) ++
          flags options.migration options.force ∧
      ∀ {State : Type} (launcher : Launcher State) (state : State),
        (runScripts launcher state [table.script options]).started = [line]) ∧
    (∀ column ∈ table.generatedColumns,
      argumentParts (column.name ++ ":" ++ column.generatedKind) =
        [column.name, column.generatedKind]) ∧
    ∀ (otherText : String) (other : Table) (otherOptions : ScriptOptions),
      other ∈ (Schema.read otherText).catalogue.tables →
      table.script options = other.script otherOptions →
      options = otherOptions ∧ Model.className table.name = Model.className other.name ∧
        table.generatedColumns.map Column.argument = other.generatedColumns.map Column.argument := by
  have named := isNamedTable_of_mem_read member
  refine ⟨⟨table.command options, rfl, command_plain named options, ?_,
    fun launcher state => started_script launcher state table options⟩, ?_, ?_⟩
  · simp only [lineWords_command named options, Table.words_eq, ← Column.argument_eq]
  · intro column own
    rw [← Column.argument_eq]
    exact (named.2 column (List.mem_filter.mp own).1).argumentParts_argument
  · intro otherText other otherOptions otherMember same
    have command : table.command options = other.command otherOptions := by
      simpa [Table.script] using same
    have words := congrArg lineWords command
    rw [lineWords_command named, lineWords_command (isNamedTable_of_mem_read otherMember)] at words
    exact words_inj words

theorem script_decodes_users :
    let table : Table := ⟨1, "users", [⟨"email", "string"⟩, ⟨"id", "bigint"⟩, ⟨"team", "belongs_to"⟩]⟩
    let text := "create_table :users do |t|\nt.string 'email'\nt.bigint 'id'\nt.belongs_to 'team'\nend\n"
    table ∈ (Schema.read text).catalogue.tables ∧
      ∃ line, table.script .default = line ++ "\n\n" ∧ lineWords line =
        ["rails", "generate", "scaffold", "User", "email:string", "team:references", "--no-migration"] := by
  intro table text
  have member : table ∈ (Schema.read text).catalogue.tables := by decide +kernel
  obtain ⟨line, script, _, words, _⟩ := (script_decodes member .default).1
  refine ⟨member, line, script, words.trans ?_⟩
  decide +kernel

end TableScript
