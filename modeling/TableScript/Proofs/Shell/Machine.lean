import TableScript.Proofs.Execution
import TableScript.Proofs.Script
import TableScript.Proofs.Shell.Interpreter
import TableScript.Proofs.Text.Utf8

/-! What a machine that has `rails` makes of scripts: it calls the program once for each, with the words
of the script. -/
namespace TableScript.Shell

open Text (encode encodeString)

/-! ### Bytes as characters -/

theorem toNat_ofNat_byte (byte : UInt8) : (Char.ofNat byte.toNat).toNat = byte.toNat :=
  Text.toNat_ofNat (.inl (Nat.lt_trans byte.toNat_lt (by decide)))

theorem toBytes_ofBytes (bytes : List UInt8) : toBytes (ofBytes bytes) = bytes := by
  have same : (fun c : Char => UInt8.ofNat c.toNat) ∘ (fun byte : UInt8 => Char.ofNat byte.toNat) = id := by
    funext byte
    simp [toNat_ofNat_byte]
  rw [toBytes, ofBytes, String.toList_ofList, List.map_map, same, List.map_id]

/-- A text comes back from the shell as it was. -/
theorem toText_ofText (text : String) : toText (ofText text) = text := by
  rw [toText, ofText, toBytes_ofBytes, encodeString, Text.decodeLossy_encode, String.ofList_toList]

def lettersIn (word : String) : List Char := (ofText word).toList

theorem lettersIn_eq (word : String) :
    lettersIn word = (encode word.toList).map fun byte => Char.ofNat byte.toNat := by
  rw [lettersIn, ofText, ofBytes, String.toList_ofList, encodeString]

theorem lettersIn_append (first second : String) :
    lettersIn (first ++ second) = lettersIn first ++ lettersIn second := by
  simp only [lettersIn_eq, String.toList_append, Text.encode_append, List.map_append]

theorem lettersIn_eq_nil_iff {word : String} : lettersIn word = [] ↔ word = "" := by
  constructor
  · intro empty
    have none_left : ofText word = ofText "" := String.toList_inj.mp empty
    rw [← toText_ofText word, none_left, toText_ofText]
  · rintro rfl
    rfl

theorem lettersIn_intercalate (word : String) (rest : List String) :
    lettersIn (String.intercalate " " (word :: rest)) = lettersIn word ++ spacedOut (rest.map lettersIn) := by
  induction rest generalizing word with
  | nil => simp [spacedOut]
  | cons next rest ih =>
    rw [String.intercalate_cons_of_ne_nil (by simp), lettersIn_append, lettersIn_append, ih next]
    simp [spacedOut, show lettersIn " " = [' '] by decide]

/-- The characters that mean something to the shell are ASCII, and none of them is plain. -/
theorem isInert_lettersIn {word : String} (plain : ∀ c ∈ word.toList, isPlainChar c = true) :
    IsInert (lettersIn word) := by
  intro letter member
  rw [lettersIn_eq] at member
  obtain ⟨byte, inside, rfl⟩ := List.mem_map.mp member
  by_contra special
  have listed : Char.ofNat byte.toNat ∈ " \t\n;&|<>()".toList ++ meaningful := by
    simpa [isInertChar, endsWord, Decidable.or_iff_not_imp_left] using special
  have checked : (" \t\n;&|<>()".toList ++ meaningful).all (fun c => c.toNat < 128 && !isPlainChar c) = true := by
    decide
  have apart := List.all_eq_true.mp checked _ listed
  rw [Bool.and_eq_true, decide_eq_true_eq, Bool.not_eq_true'] at apart
  obtain ⟨ascii, blocked⟩ := apart
  have same : (Char.ofNat byte.toNat).toUInt8 = byte := by
    rw [← UInt8.toNat_inj, Text.toNat_toUInt8_of_ascii ascii, toNat_ofNat_byte]
  have own := Text.mem_of_mem_encode ascii (same.symm ▸ inside)
  rw [plain _ own] at blocked
  contradiction

/-! ### The machine that a command meets -/

theorem at?_foldl_withDirectory {names : List FileName} {directories : List (List FileName)}
    (apart : ∀ others ∈ directories, ¬ names <+: others ∧ ¬ others <+: names) (root : FileNode) :
    (directories.foldl Machine.withDirectory root).at? names = root.at? names := by
  induction directories generalizing root with
  | nil => rfl
  | cons others directories ih =>
    rw [List.foldl_cons, ih fun other member => apart other (List.mem_cons_of_mem others member)]
    unfold Machine.withDirectory
    split
    · rfl
    · exact FileNode.at?_place_of_apart root (apart others List.mem_cons_self)

theorem at?_withDirectory (root : FileNode) (names : List FileName) :
    ((Machine.withDirectory root names).at? names).isSome := by
  unfold Machine.withDirectory
  split
  · assumption
  · rw [FileNode.at?_place_self]
    rfl

namespace Machine

theorem at?_withStandardDirectories {name : String} (member : name ∈ ["local", "sbin"]) (root : FileNode) :
    (withStandardDirectories root).at? (inUsr name) = root.at? (inUsr name) := by
  rcases List.mem_pair.mp member with rfl | rfl <;> exact at?_foldl_withDirectory (by decide) root

theorem usrBin_present (root : FileNode) : ((withStandardDirectories root).at? (inUsr "bin")).isSome := by
  let earlier := [["bin"], ["dev"], ["etc"], ["home"], ["root"], ["tmp"]].map (List.map encodeString)
  have whole : standardDirectories.map (List.map encodeString) =
      earlier ++ inUsr "bin" :: [["var", "tmp"].map encodeString] := rfl
  rw [withStandardDirectories, whole, List.foldl_append, List.foldl_cons, at?_foldl_withDirectory (by decide)]
  exact at?_withDirectory _ _

variable {machine : Machine} {code : List String → Nat}

theorem prepared_root (input : Blocks) : (machine.prepared input).root = withStandardDirectories machine.root := by
  rw [prepared]

theorem Offers.prepared (offers : machine.Offers code) (input : Blocks) : (machine.prepared input).IsReady code where
  installed := offers.installed
  unshadowed name member := by
    rw [prepared_root, at?_withStandardDirectories member, offers.unshadowed name member]
  present := by
    rw [prepared_root]
    exact usrBin_present machine.root
  signals := rfl
  pending := rfl

theorem firstProcess_isFresh (machine : Machine) : machine.firstProcess.IsFresh where
  line := rfl
  flags := rfl
  functions := rfl
  aliases := rfl
  traps := rfl
  outputStatus := rfl
  path := rfl

/-- The program leaves all input to those that come after it. -/
theorem inputLeft_flatten (machine : Machine) (input : Blocks) (call : List String) :
    ((machine.prepared input).noting call).inputLeft.flatten = input.flatten := by
  have first : ((machine.prepared input).noting call).opened[0]? =
      some ⟨.terminal, 0, false, ofBytes input.flatten⟩ := by
    simp [noting, prepared]
  have left : toBytes (String.ofList ((ofBytes input.flatten).toList.drop 0)) = input.flatten := by
    rw [List.drop_zero, String.ofList_toList, toBytes_ofBytes]
  rw [inputLeft, first]
  dsimp only
  rw [left]
  split
  · rename_i empty
    exact empty.symm
  · exact List.flatten_singleton

end Machine

/-! ### The commands of tables -/

section Command

variable {table : Table} (named : Schema.IsNamedTable table) (options : ScriptOptions)

/-- What the program is called with for a table. Words with nothing in them are lost on the way through
the shell; a table whose name is all underscores has such a word in the place of its model. -/
def calledWith (table : Table) (options : ScriptOptions) : List String :=
  (table.words options).tail.filter (· ≠ "")

def callOf (options : ScriptOptions) (table : Table) : List String :=
  "rails" :: (calledWith table options).map ofText

def statusOf (code : List String → Nat) (table : Table) (options : ScriptOptions) : Nat :=
  code ((calledWith table options).map ofText) % 256

theorem words_eq_cons (table : Table) (options : ScriptOptions) :
    table.words options = "rails" :: (table.words options).tail := rfl

theorem argumentsOf_lettersIn (words : List String) :
    argumentsOf (words.map lettersIn) = (words.filter (· ≠ "")).map ofText := by
  have kept : (fun letters : List Char => decide (letters ≠ [])) ∘ lettersIn = fun word => decide (word ≠ "") := by
    funext word
    simp [lettersIn_eq_nil_iff]
  have back : String.ofList ∘ lettersIn = ofText := by
    funext word
    exact String.ofList_toList
  rw [argumentsOf, List.filter_map, kept, List.map_map, back]

theorem ofText_command (table : Table) (options : ScriptOptions) : ofText (table.command options) =
    String.ofList ("rails".toList ++ spacedOut ((table.words options).tail.map lettersIn)) := by
  have first : lettersIn "rails" = "rails".toList := by decide
  rw [← String.toList_inj, String.toList_ofList, Table.command, words_eq_cons, ← first, ← lettersIn_intercalate]
  rfl

include named

theorem isInert_of_mem_words : ∀ word ∈ (table.words options).tail.map lettersIn, IsInert word := by
  intro letters member
  obtain ⟨word, present, rfl⟩ := List.mem_map.mp member
  exact isInert_lettersIn (words_plain named options word (List.mem_of_mem_tail present))

variable {code : List String → Nat} {machine : Machine} (offers : machine.Offers code)
  (short : (table.command options).utf8ByteSize ≤ Machine.longestCommand)

include offers short

/-- What one command does: the program is called once, and its status is that of the command. -/
theorem shell_command (input : Blocks) : ∃ after left,
    Machine.shell ⟨machine, input⟩ (table.command options) =
        (.ended (.exited (statusOf code table options)) "", ⟨after, left⟩) ∧
      after.calls = machine.calls ++ [callOf options table] ∧ left.flatten = input.flatten ∧ after.Offers code := by
  let called := (machine.prepared input).noting (callOf options table)
  have offered : called.Offers code := ((offers.prepared input).noting _).toOffers
  refine ⟨called, called.inputLeft, ?_, rfl, Machine.inputLeft_flatten _ _ _, offered⟩
  have no_nul : ¬ (table.command options).toList.contains '\x00' = true := by
    rw [List.contains_iff_mem]
    intro member
    rcases command_plain named options _ member with plain | blank
    · exact absurd plain (by decide)
    · exact absurd blank (by decide)
  have run := session_run (offers.prepared input) (Machine.firstProcess_isFresh (machine.prepared input))
    (isInert_of_mem_words named options)
  rw [argumentsOf_lettersIn] at run
  rw [Machine.shell, if_neg no_nul, if_neg (Nat.not_lt.mpr short)]
  dsimp only
  rw [ofText_command, run]
  have status : statusOf code table options % 256 = statusOf code table options := Nat.mod_mod _ _
  have quiet : toText "" = "" := toText_ofText ""
  change (CommandResult.ended (.exited (statusOf code table options % 256)) (toText ""), _) = _
  rw [status, quiet]
  rfl

end Command

variable {code : List String → Nat} (options : ScriptOptions)

/-- The calls of a run are those of the tables whose commands it started; commands have nothing to
complain of and leave the input alone. -/
theorem runCommands_command {tables : List Table} (named : ∀ table ∈ tables, Schema.IsNamedTable table)
    (short : ∀ table ∈ tables, (table.command options).utf8ByteSize ≤ Machine.longestCommand)
    {machine : Machine} (offers : machine.Offers code) (input : Blocks) (clipboardCode : Option Nat) :
    let run := runCommands (Machine.launcher clipboardCode) ⟨machine, input⟩ (tables.map (Table.command · options))
    run.state.calls = machine.calls ++ (tables.take run.started.length).map (callOf options) ∧
      run.complaints = "" ∧ run.input.flatten = input.flatten ∧
      (run.failure = none ↔ ∀ table ∈ tables, statusOf code table options = 0) := by
  induction tables generalizing machine input with
  | nil => simp [runCommands]
  | cons table tables ih =>
    obtain ⟨firstNamed, namedRest⟩ := List.forall_mem_cons.mp named
    obtain ⟨firstShort, shortRest⟩ := List.forall_mem_cons.mp short
    obtain ⟨after, left, shell, called, unread, offered⟩ := shell_command firstNamed options offers firstShort input
    obtain ⟨calls, quiet, kept, failure⟩ := ih namedRest shortRest offered left
    have launched : (Machine.launcher clipboardCode).shell = Machine.shell := rfl
    rw [List.map_cons, runCommands, launched, shell, List.forall_mem_cons]
    dsimp only
    split
    · rename_i successful
      have succeeds : statusOf code table options = 0 := by simpa [ExitStatus.isSuccess] using successful
      refine ⟨?_, ?_, kept.trans unread, by rw [failure]; simp [succeeds]⟩
      · rw [calls, called, List.length_cons, List.take_succ_cons, List.map_cons, List.append_assoc,
          List.singleton_append]
      · rw [quiet]
        rfl
    · rename_i failing
      have fails : statusOf code table options ≠ 0 := by simpa [ExitStatus.isSuccess] using failing
      refine ⟨?_, rfl, unread, by simp [fails]⟩
      rw [called]
      rfl

theorem callsOf_rails {machine after : Machine} {tables : List Table}
    (calls : after.calls = machine.calls ++ tables.map (callOf options)) :
    after.callsOf "rails" = machine.callsOf "rails" ++ tables.map (calledWith · options) := by
  rw [Machine.callsOf, calls, List.filterMap_append, List.filterMap_map, Machine.callsOf]
  congr 1
  rw [← List.filterMap_eq_map (f := (calledWith · options))]
  congr 1
  funext table
  simp [callOf, toText_ofText, Function.comp_def]

/-- Whatever the text, running the scripts of tables that were read from it, on a machine that has the
program, calls it with the words of each script in turn, up to the first call that fails. -/
theorem runScripts_script {text : String} {tables : List Table}
    (own : ∀ table ∈ tables, table ∈ (Schema.read text).catalogue.tables)
    (short : ∀ table ∈ tables, (table.command options).utf8ByteSize ≤ Machine.longestCommand)
    {machine : Machine} (offers : machine.Offers code) (input : Blocks) (clipboardCode : Option Nat) :
    let run := runScripts (Machine.launcher clipboardCode) machine (tables.map (Table.script · options)) input
    run.state.callsOf "rails" =
        machine.callsOf "rails" ++ (tables.take run.started.length).map (calledWith · options) ∧
      run.complaints = "" ∧ run.input.flatten = input.flatten ∧
      (run.failure = none ↔ ∀ table ∈ tables, statusOf code table options = 0) := by
  have named : ∀ table ∈ tables, Schema.IsNamedTable table := fun table member =>
    Schema.isNamedTable_of_mem_read (own table member)
  rw [runScripts, commandsOf_scripts]
  obtain ⟨calls, rest⟩ := runCommands_command options named short offers input clipboardCode
  exact ⟨callsOf_rails options calls, rest⟩

end TableScript.Shell
