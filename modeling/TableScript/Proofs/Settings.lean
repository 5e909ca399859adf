import TableScript.Files.SettingsFile
import TableScript.Proofs.Command.Preparation
import TableScript.Proofs.Toml.Written

/-! Which settings a document gives, which document counts, and what the command line adds to it. -/
namespace TableScript

open Toml (Setting Written)

def Target.word : Target → String
  | .scaffold => "scaffold"
  | .factory => "factory"

namespace Settings

/-- Whether a value is the one that a document states or, where the document is silent, the default. -/
inductive Gives {α : Type} (fallback : α) (states : Setting → α → Prop) : Option Setting → α → Prop
  | silent : Gives fallback states none fallback
  | stated {setting : Setting} {value : α} (holds : states setting value) :
      Gives fallback states (some setting) value

/-- The settings that a document gives, setting by setting. -/
structure GivenBy (written : Written) (settings : Settings) : Prop where
  target : Gives .scaffold (fun setting target => setting = .text target.word)
    (written.setting? "generate" "target") settings.options.target
  migration : Gives false (fun setting flag => setting = .flag flag)
    (written.setting? "generate" "migration") settings.options.migration
  force : Gives false (fun setting flag => setting = .flag flag)
    (written.setting? "generate" "force") settings.options.force
  searchRoot : Gives default.searchRoot (fun setting root => ∃ text, setting = .text text ∧ root = .ofString text)
    (written.setting? "schema" "search_root") settings.searchRoot

/-! ### Documents -/

theorem readOr_eq_some_iff {α : Type} {fallback value : α} {read : Data → Option α} {given : Option Setting} :
    Data.readOr fallback read (given.map Setting.data) = some value ↔
      Gives fallback (fun setting value => read setting.data = some value) given value := by
  cases given with
  | none =>
    constructor
    · rintro ⟨rfl⟩
      exact .silent
    · rintro ⟨⟩
      rfl
  | some setting =>
    constructor
    · intro holds
      exact .stated holds
    · rintro (_ | holds)
      exact holds

theorem target?_eq_some_iff {setting : Setting} {target : Target} :
    Target.ofData? .document setting.data = some target ↔ setting = .text target.word := by
  cases setting with
  | flag value => simp [Setting.data, Target.ofData?]
  | text value =>
    rw [Setting.text.injEq]
    constructor
    · intro named
      simp only [Setting.data, Target.ofData?, Target.named?] at named
      split at named <;> cases named <;> rfl
    · rintro rfl
      cases target <;> rfl

theorem flag?_eq_some_iff {setting : Setting} {flag : Bool} :
    setting.data.flag? = some flag ↔ setting = .flag flag := by
  cases setting <;> simp [Setting.data, Data.flag?]

theorem path?_eq_some_iff {setting : Setting} {path : Path} :
    setting.data.text?.map Path.ofString = some path ↔ ∃ text, setting = .text text ∧ path = .ofString text := by
  cases setting <;> simp [Setting.data, Data.text?, eq_comm]

/-- A part of a document as a value. -/
def record (part : Toml.Part) : Data := .record (part.map fun field => (field.1, field.2.data))

theorem options?_eq_some_iff {part : Option Toml.Part} {options : ScriptOptions} :
    Data.readOr .default (ScriptOptions.ofData? .document) (part.map record) = some options ↔
      Gives .scaffold (fun setting target => setting = .text target.word)
          (part.bind (List.lookup "target")) options.target ∧
        Gives false (fun setting flag => setting = .flag flag)
          (part.bind (List.lookup "migration")) options.migration ∧
        Gives false (fun setting flag => setting = .flag flag)
          (part.bind (List.lookup "force")) options.force := by
  cases part with
  | none =>
    constructor
    · rintro ⟨rfl⟩
      exact ⟨.silent, .silent, .silent⟩
    · obtain ⟨target, migration, force⟩ := options
      rintro ⟨⟨⟩, ⟨⟩, ⟨⟩⟩
      rfl
  | some part =>
    have read : ScriptOptions.ofData? .document (record part) =
        (Data.readOr .scaffold (Target.ofData? .document) ((part.lookup "target").map Setting.data)).bind
          fun target => (Data.readOr false Data.flag? ((part.lookup "migration").map Setting.data)).bind
          fun migration => (Data.readOr false Data.flag? ((part.lookup "force").map Setting.data)).bind
          fun force => some ⟨target, migration, force⟩ := by
      rw [← Keyed.lookup_map part Setting.data, ← Keyed.lookup_map part Setting.data,
        ← Keyed.lookup_map part Setting.data]
      rfl
    rw [Option.map_some, Data.readOr, read]
    simp only [Option.bind_eq_some_iff, readOr_eq_some_iff, target?_eq_some_iff, flag?_eq_some_iff,
      Option.bind_some, Option.some.injEq]
    constructor
    · rintro ⟨target, stated, migration, migrates, force, forces, rfl⟩
      exact ⟨stated, migrates, forces⟩
    · rintro ⟨stated, migrates, forces⟩
      exact ⟨options.target, stated, options.migration, migrates, options.force, forces, rfl⟩

theorem searchRoot?_eq_some_iff {part : Option Toml.Part} {root : Path} :
    Data.readOr default.searchRoot searchRoot? (part.map record) = some root ↔
      Gives default.searchRoot (fun setting root => ∃ text, setting = .text text ∧ root = .ofString text)
        (part.bind (List.lookup "search_root")) root := by
  cases part with
  | none =>
    constructor
    · rintro ⟨rfl⟩
      exact .silent
    · rintro ⟨⟩
      rfl
  | some part =>
    have read : searchRoot? (record part) = Data.readOr default.searchRoot
        (fun data => data.text?.map Path.ofString) ((part.lookup "search_root").map Setting.data) := by
      rw [← Keyed.lookup_map part Setting.data]
      rfl
    rw [Option.map_some, Option.bind_some, Data.readOr, read, readOr_eq_some_iff]
    simp only [path?_eq_some_iff]

/-- A document gives settings exactly when it gives each of them, under its name in its part; a value
of another kind gives none. -/
theorem read?_write_eq_some_iff {written : Written} (formed : written.WellFormed) {settings : Settings} :
    read? written.write = some settings ↔ settings.GivenBy written := by
  have read : read? written.write =
      (Data.readOr .default (ScriptOptions.ofData? .document) ((written.lookup "generate").map record)).bind
        fun options => (Data.readOr default.searchRoot searchRoot? ((written.lookup "schema").map record)).bind
        fun root => some ⟨options, root⟩ := by
    rw [read?, Written.read?_write formed, Option.bind_some, ← Keyed.lookup_map written record,
      ← Keyed.lookup_map written record]
    rfl
  rw [read]
  simp only [Option.bind_eq_some_iff, options?_eq_some_iff, searchRoot?_eq_some_iff, Option.some.injEq]
  constructor
  · rintro ⟨options, ⟨target, migration, force⟩, root, stated, rfl⟩
    exact ⟨target, migration, force, stated⟩
  · rintro ⟨target, migration, force, stated⟩
    exact ⟨settings.options, ⟨target, migration, force⟩, settings.searchRoot, stated, rfl⟩

example : read? "[generate]\ntarget = \"factory\"\nforce = true\n" =
    some ⟨⟨.factory, false, true⟩, .ofString "."⟩ := by
  decide +kernel

/-! ### Files -/

/-- The file that counts: the first that is there. -/
def IsSource (files : FileSystem) (userDirectory : Option Path) (path : Path) : Prop :=
  ∃ before after, candidates userDirectory = before ++ path :: after ∧ files.isFile path = true ∧
    ∀ other ∈ before, files.isFile other = false

section Load

variable {files : FileSystem} {userDirectory : Option Path} {path : Path}

theorem load_of_isSource (source : IsSource files userDirectory path) :
    load files userDirectory = fromFile files path := by
  obtain ⟨before, after, split, there, absent⟩ := source
  have found : (candidates userDirectory).find? files.isFile = some path := by
    rw [List.find?_eq_some_iff_append]
    exact ⟨there, before, after, split, fun other member => by simp [absent other member]⟩
  rw [load, found]

theorem load_of_absent (absent : ∀ path ∈ candidates userDirectory, files.isFile path = false) :
    load files userDirectory = .ok default := by
  have found : (candidates userDirectory).find? files.isFile = none := by
    rw [List.find?_eq_none]
    intro path member
    simp [absent path member]
  rw [load, found]

/-- The first file decides alone. A run has the settings that its document gives; if it gives none, the
failure names the file. -/
theorem load_of_written (source : IsSource files userDirectory path) {written : Written}
    (holds : files.readText path = .ok written.write) (formed : written.WellFormed) :
    (∀ settings, load files userDirectory = .ok settings ↔ settings.GivenBy written) ∧
      ((∀ settings : Settings, ¬ settings.GivenBy written) →
        load files userDirectory = .error (.settings path.display .malformed)) := by
  have loaded {settings : Settings} (read : read? written.write = some settings) :
      load files userDirectory = .ok settings := by
    simp only [load_of_isSource source, fromFile, holds, read]
  have failed (read : read? written.write = none) :
      load files userDirectory = .error (.settings path.display .malformed) := by
    simp only [load_of_isSource source, fromFile, holds, read]
  constructor
  · intro settings
    rw [← read?_write_eq_some_iff formed]
    cases read : read? written.write with
    | none => simp [failed read]
    | some own => simp [loaded read]
  · intro unstated
    apply failed
    rw [Option.eq_none_iff_forall_ne_some]
    intro settings read
    exact unstated settings ((read?_write_eq_some_iff formed).mp read)

end Load

end Settings

/-! ### The command line -/

namespace ScriptOptions

/-- Whether options ask for all that others ask for. -/
structure Covers (options others : ScriptOptions) : Prop where
  target : others.target = .factory → options.target = .factory
  migration : others.migration = true → options.migration = true
  force : others.force = true → options.force = true

end ScriptOptions

namespace Command

def Arguments.options (arguments : Arguments) : ScriptOptions where
  target := if arguments.factory then .factory else .scaffold
  migration := arguments.migration
  force := arguments.force

/-- A run's options are the least that cover the settings and the switches. -/
theorem covers_scriptOptions_iff {arguments : Arguments} {settings : Settings} {options : ScriptOptions} :
    options.Covers (scriptOptions arguments settings) ↔
      options.Covers settings.options ∧ options.Covers arguments.options := by
  constructor
  · rintro ⟨target, migration, force⟩
    refine ⟨⟨fun named => target ?_, fun asked => migration ?_, fun asked => force ?_⟩,
      ⟨fun named => target ?_, fun asked => migration ?_, fun asked => force ?_⟩⟩
    all_goals simp_all [scriptOptions, Arguments.options]
  · rintro ⟨stated, given⟩
    constructor
    · intro named
      by_cases chosen : arguments.factory = true
      · exact given.target (by simp [Arguments.options, chosen])
      · exact stated.target (by simpa [scriptOptions, chosen] using named)
    · intro asked
      rcases Bool.or_eq_true_iff.mp asked with setting | switch
      · exact stated.migration setting
      · exact given.migration switch
    · intro asked
      rcases Bool.or_eq_true_iff.mp asked with setting | switch
      · exact stated.force setting
      · exact given.force switch

/-- Every planned script is written with these options. -/
theorem Prepared.exists_options {surroundings : Surroundings} {arguments : Arguments} {input : Input}
    {plan : Plan} (prepared : Prepared surroundings arguments input plan) :
    ∃ settings options, Settings.load surroundings.files surroundings.userDirectory = .ok settings ∧
      plan.catalogue.scripts plan.ids options = .ok plan.scripts ∧ plan.target = options.target ∧
      ∀ others : ScriptOptions, others.Covers options ↔
        others.Covers settings.options ∧ others.Covers arguments.options := by
  cases prepared with
  | intro configured chosen remaining found loaded selected written =>
    exact ⟨_, _, configured, written, rfl, fun others => covers_scriptOptions_iff⟩

end Command

end TableScript
