import TableScript.Files.SchemaPath
import TableScript.Proofs.Files.Path
import TableScript.Proofs.Text.Utf8
import Mathlib.Data.List.Nodup
import Mathlib.Data.List.Perm.Basic

/-! The search for schema files is exact. It goes down a tree of directories by the recursion of the tree
and finds each route to a schema file once; sorting the routes makes what is found a function of the
tree alone, whatever order its directories list their entries in. -/
namespace TableScript

theorem holdsWithin_iff {part text : List Char} : holdsWithin part text = true ↔ part <:+: text := by
  induction text with
  | nil => simp [holdsWithin]
  | cons c text ih => rw [holdsWithin, Bool.or_eq_true, ih, List.infix_cons_iff, List.isPrefixOf_iff_prefix]

theorem isHidden_eq_false_iff {name : FileName} :
    isHidden name = false ↔ ∀ text, Text.decode name = some text → text.head? ≠ some '.' := by
  unfold isHidden
  cases Text.decode name with
  | none => simp
  | some text =>
    cases text with
    | nil => simp
    | cons c text =>
      by_cases dotted : c = '.'
      · simp [dotted]
      · simp [dotted]

theorem isSchemaName_iff {name : FileName} :
    isSchemaName name = true ↔ ∃ text, Text.decode name = some text ∧
      "schema".toList <:+: text ∧ ".rb".toList <:+ text := by
  unfold isSchemaName
  cases Text.decode name with
  | none => simp
  | some text => simp [holdsWithin_iff]

/-- A route to a schema file begins at the file itself, or at a directory from which it goes on. -/
theorem schemaRoute_iff {entries : List (FileName × FileNode)} {names : List FileName} :
    SchemaRoute (.directory entries) names ↔ ∃ name node rest, names = name :: rest ∧
      (name, node) ∈ entries ∧ isHidden name = false ∧
      ((∃ bytes, node = .file bytes) ∧ rest = [] ∧ isSchemaName name = true ∨
        ∃ inner, node = .directory inner ∧ SchemaRoute (.directory inner) rest) := by
  constructor
  · rintro ⟨⟨bytes, leads⟩, shown, last, text, ends, decoded, named⟩
    cases leads with
    | @inside _ name child _ rest member leads =>
      have visible := isHidden_eq_false_iff.mpr (shown name List.mem_cons_self)
      refine ⟨name, child, rest, rfl, member, visible, ?_⟩
      cases leads with
      | here =>
        obtain rfl : name = last := by simpa using ends
        exact .inl ⟨⟨bytes, rfl⟩, rfl, isSchemaName_iff.mpr ⟨text, decoded, named⟩⟩
      | @inside inner next grandchild _ later memberInner leads =>
        refine .inr ⟨inner, rfl, ⟨bytes, .inside memberInner leads⟩, ?_, last, text, ?_, decoded, named⟩
        · exact fun other present => shown other (List.mem_cons_of_mem name present)
        · simpa using ends
  · rintro ⟨name, node, rest, rfl, member, visible, ⟨⟨bytes, rfl⟩, rfl, named⟩ | ⟨inner, rfl, route⟩⟩
    · obtain ⟨text, decoded, named⟩ := isSchemaName_iff.mp named
      refine ⟨⟨bytes, .inside member (.here _)⟩, ?_, name, text, rfl, decoded, named⟩
      simpa using isHidden_eq_false_iff.mp visible
    · obtain ⟨⟨bytes, leads⟩, shown, last, text, ends, decoded, named⟩ := route
      refine ⟨⟨bytes, .inside member leads⟩, ?_, last, text, ?_, decoded, named⟩
      · exact List.forall_mem_cons.mpr ⟨isHidden_eq_false_iff.mp visible, shown⟩
      · rw [List.getLast?_cons, ends]
        rfl

theorem schemaRoutes_cons (entry : FileName × FileNode) (entries : List (FileName × FileNode)) :
    schemaRoutes (entry :: entries) = schemaRoutes [entry] ++ schemaRoutes entries := by
  obtain ⟨name, node⟩ := entry
  cases node <;> simp only [schemaRoutes, List.append_nil]

theorem schemaRoutes_eq_flatMap (entries : List (FileName × FileNode)) :
    schemaRoutes entries = entries.flatMap fun entry => schemaRoutes [entry] := by
  induction entries with
  | nil => simp [schemaRoutes]
  | cons entry entries ih => rw [schemaRoutes_cons, ih, List.flatMap_cons]

theorem schemaRoutes_directory (name : FileName) (entries : List (FileName × FileNode)) :
    schemaRoutes [(name, .directory entries)] =
      if isHidden name then [] else (schemaRoutes entries).map (name :: ·) := by
  simp only [schemaRoutes, List.append_nil]

theorem mem_schemaRoutes_singleton {name : FileName} {node : FileNode} {names : List FileName} :
    names ∈ schemaRoutes [(name, node)] ↔ ∃ rest, names = name :: rest ∧ isHidden name = false ∧
      ((∃ bytes, node = .file bytes) ∧ rest = [] ∧ isSchemaName name = true ∨
        ∃ inner, node = .directory inner ∧ rest ∈ schemaRoutes inner) := by
  cases node with
  | link target => simp [schemaRoutes]
  | file bytes =>
    cases visible : isHidden name <;> cases named : isSchemaName name <;>
      simp [schemaRoutes, visible, named]
  | directory inner =>
    rw [schemaRoutes_directory]
    cases visible : isHidden name with
    | true => simp
    | false =>
      rw [if_neg Bool.false_ne_true, List.mem_map]
      constructor
      · rintro ⟨rest, found, rfl⟩
        exact ⟨rest, rfl, rfl, .inr ⟨inner, rfl, found⟩⟩
      · rintro ⟨rest, rfl, _, ⟨⟨_, other⟩, _⟩ | ⟨_, same, found⟩⟩
        · contradiction
        · obtain rfl := FileNode.directory.inj same
          exact ⟨rest, found, rfl⟩

theorem mem_schemaRoutes {entries : List (FileName × FileNode)} {names : List FileName} :
    names ∈ schemaRoutes entries ↔ ∃ name node rest, names = name :: rest ∧
      (name, node) ∈ entries ∧ isHidden name = false ∧
      ((∃ bytes, node = .file bytes) ∧ rest = [] ∧ isSchemaName name = true ∨
        ∃ inner, node = .directory inner ∧ rest ∈ schemaRoutes inner) := by
  rw [schemaRoutes_eq_flatMap, List.mem_flatMap]
  simp only [Prod.exists, mem_schemaRoutes_singleton]
  constructor
  · rintro ⟨name, node, member, rest, same, found⟩
    exact ⟨name, node, rest, same, member, found⟩
  · rintro ⟨name, node, rest, same, member, found⟩
    exact ⟨name, node, member, rest, same, found⟩

/-- The search goes exactly the routes to schema files. -/
theorem mem_schemaRoutes_iff {entries : List (FileName × FileNode)} {names : List FileName} :
    names ∈ schemaRoutes entries ↔ SchemaRoute (.directory entries) names := by
  induction names generalizing entries with
  | nil =>
    rw [mem_schemaRoutes, schemaRoute_iff]
    simp
  | cons first names ih =>
    rw [mem_schemaRoutes, schemaRoute_iff]
    refine exists_congr fun name => exists_congr fun node => exists_congr fun rest => ?_
    refine and_congr_right fun same => ?_
    obtain ⟨rfl, rfl⟩ := List.cons.inj same
    simp only [ih]

/-- The search goes no route twice, since each name leads to one entry. -/
theorem nodup_schemaRoutes {entries : List (FileName × FileNode)}
    (wellFormed : (FileNode.directory entries).WellFormed) : (schemaRoutes entries).Nodup := by
  induction entries using schemaRoutes.induct with
  | case1 => simp [schemaRoutes]
  | case2 name node rest inner outer =>
    cases wellFormed with
    | directory distinct named children =>
      rw [List.map_cons, List.nodup_cons] at distinct
      have later : (schemaRoutes rest).Nodup :=
        outer (.directory distinct.2 (fun entry member => named entry (List.mem_cons_of_mem _ member))
          (fun entry member => children entry (List.mem_cons_of_mem _ member)))
      have here : (schemaRoutes [(name, node)]).Nodup := by
        cases node with
        | link target => simp [schemaRoutes]
        | file bytes =>
          simp only [schemaRoutes, List.append_nil]
          split
          · exact .nil
          · split
            · exact List.nodup_singleton _
            · exact .nil
        | directory entries =>
          have deeper : (schemaRoutes entries).Nodup := inner (children _ List.mem_cons_self)
          rw [schemaRoutes_directory]
          split
          · exact .nil
          · exact List.Nodup.map List.cons_injective deeper
      rw [schemaRoutes_cons, List.nodup_append]
      refine ⟨here, later, ?_⟩
      rintro names first _ second rfl
      refine distinct.1 ?_
      obtain ⟨_, rfl, _⟩ := mem_schemaRoutes_singleton.mp first
      obtain ⟨other, target, _, same, member, _⟩ := mem_schemaRoutes.mp second
      obtain ⟨rfl, _⟩ := List.cons.inj same
      exact List.mem_map.mpr ⟨(name, target), member, rfl⟩

theorem FileNode.Leads.isEntryName {node target : FileNode} {names : List FileName}
    (leads : node.Leads names target) (wellFormed : node.WellFormed) :
    ∀ name ∈ names, IsEntryName name := by
  induction leads with
  | here => simp
  | inside member _ ih =>
    cases wellFormed with
    | directory distinct named children =>
      exact List.forall_mem_cons.mpr ⟨named _ member, ih (children _ member)⟩

theorem schemaRoutes_perm {entries others : List (FileName × FileNode)} (same : entries.Perm others) :
    (schemaRoutes entries).Perm (schemaRoutes others) := by
  rw [schemaRoutes_eq_flatMap entries, schemaRoutes_eq_flatMap others]
  exact same.flatMap_right _

/-- Listing entries in another order, at any depth, reorders the routes and changes none. -/
theorem schemaRoutes_perm_of_relisted {node other : FileNode} (relisted : node.Relisted other)
    (name : FileName) : (schemaRoutes [(name, node)]).Perm (schemaRoutes [(name, other)]) := by
  induction relisted generalizing name with
  | refl => exact .refl _
  | trans _ _ earlier later => exact (earlier name).trans (later name)
  | reordered same =>
    rw [schemaRoutes_directory, schemaRoutes_directory]
    split
    · exact .refl _
    · exact (schemaRoutes_perm same).map _
  | @inside before after changed child other _ ih =>
    rw [schemaRoutes_directory, schemaRoutes_directory]
    split
    · exact .refl _
    · refine List.Perm.map _ ?_
      rw [schemaRoutes_eq_flatMap (before ++ _), schemaRoutes_eq_flatMap (before ++ _),
        List.flatMap_append, List.flatMap_append, List.flatMap_cons, List.flatMap_cons]
      exact ((ih changed).append_right _).append_left _

theorem isHidden_nil : isHidden [] = false := by
  simp [isHidden, Text.decode, Text.decodeFirst?]

def sortedRoutes (entries : List (FileName × FileNode)) : List (List FileName) :=
  (schemaRoutes entries).mergeSort fun first second => decide (first ≤ second)

theorem sortedRoutes_perm (entries : List (FileName × FileNode)) :
    (sortedRoutes entries).Perm (schemaRoutes entries) :=
  List.mergeSort_perm _ _

theorem pairwise_le_sortedRoutes (entries : List (FileName × FileNode)) :
    (sortedRoutes entries).Pairwise (· ≤ ·) := by
  have transitive (first second third : List FileName) (earlier : decide (first ≤ second) = true)
      (later : decide (second ≤ third) = true) : decide (first ≤ third) = true := by
    rw [decide_eq_true_eq] at *
    exact List.le_trans earlier later
  have total (first second : List FileName) :
      (decide (first ≤ second) || decide (second ≤ first)) = true := by
    simpa using List.le_total first second
  simpa [sortedRoutes] using List.pairwise_mergeSort transitive total (schemaRoutes entries)

theorem pairwise_lt_sortedRoutes {entries : List (FileName × FileNode)}
    (wellFormed : (FileNode.directory entries).WellFormed) :
    (sortedRoutes entries).Pairwise (· < ·) := by
  have distinct : (sortedRoutes entries).Nodup :=
    (sortedRoutes_perm entries).nodup_iff.mpr (nodup_schemaRoutes wellFormed)
  refine (pairwise_le_sortedRoutes entries).imp₂ (fun first second le ne => ?_) distinct
  by_contra notLess
  exact ne (List.le_antisymm le (List.not_lt.mp notLess))

theorem sortedRoutes_eq {entries : List (FileName × FileNode)} {routes : List (List FileName)}
    (same : (schemaRoutes entries).Perm routes) (ascending : routes.Pairwise (· ≤ ·)) :
    sortedRoutes entries = routes := by
  refine List.Perm.eq_of_pairwise (fun _ _ _ _ => List.le_antisymm) (pairwise_le_sortedRoutes entries)
    ascending ?_
  exact (sortedRoutes_perm entries).trans same

theorem sortedRoutes_eq_of_relisted {entries others : List (FileName × FileNode)}
    (relisted : (FileNode.directory entries).Relisted (.directory others)) :
    sortedRoutes entries = sortedRoutes others := by
  have below := schemaRoutes_perm_of_relisted relisted []
  rw [schemaRoutes_directory, schemaRoutes_directory, isHidden_nil] at below
  have same : (schemaRoutes entries).Perm (schemaRoutes others) :=
    (List.map_perm_map_iff List.cons_injective).mp below
  exact sortedRoutes_eq (same.trans (sortedRoutes_perm others).symm) (pairwise_le_sortedRoutes others)

namespace FileSystem

variable {files : FileSystem} {root : Path} {entries : List (FileName × FileNode)}

theorem schemaFiles_of_directory (resolved : files.resolve root = .ok (.directory entries)) :
    files.schemaFiles root =
      if sortedRoutes entries = [] then .error (.noSchemaFile root.display)
      else .ok ((sortedRoutes entries).map root.joinAll) := by
  simp only [schemaFiles, resolved]
  split
  · rename_i nothing
    exact (if_pos nothing).symm
  · rename_i something
    exact (if_neg something).symm

theorem schemaFiles_of_routes {routes : List (List FileName)}
    (resolved : files.resolve root = .ok (.directory entries)) (same : (schemaRoutes entries).Perm routes)
    (ascending : routes.Pairwise (· ≤ ·)) (found : routes ≠ []) :
    files.schemaFiles root = .ok (routes.map root.joinAll) := by
  rw [schemaFiles_of_directory resolved, sortedRoutes_eq same ascending, if_neg found]

theorem schemaFiles_of_not_directory
    (other : ∀ entries, files.resolve root ≠ .ok (.directory entries)) :
    files.schemaFiles root = .error (.notADirectory root.display) := by
  unfold schemaFiles
  split
  · rename_i entries resolved
    exact absurd resolved (other entries)
  · rfl

theorem isSchemaPath_iff (resolved : files.resolve root = .ok (.directory entries)) {path : Path} :
    files.IsSchemaPath root path ↔ ∃ names ∈ sortedRoutes entries, root.joinAll names = path := by
  simp only [(sortedRoutes_perm entries).mem_iff, mem_schemaRoutes_iff]
  constructor
  · rintro ⟨others, names, same, route, rfl⟩
    obtain rfl := FileNode.directory.inj (Except.ok.inj (resolved.symm.trans same))
    exact ⟨names, route, rfl⟩
  · rintro ⟨names, route, rfl⟩
    exact ⟨entries, names, resolved, route, rfl⟩

theorem exists_of_schemaFiles_eq_ok {found : List Path} (given : files.schemaFiles root = .ok found) :
    ∃ entries, files.resolve root = .ok (.directory entries) ∧
      found = (sortedRoutes entries).map root.joinAll := by
  by_cases isDirectory : ∃ entries, files.resolve root = .ok (.directory entries)
  · obtain ⟨entries, resolved⟩ := isDirectory
    rw [schemaFiles_of_directory resolved] at given
    split at given
    · contradiction
    · exact ⟨entries, resolved, (Except.ok.inj given).symm⟩
  · rw [schemaFiles_of_not_directory (not_exists.mp isDirectory)] at given
    contradiction

theorem mem_schemaFiles_iff {found : List Path} (given : files.schemaFiles root = .ok found) {path : Path} :
    path ∈ found ↔ files.IsSchemaPath root path := by
  obtain ⟨entries, resolved, rfl⟩ := exists_of_schemaFiles_eq_ok given
  rw [List.mem_map, isSchemaPath_iff resolved]

theorem exists_isSchemaPath_iff (resolved : files.resolve root = .ok (.directory entries)) :
    (∃ path, files.IsSchemaPath root path) ↔ sortedRoutes entries ≠ [] := by
  simp only [isSchemaPath_iff resolved]
  constructor
  · rintro ⟨_, names, member, _⟩
    exact List.ne_nil_of_mem member
  · intro found
    obtain ⟨names, member⟩ := List.exists_mem_of_ne_nil _ found
    exact ⟨_, names, member, rfl⟩

theorem pairwise_components (wellFormed : (FileNode.directory entries).WellFormed) (root : Path) :
    ((sortedRoutes entries).map root.joinAll).Pairwise
      fun first second => first.components < second.components := by
  have proper {names : List FileName} (member : names ∈ sortedRoutes entries) :
      ∀ name ∈ names, IsEntryName name := by
    obtain ⟨_, leads⟩ :=
      (mem_schemaRoutes_iff.mp ((sortedRoutes_perm entries).mem_iff.mp member)).leads
    exact leads.isEntryName wellFormed
  rw [List.pairwise_map]
  refine (pairwise_lt_sortedRoutes wellFormed).imp_of_mem fun {first second} before after less => ?_
  rw [Path.components_joinAll (proper before), Path.components_joinAll (proper after)]
  exact List.append_left_lt less

/-- The search finds exactly the paths of schema files, each once, in the strictly ascending order of
their components, and nothing else depends on the order in which directories list their entries. It
fails exactly when there is no such path, and says whether the root is a directory. -/
theorem schemaFiles_exact {files : FileSystem} {root : Path}
    (wellFormed : ∀ node, files.resolve root = .ok node → node.WellFormed) :
    (∀ found, files.schemaFiles root = .ok found →
      (∀ path, path ∈ found ↔ files.IsSchemaPath root path) ∧ found.Nodup ∧
      found.Pairwise fun first second => first.components < second.components) ∧
    ((∃ found, files.schemaFiles root = .ok found) ↔ ∃ path, files.IsSchemaPath root path) ∧
    (files.schemaFiles root = .error (.notADirectory root.display) ↔
      ∀ entries, files.resolve root ≠ .ok (.directory entries)) ∧
    (files.schemaFiles root = .error (.noSchemaFile root.display) ↔
      (∃ entries, files.resolve root = .ok (.directory entries)) ∧
        ¬ ∃ path, files.IsSchemaPath root path) ∧
    (∀ (other : FileSystem) (entries others : List (FileName × FileNode)),
      files.resolve root = .ok (.directory entries) → other.resolve root = .ok (.directory others) →
      (FileNode.directory entries).Relisted (.directory others) →
      other.schemaFiles root = files.schemaFiles root) := by
  refine ⟨fun found given => ?_, ?_⟩
  · obtain ⟨entries, resolved, same⟩ := exists_of_schemaFiles_eq_ok given
    have ascending := pairwise_components (wellFormed _ resolved) root
    rw [← same] at ascending
    refine ⟨fun path => mem_schemaFiles_iff given, ascending.imp ?_, ascending⟩
    rintro first second less rfl
    exact List.lt_irrefl _ less
  by_cases isDirectory : ∃ entries, files.resolve root = .ok (.directory entries)
  · obtain ⟨entries, resolved⟩ := isDirectory
    rw [schemaFiles_of_directory resolved, exists_isSchemaPath_iff resolved]
    refine ⟨?_, ?_, ?_, ?_⟩
    · split <;> simp [*]
    · split <;> simp [resolved]
    · split <;> simp [*]
    · intro other same others resolvedSame resolvedOthers relisted
      obtain rfl := FileNode.directory.inj (Except.ok.inj (resolved.symm.trans resolvedSame))
      rw [schemaFiles_of_directory resolvedOthers, sortedRoutes_eq_of_relisted relisted]
  · have nowhere : ¬ ∃ path, files.IsSchemaPath root path := by
      rintro ⟨_, entries, _, resolved, _⟩
      exact isDirectory ⟨entries, resolved⟩
    have other := not_exists.mp isDirectory
    rw [schemaFiles_of_not_directory other]
    simp only [nowhere, isDirectory, iff_false]
    refine ⟨nofun, by simp [other], by simp, ?_⟩
    intro _ entries _ resolved
    exact absurd ⟨entries, resolved⟩ isDirectory

section Directory

def schemaEntries : List (FileName × FileNode) :=
  [(Text.encodeString "schema.rb", .file []),
   (Text.encodeString ".git", .directory [(Text.encodeString "schema.rb", .file [])]),
   (Text.encodeString "a-b", .directory [(Text.encodeString "schema.rb", .file [])]),
   (Text.encodeString "link_schema.rb", .link (.ofString "schema.rb")),
   (Text.encodeString "a", .directory [(Text.encodeString "old_schema.rb", .file [])])]

def projectFiles : FileSystem :=
  ⟨.directory [], .directory [(Text.encodeString ".db", .directory schemaEntries)], []⟩

theorem resolve_projectFiles :
    projectFiles.resolve (.ofString ".db") = .ok (.directory schemaEntries) := by
  have route : FileSystem.route (.ofString ".db") = [Text.encodeString ".db"] := by decide +kernel
  simp only [resolve, route, projectFiles, follow]
  rfl

theorem wellFormed_schemaEntries : (FileNode.directory schemaEntries).WellFormed := by
  have single (name : String) (proper : IsEntryName (Text.encodeString name)) :
      (FileNode.directory [(Text.encodeString name, .file [])]).WellFormed :=
    .directory (by simp) (by simpa using proper) (by simpa using .file [])
  refine .directory (by decide +kernel) (by decide +kernel) ?_
  simp only [schemaEntries, List.forall_mem_cons, List.not_mem_nil, false_implies, implies_true, and_true]
  exact ⟨.file [], single _ (by decide +kernel), single _ (by decide +kernel), .link _,
    single _ (by decide +kernel)⟩

theorem schemaRoutes_schemaEntries : schemaRoutes schemaEntries =
    [["schema.rb"], ["a-b", "schema.rb"], ["a", "old_schema.rb"]].map (·.map Text.encodeString) := by
  have hidden : isHidden (Text.encodeString ".git") = true := by decide +kernel
  have visible : ∀ name ∈ ["schema.rb", "a-b", "a", "old_schema.rb"],
      isHidden (Text.encodeString name) = false := by decide +kernel
  have named : ∀ name ∈ ["schema.rb", "old_schema.rb"],
      isSchemaName (Text.encodeString name) = true := by decide +kernel
  simp only [List.forall_mem_cons, List.not_mem_nil, false_implies, implies_true, and_true] at visible named
  simp [schemaEntries, schemaRoutes, hidden, visible, named]

theorem schemaFiles_exact_projectFiles :
    let root := Path.ofString ".db"
    let found := [".db/a/old_schema.rb", ".db/a-b/schema.rb", ".db/schema.rb"].map Path.ofString
    (∀ node, projectFiles.resolve root = .ok node → node.WellFormed) ∧
      projectFiles.schemaFiles root = .ok found ∧
      (∀ path, path ∈ found ↔ projectFiles.IsSchemaPath root path) ∧
      found.Pairwise fun first second => first.components < second.components := by
  intro root found
  have wellFormed : ∀ node, projectFiles.resolve root = .ok node → node.WellFormed := by
    intro node resolved
    obtain rfl := Except.ok.inj (resolve_projectFiles.symm.trans resolved)
    exact wellFormed_schemaEntries
  let routes := [["a", "old_schema.rb"], ["a-b", "schema.rb"], ["schema.rb"]].map (·.map Text.encodeString)
  have same : (schemaRoutes schemaEntries).Perm routes := by
    rw [schemaRoutes_schemaEntries]
    decide +kernel
  have paths : routes.map root.joinAll = found := by decide +kernel
  have answer : projectFiles.schemaFiles root = .ok found :=
    paths ▸ schemaFiles_of_routes resolve_projectFiles same (by decide +kernel) (by decide +kernel)
  obtain ⟨each, _, ascending⟩ := (schemaFiles_exact wellFormed).1 found answer
  exact ⟨wellFormed, answer, each, ascending⟩

end Directory

end FileSystem

end TableScript
