import TableScript.Files.Place

/-! What stands at the end of some names after a node was put elsewhere, and paths that lead nowhere. -/
namespace TableScript.FileNode

variable {root node : FileNode} {names others : List FileName}

theorem at?_cons (tree : FileNode) (name : FileName) (rest : List FileName) :
    tree.at? (name :: rest) = (tree.entries.lookup name).bind (·.at? rest) := by
  cases tree with
  | directory entries =>
    rw [at?, FileNode.entries]
    cases entries.lookup name <;> rfl
  | file bytes => rfl
  | link target => rfl

theorem at?_place_self (tree : FileNode) : (place node names tree).at? names = some node := by
  induction names generalizing tree with
  | nil => rfl
  | cons name rest ih =>
    rw [place, at?_cons, entries, Keyed.lookup_put_self]
    exact ih _

/-- A node put on a path changes nothing on a path that parts from it. -/
theorem at?_place_of_apart (tree : FileNode) (apart : ¬ names <+: others ∧ ¬ others <+: names) :
    (place node others tree).at? names = tree.at? names := by
  induction others generalizing names tree with
  | nil => exact absurd List.nil_prefix apart.2
  | cons other others ih =>
    cases names with
    | nil => exact absurd List.nil_prefix apart.1
    | cons name names =>
      rw [place, at?_cons, at?_cons, entries]
      by_cases same : name = other
      · subst same
        simp only [List.cons_prefix_cons, true_and] at apart
        rw [Keyed.lookup_put_self, Option.bind_some, ih _ apart]
        cases tree.entries.lookup name with
        | some child => rfl
        | none =>
          cases names with
          | nil => exact absurd List.nil_prefix apart.1
          | cons => rfl
      · rw [Keyed.lookup_put_of_ne _ same]

theorem exists_entry_of_at? {name : FileName} (leads : root.at? (name :: names) = some node) :
    ∃ entries child, root = .directory entries ∧ entries.lookup name = some child ∧
      child.at? names = some node := by
  rw [at?_cons] at leads
  obtain ⟨child, there, below⟩ := Option.bind_eq_some_iff.mp leads
  cases root with
  | directory entries => exact ⟨entries, child, rfl, there, below⟩
  | file bytes => simp [entries] at there
  | link target => simp [entries] at there

/-- A path through a directory to an entry that it does not have leads nowhere. -/
theorem trace_of_missing {first second third : FileName} (present : (root.at? [first, third]).isSome)
    (missing : root.at? [first, second] = none) (some_left : names ≠ [])
    (named : ∀ name ∈ [first, second], name ≠ [dot] ∧ name ≠ [dot, dot] ∧ name.length ≤ 255)
    (followsLast : Bool) (links : Nat) :
    root.trace followsLast links [] (first :: second :: names) = .error .notFound := by
  obtain ⟨found, leads⟩ := Option.isSome_iff_exists.mp present
  obtain ⟨entries, child, rfl, there, below⟩ := exists_entry_of_at? leads
  obtain ⟨inner, leaf, rfl, -, -⟩ := exists_entry_of_at? below
  have at_first : (directory entries).at? [first] = some (directory inner) := by simp [at?, there]
  have absent : inner.lookup second = none := by
    rw [at?_cons, FileNode.entries, there, Option.bind_some, at?_cons, FileNode.entries] at missing
    cases deeper : inner.lookup second with
    | none => rfl
    | some leaf => simp [deeper, at?] at missing
  obtain ⟨plain, above, short⟩ := named first (by simp)
  obtain ⟨plain', above', short'⟩ := named second (by simp)
  rw [trace]
  simp only [List.reverse_nil, at?, plain, above, Nat.not_lt.mpr short, there, if_false]
  rw [trace]
  simp only [List.reverse_singleton, at_first, plain', above', Nat.not_lt.mpr short', absent, some_left, if_false]

end TableScript.FileNode
