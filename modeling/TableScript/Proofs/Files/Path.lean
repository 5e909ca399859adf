import TableScript.Files.Tree

/-! Components of paths put together from a path and the names below it. -/
namespace TableScript.Path

theorem components_of_isEntryName {name : FileName} (proper : IsEntryName name) :
    components ⟨name⟩ = [name] := by
  obtain ⟨some, within, single, _⟩ := proper
  simp [components, List.splitOn_eq_singleton within, some, single]

/-- A slash at the end of a path is the one that the name would bring. -/
theorem components_join {path : Path} {name : FileName} (proper : IsEntryName name) :
    (path.join name).components = path.components ++ [name] := by
  have alone : (name.splitOn slash).filter (fun piece => piece ≠ [] ∧ piece ≠ [dot]) = [name] :=
    components_of_isEntryName proper
  by_cases empty : path.bytes = []
  · simp only [join, empty, true_or, if_true, List.nil_append, components, alone]
    rfl
  · by_cases closed : path.endsWithSlash = true
    · obtain ⟨front, whole⟩ : ∃ front, path.bytes = front ++ [slash] := by
        simpa [endsWithSlash, List.getLast?_eq_some_iff] using closed
      have bytes : (path.join name).bytes = front ++ slash :: name := by
        simp [join, closed, whole]
      rw [components, bytes, components, whole, List.splitOn_append_cons_self,
        List.splitOn_append_cons_self, List.filter_append, alone, List.filter_append]
      simp
    · have bytes : (path.join name).bytes = path.bytes ++ slash :: name := by
        simp [join, empty, closed]
      rw [components, bytes, List.splitOn_append_cons_self, List.filter_append, alone]
      rfl

theorem components_joinAll {root : Path} {names : List FileName}
    (proper : ∀ name ∈ names, IsEntryName name) :
    (root.joinAll names).components = root.components ++ names := by
  induction names generalizing root with
  | nil => simp [joinAll]
  | cons name names ih =>
    have rest := @ih (root.join name) fun other member => proper other (List.mem_cons_of_mem name member)
    rw [components_join (proper name List.mem_cons_self), List.append_assoc] at rest
    exact rest

end TableScript.Path
