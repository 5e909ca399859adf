import TableScript.Files.Discovery

/-! Which paths lead to schema files below a root, said without a search. The order in which
directories list their entries plays no part. -/
namespace TableScript

/-- The names on the way from a node down to a schema file. No link is followed, no name on the way is a
text that begins with a dot, and the last one is a text that holds `schema` and ends in `.rb`. -/
structure SchemaRoute (node : FileNode) (names : List FileName) : Prop where
  leads : ∃ bytes, node.Leads names (.file bytes)
  shown : ∀ name ∈ names, ∀ text, Text.decode name = some text → text.head? ≠ some '.'
  named : ∃ last text, names.getLast? = some last ∧ Text.decode last = some text ∧
    "schema".toList <:+: text ∧ ".rb".toList <:+ text

def FileSystem.IsSchemaPath (files : FileSystem) (root path : Path) : Prop :=
  ∃ entries names, files.resolve root = .ok (.directory entries) ∧
    SchemaRoute (.directory entries) names ∧ path = root.joinAll names

/-- Nodes that are equal but for the order in which their directories list their entries. -/
inductive FileNode.Relisted : FileNode → FileNode → Prop
  | refl (node : FileNode) : Relisted node node
  | trans {first second third : FileNode} (earlier : Relisted first second)
      (later : Relisted second third) : Relisted first third
  | reordered {entries others : List (FileName × FileNode)} (same : entries.Perm others) :
      Relisted (.directory entries) (.directory others)
  | inside {before after : List (FileName × FileNode)} {name : FileName} {child other : FileNode}
      (changed : Relisted child other) :
      Relisted (.directory (before ++ (name, child) :: after))
        (.directory (before ++ (name, other) :: after))

end TableScript
