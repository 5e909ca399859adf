import TableScript.Schema.Declaration

/-! The forms of schema lines, said without a reader: which texts are identifiers, gaps and
separators, which lines declare a table or a column, and which lines declare nothing wherever they
stand. -/
namespace TableScript.Schema

def IsIdentifier (text : List Char) : Prop := text ≠ [] ∧ ∀ c ∈ text, isIdentifierChar c = true

def IsTableName (text : List Char) : Prop := text ≠ [] ∧ ∀ c ∈ text, isTableNameChar c = true

def IsGap (text : List Char) : Prop := ∀ c ∈ text, isGapChar c = true

instance (text : List Char) : Decidable (IsIdentifier text) :=
  decidable_of_iff ((!text.isEmpty && text.all isIdentifierChar) = true) (by simp [IsIdentifier])

instance (text : List Char) : Decidable (IsTableName text) :=
  decidable_of_iff ((!text.isEmpty && text.all isTableNameChar) = true) (by simp [IsTableName])

/-- The separators before a name: a gap that is not empty, or a parenthesis and a gap. -/
inductive IsSeparator : List Char → Prop
  | gap {text : List Char} (nonempty : text ≠ []) (gap : IsGap text) : IsSeparator text
  | parenthesis {text : List Char} (gap : IsGap text) : IsSeparator ('(' :: text)

/-- A quoted name ends at its quote. A symbol ends only where no identifier character follows. -/
def Quote.EndsBefore (quote : Quote) (tail : List Char) : Prop :=
  quote = .symbol → beginsApart tail = true

/-- The lines that declare a table, with the table's name. What follows the name does not matter. -/
inductive DeclarationLine : List Char → String → Prop
  | intro (quote : Quote) {separator name tail : List Char} (separates : IsSeparator separator)
      (named : IsTableName name) (symbol : quote = .symbol → IsIdentifier name)
      (ends : quote.EndsBefore tail) :
      DeclarationLine ("create_table".toList ++ separator ++ quote.write name ++ tail)
        (String.ofList name)

/-- The lines that declare a column. What follows the column on its line does not matter. -/
inductive ColumnLine : List Char → Column → Prop
  | typed (quote : Quote) {kind separator name tail : List Char}
      (identifier : IsIdentifier kind) (ordinary : String.ofList kind ∉ otherMethods)
      (unstated : String.ofList kind ≠ "column") (separates : IsSeparator separator)
      (named : IsIdentifier name) (ends : quote.EndsBefore tail) :
      ColumnLine ("t.".toList ++ kind ++ separator ++ quote.write name ++ tail)
        ⟨String.ofList name, String.ofList kind⟩
  | stated (first second : Quote) {separator name before after kind tail : List Char}
      (separates : IsSeparator separator) (named : IsIdentifier name) (gapBefore : IsGap before)
      (gapAfter : IsGap after) (identifier : IsIdentifier kind) (ends : second.EndsBefore tail) :
      ColumnLine ("t.column".toList ++ separator ++ first.write name ++ before ++ [','] ++ after ++
        second.write kind ++ tail) ⟨String.ofList name, String.ofList kind⟩

def marks : List (List Char) := ["create_table".toList, "t.".toList, "end".toList, r"}".toList]

/-- The trimmed lines that declare nothing and end nothing, inside blocks and outside. -/
inductive Noise : List Char → Prop
  | unmarked {line : List Char} (absent : ∀ mark ∈ marks, ¬ mark <+: line) : Noise line
  | method {method tail : List Char} (other : String.ofList method ∈ otherMethods)
      (ends : beginsApart tail = true) : Noise ("t.".toList ++ method ++ tail)

/-- Lists of lines that are equal but for white space at the ends of lines and for noise. -/
inductive EqualButNoise : List (List Char) → List (List Char) → Prop
  | nil : EqualButNoise [] []
  | line {first second : List Char} {firsts seconds : List (List Char)}
      (same : Text.trim first = Text.trim second) (rest : EqualButNoise firsts seconds) :
      EqualButNoise (first :: firsts) (second :: seconds)
  | left {noise : List Char} {firsts seconds : List (List Char)} (passed : Noise (Text.trim noise))
      (rest : EqualButNoise firsts seconds) : EqualButNoise (noise :: firsts) seconds
  | right {noise : List Char} {firsts seconds : List (List Char)} (passed : Noise (Text.trim noise))
      (rest : EqualButNoise firsts seconds) : EqualButNoise firsts (noise :: seconds)

def EndsLine (text : String) : Prop := text = "" ∨ ∃ front, text = front ++ "\n"

def FollowsLine (text : String) : Prop := text = "" ∨ ∃ rest, text = "\n" ++ rest

/-- One touch of a text: white space at the start or at the end of a line, or one more line of noise,
before another line or after the last one. -/
inductive Touched : String → String → Prop
  | indented {before blank after : String} (starts : EndsLine before)
      (white : ∀ c ∈ blank.toList, Text.isBlank c = true ∧ c ≠ '\n') :
      Touched (before ++ after) (before ++ blank ++ after)
  | trailed {before blank after : String} (ends : FollowsLine after)
      (white : ∀ c ∈ blank.toList, Text.isBlank c = true ∧ c ≠ '\n') :
      Touched (before ++ after) (before ++ blank ++ after)
  | inserted {before line after : String} (starts : EndsLine before) (single : '\n' ∉ line.toList)
      (passed : Noise (Text.trim line.toList)) :
      Touched (before ++ after) (before ++ line ++ "\n" ++ after)
  | appended {before line : String} (single : '\n' ∉ line.toList)
      (passed : Noise (Text.trim line.toList)) : Touched before (before ++ "\n" ++ line)

end TableScript.Schema
