import TableScript.Proofs.Schema.Name

/-! Columns are read from exactly the column lines, so nothing after the column on its line has a
part in what is read. -/
namespace TableScript.Schema

theorem not_isIdentifierChar_of_isGapChar {c : Char} (gap : isGapChar c = true) :
    isIdentifierChar c = false := by
  simp only [isGapChar, Bool.or_eq_true, beq_iff_eq] at gap
  rcases gap with rfl | rfl <;> decide

/-- A gap ends what stands before it, if what follows would. -/
theorem IsGap.beginsApart {gap text : List Char} (all : IsGap gap)
    (apart : gap ≠ [] ∨ Schema.beginsApart text = true) : Schema.beginsApart (gap ++ text) = true := by
  cases gap with
  | nil => simpa using apart
  | cons c gap => simp [Schema.beginsApart, not_isIdentifierChar_of_isGapChar (all c List.mem_cons_self)]

theorem IsSeparator.beginsApart {separator : List Char} (separates : IsSeparator separator)
    (text : List Char) : Schema.beginsApart (separator ++ text) = true := by
  cases separates with
  | parenthesis gap => rfl
  | gap nonempty gap => exact gap.beginsApart (.inl nonempty)

theorem Quote.head?_write_append (quote : Quote) (name rest : List Char) :
    ∀ c ∈ (quote.write name ++ rest).head?, isGapChar c = false := by
  cases quote <;> simp [Quote.write] <;> decide

theorem name?_identifier_eq_some_iff {text name rest : List Char} :
    name? isIdentifierChar text = some (name, rest) ↔
      ∃ quote : Quote, text = quote.write name ++ rest ∧ IsIdentifier name ∧
        quote.EndsBefore rest := by
  rw [name?_eq_some_iff (by decide) (by decide) (fun _ member => member)]
  simp only [Quote.Accepts, IsIdentifier]
  tauto

theorem statedKind?_eq_some_iff {text kind : List Char} :
    statedKind? text = some kind ↔
      ∃ (quote : Quote) (before after tail : List Char), IsGap before ∧ IsGap after ∧
        text = before ++ [','] ++ after ++ quote.write kind ++ tail ∧ IsIdentifier kind ∧
        quote.EndsBefore tail := by
  unfold statedKind?
  constructor
  · intro read
    split at read
    · rename_i rest comma
      obtain ⟨before, gapBefore, rfl, _⟩ := dropGap_eq_iff.mp comma
      obtain ⟨⟨name, tail⟩, named, same⟩ := Option.map_eq_some_iff.mp read
      obtain rfl : name = kind := same
      obtain ⟨quote, written, identifier, ends⟩ := name?_identifier_eq_some_iff.mp named
      obtain ⟨after, gapAfter, rfl, _⟩ := dropGap_eq_iff.mp written
      exact ⟨quote, before, after, tail, gapBefore, gapAfter, by simp, identifier, ends⟩
    · contradiction
  · rintro ⟨quote, before, after, tail, gapBefore, gapAfter, rfl, identifier, ends⟩
    have comma : dropGap (before ++ [','] ++ after ++ quote.write kind ++ tail) =
        ',' :: (after ++ (quote.write kind ++ tail)) :=
      dropGap_eq_iff.mpr ⟨before, gapBefore, by simp, by simp [isGapChar]⟩
    have gap : dropGap (after ++ (quote.write kind ++ tail)) = quote.write kind ++ tail :=
      dropGap_eq_iff.mpr ⟨after, gapAfter, rfl, quote.head?_write_append kind tail⟩
    simp only [comma, gap]
    rw [name?_identifier_eq_some_iff.mpr ⟨quote, rfl, identifier, ends⟩]
    rfl

/-- A line that goes up to the column's name is a column unless its method is another one; what
follows the name only matters to `t.column`. -/
theorem column?_written {method separator name rest : List Char} {quote : Quote}
    (identifier : IsIdentifier method) (separates : IsSeparator separator)
    (named : IsIdentifier name) (ends : quote.EndsBefore rest) :
    column? ("t.".toList ++ method ++ separator ++ quote.write name ++ rest) =
      if String.ofList method ∈ otherMethods then none
      else if String.ofList method = "column" then
        (statedKind? rest).map fun kind => ⟨String.ofList name, String.ofList kind⟩
      else some ⟨String.ofList name, String.ofList method⟩ := by
  have start : after? "t.".toList ("t.".toList ++ method ++ separator ++ quote.write name ++ rest) =
      some (method ++ separator ++ quote.write name ++ rest) := after?_eq_some_iff.mpr (by simp)
  have left : identifier? (method ++ separator ++ quote.write name ++ rest) =
      some (method, separator ++ quote.write name ++ rest) :=
    identifier?_eq_some_iff.mpr
      ⟨by simp, identifier, by simpa using separates.beginsApart (quote.write name ++ rest)⟩
  have gap : separator? (separator ++ quote.write name ++ rest) = some (quote.write name ++ rest) :=
    separator?_eq_some_iff.mpr ⟨separator, separates, by simp, quote.head?_write_append name rest⟩
  have read := name?_identifier_eq_some_iff.mpr ⟨quote, rfl, named, ends⟩
  simp only [column?, start, left, gap, read, Option.bind_eq_bind, Option.bind_some]
  split
  · rfl
  · split
    · cases statedKind? rest <;> rfl
    · rfl

private theorem exists_written_of_column? {line : List Char} {column : Column}
    (read : column? line = some column) :
    ∃ (method separator name rest : List Char) (quote : Quote), IsIdentifier method ∧
      IsSeparator separator ∧ IsIdentifier name ∧ quote.EndsBefore rest ∧
      line = "t.".toList ++ method ++ separator ++ quote.write name ++ rest := by
  simp only [column?, Option.bind_eq_bind, Option.bind_eq_some_iff] at read
  obtain ⟨afterMark, start, ⟨method, afterMethod⟩, left, read⟩ := read
  split at read
  · contradiction
  · obtain ⟨afterGap, gap, read⟩ := Option.bind_eq_some_iff.mp read
    obtain ⟨⟨name, rest⟩, named, _⟩ := Option.bind_eq_some_iff.mp read
    obtain ⟨rfl, identifier, _⟩ := identifier?_eq_some_iff.mp left
    obtain ⟨separator, separates, rfl, _⟩ := separator?_eq_some_iff.mp gap
    obtain ⟨quote, rfl, isName, ends⟩ := name?_identifier_eq_some_iff.mp named
    refine ⟨method, separator, name, rest, quote, identifier, separates, isName, ends, ?_⟩
    rw [after?_eq_some_iff.mp start]
    simp

/-- A line is read as a column exactly when it is a column line. -/
theorem column?_eq_some_iff {line : List Char} {column : Column} :
    column? line = some column ↔ ColumnLine line column := by
  constructor
  · intro read
    obtain ⟨method, separator, name, rest, quote, identifier, separates, named, ends, rfl⟩ :=
      exists_written_of_column? read
    rw [column?_written identifier separates named ends] at read
    split at read
    · contradiction
    · rename_i ordinary
      split at read
      · rename_i stated
        obtain ⟨kind, found, rfl⟩ := Option.map_eq_some_iff.mp read
        obtain ⟨second, before, after, tail, gapBefore, gapAfter, rfl, isKind, ended⟩ :=
          statedKind?_eq_some_iff.mp found
        obtain rfl : method = "column".toList := by rw [← stated, String.toList_ofList]
        simpa using ColumnLine.stated quote second separates named gapBefore gapAfter isKind ended
      · rename_i unstated
        obtain rfl := Option.some.inj read
        exact .typed quote identifier ordinary unstated separates named ends
  · intro written
    cases written with
    | typed quote identifier ordinary unstated separates named ends =>
      rw [column?_written identifier separates named ends, if_neg ordinary, if_neg unstated]
    | @stated first second separator name before after kind tail separates named gapBefore gapAfter
        isKind ends =>
      have method : IsIdentifier "column".toList := by simp [IsIdentifier]; decide
      have apart : first.EndsBefore (before ++ [','] ++ after ++ second.write kind ++ tail) := by
        intro _
        simpa using gapBefore.beginsApart (.inr rfl)
      have found := statedKind?_eq_some_iff.mpr
        ⟨second, before, after, tail, gapBefore, gapAfter, rfl, isKind, ends⟩
      have read := column?_written method separates named apart
      rw [found, if_neg (by decide), if_pos (by decide)] at read
      simpa using read

/-- A line declares one column at most: its form fixes the name and the kind. -/
theorem ColumnLine.unique {line : List Char} {first second : Column} (one : ColumnLine line first)
    (other : ColumnLine line second) : first = second := by
  have read := column?_eq_some_iff.mpr one
  rw [column?_eq_some_iff.mpr other] at read
  exact (Option.some.inj read).symm

/-- Whatever the line, it is read as the column that its form declares, and as none if its form
declares none. No line declares two columns, so what follows a column never has a part in it. -/
theorem columnLines_exact (line : List Char) :
    (∀ column, column? line = some column ↔ ColumnLine line column) ∧
    (column? line = none ↔ ∀ column, ¬ ColumnLine line column) ∧
    ∀ first second, ColumnLine line first → ColumnLine line second → first = second := by
  refine ⟨fun _ => column?_eq_some_iff, ?_, fun _ _ => ColumnLine.unique⟩
  simp only [← column?_eq_some_iff, Option.eq_none_iff_forall_ne_some, ne_eq]

theorem columnLines_exact_bigInt :
    let line := "t.column( \"size\" ,\t:big_int, null: false".toList
    let unstated := "t.column \"size\", limit: 3".toList
    ColumnLine line ⟨"size", "big_int"⟩ ∧ column? line = some ⟨"size", "big_int"⟩ ∧
      (∀ other, ColumnLine line other → other = ⟨"size", "big_int"⟩) ∧
      ∀ column, ¬ ColumnLine unstated column := by
  intro line unstated
  have name : IsIdentifier "size".toList := by decide +kernel
  have kind : IsIdentifier "big_int".toList := by decide +kernel
  have gap : IsGap [' '] ∧ IsGap ['\t'] := by simp [IsGap, isGapChar]
  have ends : Quote.symbol.EndsBefore ", null: false".toList := fun _ => by decide +kernel
  have written : ColumnLine line ⟨"size", "big_int"⟩ :=
    .stated .double .symbol (.parenthesis gap.1) name gap.1 gap.2 kind ends
  have absent : column? unstated = none := by decide +kernel
  obtain ⟨read, _, unique⟩ := columnLines_exact line
  exact ⟨written, (read _).mpr written, fun other also => unique other _ also written,
    (columnLines_exact unstated).2.1.mp absent⟩

end TableScript.Schema
