import TableScript.Proofs.Schema.ColumnLine

/-! Declarations are read from exactly the lines that go up to a written table name. What follows
the name is the whole rest of the line, from which alone the shape of the table is taken. -/
namespace TableScript.Schema

theorem name?_tableName_eq_some_iff {text name rest : List Char} :
    name? isTableNameChar text = some (name, rest) ↔
      ∃ quote : Quote, text = quote.write name ++ rest ∧ IsTableName name ∧
        (quote = .symbol → IsIdentifier name) ∧ quote.EndsBefore rest := by
  rw [name?_eq_some_iff (by decide) (by decide) fun _ => isTableNameChar_of_isIdentifierChar]
  simp only [Quote.Accepts, IsTableName, and_assoc]

/-- A line is read as a declaration exactly when it begins with the word, a separator and a name. -/
theorem declaration?_eq_some_iff {line name rest : List Char} :
    declaration? line = some (name, rest) ↔
      ∃ (separator : List Char) (quote : Quote), IsSeparator separator ∧ IsTableName name ∧
        (quote = .symbol → IsIdentifier name) ∧ quote.EndsBefore rest ∧
        line = "create_table".toList ++ separator ++ quote.write name ++ rest := by
  constructor
  · intro read
    simp only [declaration?, Option.bind_eq_bind, Option.bind_eq_some_iff] at read
    obtain ⟨afterMark, start, afterGap, gap, named⟩ := read
    obtain ⟨separator, separates, rfl, _⟩ := separator?_eq_some_iff.mp gap
    obtain ⟨quote, rfl, isName, symbol, ends⟩ := name?_tableName_eq_some_iff.mp named
    refine ⟨separator, quote, separates, isName, symbol, ends, ?_⟩
    rw [after?_eq_some_iff.mp start]
    simp
  · rintro ⟨separator, quote, separates, isName, symbol, ends, rfl⟩
    have start : after? "create_table".toList
        ("create_table".toList ++ separator ++ quote.write name ++ rest) =
        some (separator ++ quote.write name ++ rest) := after?_eq_some_iff.mpr (by simp)
    have gap : separator? (separator ++ quote.write name ++ rest) = some (quote.write name ++ rest) :=
      separator?_eq_some_iff.mpr ⟨separator, separates, by simp, quote.head?_write_append name rest⟩
    have named := name?_tableName_eq_some_iff.mpr ⟨quote, rfl, isName, symbol, ends⟩
    simp only [declaration?, start, gap, named, Option.bind_eq_bind, Option.bind_some]

end TableScript.Schema
