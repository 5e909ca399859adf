import TableScript.Proofs.Text.Character
import TableScript.Proofs.Text.Run
import TableScript.Proofs.Text.Trim
import TableScript.Schema.Grammar

/-! The leaf readers of a schema line are exact: a gap, a separator, a run of accepted characters or
a written name is read from a text exactly when the text begins with one that goes no further. -/
namespace TableScript.Schema

theorem isTableNameChar_of_isIdentifierChar {c : Char} (member : isIdentifierChar c = true) :
    isTableNameChar c = true := by
  simp [isTableNameChar, member]

theorem not_isBlank_of_isTableNameChar {c : Char} (member : isTableNameChar c = true) :
    Text.isBlank c = false := by
  by_contra blank
  rw [Bool.not_eq_false] at blank
  simp only [isTableNameChar, isIdentifierChar, Text.isAlphanumeric_of_isBlank blank, Bool.false_or,
    Bool.or_eq_true, beq_iff_eq] at member
  rcases member with rfl | rfl <;> exact absurd blank (by decide)

theorem beginsApart_iff {text : List Char} :
    beginsApart text = true ↔ ∀ c ∈ text.head?, isIdentifierChar c = false := by
  cases text <;> simp [beginsApart]

theorem IsIdentifier.isTableName {text : List Char} (identifier : IsIdentifier text) :
    IsTableName text :=
  ⟨identifier.1, fun c member => isTableNameChar_of_isIdentifierChar (identifier.2 c member)⟩

theorem IsTableName.tight {text : List Char} (named : IsTableName text) : Text.Tight text :=
  .of_solid named.1 fun c member => not_isBlank_of_isTableNameChar (named.2 c member)

theorem run?_eq_some_iff {accept : Char → Bool} {text name rest : List Char} :
    run? accept text = some (name, rest) ↔
      text = name ++ rest ∧ name ≠ [] ∧ (∀ c ∈ name, accept c = true) ∧
        ∀ c ∈ rest.head?, accept c = false := by
  unfold run?
  constructor
  · intro read
    split at read
    · contradiction
    · rename_i nonempty
      simp only [Option.some.injEq, Prod.mk.injEq] at read
      obtain ⟨whole, accepted, ends⟩ := Text.takeWhile_dropWhile_iff.mp read
      exact ⟨whole, read.1 ▸ nonempty, accepted, ends⟩
  · rintro ⟨whole, nonempty, accepted, ends⟩
    obtain ⟨taken, left⟩ := Text.takeWhile_dropWhile_iff.mpr ⟨whole, accepted, ends⟩
    rw [taken, left, if_neg nonempty]

theorem identifier?_eq_some_iff {text name rest : List Char} :
    identifier? text = some (name, rest) ↔
      text = name ++ rest ∧ IsIdentifier name ∧ beginsApart rest = true := by
  rw [identifier?, run?_eq_some_iff, beginsApart_iff, IsIdentifier]
  tauto

theorem dropGap_eq_iff {text rest : List Char} :
    dropGap text = rest ↔
      ∃ gap, IsGap gap ∧ text = gap ++ rest ∧ ∀ c ∈ rest.head?, isGapChar c = false :=
  Text.dropWhile_eq_iff

theorem separator?_eq_some_iff {text rest : List Char} :
    separator? text = some rest ↔
      ∃ separator, IsSeparator separator ∧ text = separator ++ rest ∧
        ∀ c ∈ rest.head?, isGapChar c = false := by
  constructor
  · intro read
    cases text with
    | nil => simp [separator?] at read
    | cons c text =>
      simp only [separator?] at read
      split at read
      · rename_i opens
        obtain ⟨gap, all, rfl, ends⟩ := dropGap_eq_iff.mp (Option.some.inj read)
        rcases opens with rfl | blank
        · exact ⟨'(' :: gap, .parenthesis all, rfl, ends⟩
        · refine ⟨c :: gap, .gap (by simp) ?_, rfl, ends⟩
          intro d member
          rcases List.mem_cons.mp member with rfl | inside
          · exact blank
          · exact all d inside
      · contradiction
  · rintro ⟨separator, separates, rfl, ends⟩
    cases separates with
    | parenthesis gap =>
      simp only [List.cons_append, separator?, true_or, if_true, Option.some.injEq]
      exact dropGap_eq_iff.mpr ⟨_, gap, rfl, ends⟩
    | gap nonempty all =>
      cases separator with
      | nil => exact absurd rfl nonempty
      | cons c gap =>
        simp only [List.cons_append, separator?, all c List.mem_cons_self, or_true, if_true,
          Option.some.injEq]
        exact dropGap_eq_iff.mpr ⟨gap, fun d member => all d (List.mem_cons_of_mem c member), rfl, ends⟩

theorem quoted?_eq_some_iff {accept : Char → Bool} {quote : Char} (outside : accept quote = false)
    {text name rest : List Char} :
    quoted? accept quote text = some (name, rest) ↔
      text = name ++ quote :: rest ∧ name ≠ [] ∧ ∀ c ∈ name, accept c = true := by
  unfold quoted?
  constructor
  · intro read
    split at read
    · rename_i found c left run
      split at read
      · rename_i same
        simp only [Option.some.injEq, Prod.mk.injEq] at read
        obtain ⟨rfl, rfl⟩ := read
        obtain ⟨whole, nonempty, accepted, _⟩ := run?_eq_some_iff.mp run
        exact ⟨same ▸ whole, nonempty, accepted⟩
      · contradiction
    · contradiction
  · rintro ⟨rfl, nonempty, accepted⟩
    have run : run? accept (name ++ quote :: rest) = some (name, quote :: rest) :=
      run?_eq_some_iff.mpr ⟨rfl, nonempty, accepted, by simp [outside]⟩
    simp [run]

/-- The characters that a name may hold in a quote: a symbol is always an identifier. -/
def Quote.Accepts (quote : Quote) (accept : Char → Bool) (name : List Char) : Prop :=
  name ≠ [] ∧ (∀ c ∈ name, accept c = true) ∧ (quote = .symbol → IsIdentifier name)

/-- A written name is read exactly when the text begins with a name in one of the quotes and goes on
with what cannot belong to it. -/
theorem name?_eq_some_iff {accept : Char → Bool} (double : accept '"' = false)
    (single : accept '\'' = false) (wide : ∀ c, isIdentifierChar c = true → accept c = true)
    {text name rest : List Char} :
    name? accept text = some (name, rest) ↔
      ∃ quote : Quote, text = quote.write name ++ rest ∧ quote.Accepts accept name ∧
        quote.EndsBefore rest := by
  constructor
  · intro read
    cases text with
    | nil => simp [name?] at read
    | cons c text =>
      simp only [name?] at read
      split at read
      · rename_i marks
        rcases marks with rfl | rfl
        · obtain ⟨rfl, nonempty, accepted⟩ := (quoted?_eq_some_iff double).mp read
          exact ⟨.double, by simp [Quote.write], ⟨nonempty, accepted, by simp⟩, by simp [Quote.EndsBefore]⟩
        · obtain ⟨rfl, nonempty, accepted⟩ := (quoted?_eq_some_iff single).mp read
          exact ⟨.single, by simp [Quote.write], ⟨nonempty, accepted, by simp⟩, by simp [Quote.EndsBefore]⟩
      · split at read
        · rename_i colon
          obtain ⟨rfl, identifier, ends⟩ := identifier?_eq_some_iff.mp read
          exact ⟨.symbol, by simp [Quote.write, colon],
            ⟨identifier.1, fun c member => wide c (identifier.2 c member), fun _ => identifier⟩,
            fun _ => ends⟩
        · contradiction
  · rintro ⟨quote, rfl, ⟨nonempty, accepted, identifier⟩, ends⟩
    cases quote with
    | double =>
      simp only [Quote.write, List.cons_append, List.append_assoc, List.nil_append, name?, true_or,
        if_true]
      exact (quoted?_eq_some_iff double).mpr ⟨rfl, nonempty, accepted⟩
    | single =>
      simp only [Quote.write, List.cons_append, List.append_assoc, List.nil_append, name?, or_true,
        if_true]
      exact (quoted?_eq_some_iff single).mpr ⟨rfl, nonempty, accepted⟩
    | symbol =>
      simp only [Quote.write, List.cons_append, name?, if_true]
      exact identifier?_eq_some_iff.mpr ⟨rfl, identifier rfl, ends rfl⟩

end TableScript.Schema
