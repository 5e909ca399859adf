import TableScript.Proofs.Selection.Print
import TableScript.Proofs.Selection.Scripts

/-! Looking up one table. A token is tried as a number first and as a name after that, so a table whose
name looks like a number of the catalogue is only found by its own number. -/
namespace TableScript

namespace Catalogue

def WritesNumber (catalogue : Catalogue) (token : String) (id : Nat) : Prop :=
  Text.SignedNumeral id token.toList ∧ 1 ≤ id ∧ id ≤ catalogue.size

/-- Whether a token names the table with the given number: it writes this number, or it writes no
number of the catalogue and is the table's name. -/
def Names (catalogue : Catalogue) (token : String) (id : Nat) : Prop :=
  catalogue.WritesNumber token id ∨
    (∀ number, ¬ catalogue.WritesNumber token number) ∧
      ∃ table, catalogue.get? id = some table ∧ table.name = token

section Lookup

variable {catalogue : Catalogue} {id : Nat} (countable : catalogue.size ≤ Text.largestWord)

include countable

theorem filter_readWord?_eq_some_iff {token : String} :
    (Text.readWord? token.toList).filter catalogue.contains = some id ↔
      catalogue.WritesNumber token id := by
  rw [Option.filter_eq_some_iff, Text.readWord?_eq_some_iff, contains_iff, WritesNumber]
  constructor
  · rintro ⟨⟨written, _⟩, listed⟩
    exact ⟨written, listed⟩
  · rintro ⟨written, listed⟩
    exact ⟨⟨written, listed.2.trans countable⟩, listed⟩

theorem lookup?_eq_some_iff {token : String} :
    catalogue.lookup? token = some id ↔ catalogue.Names (Text.trimmed token) id := by
  rw [lookup?_eq_or]
  cases numbered : (Text.readWord? (Text.trimmed token).toList).filter catalogue.contains with
  | some number =>
    have writes := (filter_readWord?_eq_some_iff countable).mp numbered
    constructor
    · intro found
      exact .inl (Option.some.inj found ▸ writes)
    · rintro (other | ⟨unnumbered, _⟩)
      · rwa [(filter_readWord?_eq_some_iff countable).mpr other, eq_comm] at numbered
      · exact absurd writes (unnumbered number)
  | none =>
    have unnumbered (number : Nat) : ¬ catalogue.WritesNumber (Text.trimmed token) number := by
      intro writes
      rw [(filter_readWord?_eq_some_iff countable).mpr writes] at numbered
      contradiction
    simp only [Option.none_or, Names, unnumbered, false_or, not_false_eq_true, implies_true, true_and,
      Option.map_eq_some_iff, named?_eq_some_iff, get?_eq_some_iff]
    constructor
    · rintro ⟨table, ⟨member, named⟩, number⟩
      exact ⟨table, ⟨member, number⟩, named⟩
    · rintro ⟨table, ⟨member, number⟩, named⟩
      exact ⟨table, ⟨member, named⟩, number⟩

/-- The numeral of a listed table selects that table alone. -/
theorem select_numeral (listed : catalogue.contains id = true) (zeros : Nat) {before after : List Char}
    (gapBefore : Selection.IsGap before) (gapAfter : Selection.IsGap after) :
    catalogue.select (String.ofList (before ++ Selection.numeral zeros id ++ after)) = .ok [id] := by
  obtain ⟨positive, small⟩ := contains_iff.mp listed
  have form : Selection.FormWritten Text.cappedValue
      (.single (Text.cappedValue (Selection.numeral zeros id))) (Selection.numeral zeros id) :=
    .single (Selection.isNumeral_numeral zeros id)
  rw [Selection.cappedValue_numeral (small.trans countable)] at form
  have written : Selection.Written Text.cappedValue (.single id)
      (String.ofList (before ++ Selection.numeral zeros id ++ after)).toList := by
    rw [String.toList_ofList]
    exact .around gapBefore form gapAfter
  have read := Selection.read_eq_ok_iff.mpr written
  have nonempty : ¬ catalogue.isEmpty = true := by
    rw [isEmpty_iff]
    omega
  simp only [select_of_read read, Selection.resolve, nonempty]
  exact Selection.checked_eq_ok_iff.mpr ⟨rfl, by simp, by simpa using listed⟩

end Lookup

theorem mem_listing_iff {catalogue : Catalogue} {id : Nat} {name : String} :
    (id, name) ∈ catalogue.listing ↔ ∃ table, catalogue.get? id = some table ∧ table.name = name := by
  simp [listing, get?_eq_some_iff, and_assoc]

/-- A token finds a table exactly when it writes its number or, where it writes no number of the
catalogue, when it is its name; white space around the token does not count. So what a listing shows
leads back to its table: the number in decimal digits, with zeros before it and white space around it,
finds the table and selects it alone, and the name finds it unless it reads as a number of the
catalogue. The tables are as many as a word can count. -/
theorem lookup_by_number_or_name (text : String)
    (countable : (Schema.read text).catalogue.size ≤ Text.largestWord) :
    let catalogue := (Schema.read text).catalogue
    (∀ token id, catalogue.lookup? token = some id ↔ catalogue.Names (Text.trimmed token) id) ∧
    ∀ id name, (id, name) ∈ catalogue.listing →
      (∃ table, catalogue.get? id = some table ∧ table.name = name) ∧
      (∀ zeros before after, Text.AllBlank before → Text.AllBlank after →
        let token := String.ofList (before ++ Selection.numeral zeros id ++ after)
        catalogue.lookup? token = some id ∧
        (Selection.IsGap before → Selection.IsGap after → catalogue.select token = .ok [id])) ∧
      ((∀ number, ¬ catalogue.WritesNumber name number) → catalogue.lookup? name = some id) := by
  intro catalogue
  refine ⟨fun _ _ => lookup?_eq_some_iff countable, fun id name shown => ?_⟩
  obtain ⟨table, found, named⟩ := mem_listing_iff.mp shown
  have listed : catalogue.contains id = true := Option.isSome_iff_exists.mpr ⟨table, found⟩
  refine ⟨⟨table, found, named⟩, ?_, ?_⟩
  · intro zeros before after blankBefore blankAfter token
    have digits := Selection.isNumeral_numeral zeros id
    have written : Text.SignedNumeral id (Selection.numeral zeros id) := by
      have value := Text.SignedNumeral.unsigned digits.1 digits.2
      rwa [Selection.numeral, Text.decimalValue_padded] at value
    have trimmed : Text.trimmed token = String.ofList (Selection.numeral zeros id) := by
      rw [Text.trimmed, String.toList_ofList, written.tight.trim_around blankBefore blankAfter]
    refine ⟨(lookup?_eq_some_iff countable).mpr (.inl ⟨?_, contains_iff.mp listed⟩),
      select_numeral countable listed zeros⟩
    rwa [trimmed, String.toList_ofList]
  · intro unnumbered
    have isName : Schema.IsTableName table.name.toList :=
      (Schema.isNamedTable_of_mem_read (get?_eq_some_iff.mp found).1).1
    have kept : Text.trimmed name = name := by
      rw [Text.trimmed, ← named, isName.tight.trim_eq, String.ofList_toList]
    rw [lookup?_eq_some_iff countable, kept]
    exact .inr ⟨unnumbered, table, found, named⟩

theorem lookup_by_number_or_name_numerals :
    let text := "create_table :users\ncreate_table '03'\ncreate_table '07'"
    let catalogue := (Schema.read text).catalogue
    catalogue.size ≤ Text.largestWord ∧ (2, "03") ∈ catalogue.listing ∧ (3, "07") ∈ catalogue.listing ∧
      catalogue.lookup? "\t03\n" = some 3 ∧ catalogue.select "\t03\n" = .ok [3] ∧
      (∀ number, ¬ catalogue.WritesNumber "07" number) ∧ catalogue.lookup? "07" = some 3 := by
  intro text catalogue
  have countable : catalogue.size ≤ Text.largestWord := by decide +kernel
  have three : catalogue.size = 3 := by decide +kernel
  have second : (2, "03") ∈ catalogue.listing := by decide +kernel
  have third : (3, "07") ∈ catalogue.listing := by decide +kernel
  have unnumbered (number : Nat) : ¬ catalogue.WritesNumber "07" number := by
    rintro ⟨written, _, small⟩
    have read : Text.readWord? "07".toList = some 7 := by decide +kernel
    rw [Text.readWord?_eq_some_iff.mpr ⟨written, small.trans countable⟩, Option.some.injEq] at read
    omega
  have token : String.ofList (['\t'] ++ Selection.numeral 1 3 ++ ['\n']) = "\t03\n" := by decide +kernel
  have gaps : Selection.IsGap ['\t'] ∧ Selection.IsGap ['\n'] := by
    simp [Selection.IsGap, Selection.isGapChar]
  obtain ⟨_, listed⟩ := lookup_by_number_or_name text countable
  obtain ⟨_, numbered, named⟩ := listed 3 "07" third
  obtain ⟨found, selected⟩ := numbered 1 ['\t'] ['\n'] (by decide) (by decide)
  rw [token] at found selected
  exact ⟨countable, second, third, found, selected gaps.1 gaps.2, unnumbered, named unnumbered⟩

end Catalogue

end TableScript
