import TableScript.Proofs.Schema.Alike
import TableScript.Schema.HeaderOption

/-! When the options of a declaration are ignored. They are never read as options: the rest of the line
is searched for braces and for the word `do`, so what is written inside an option can stand in for the
block. The exact condition is stated on the written options. -/
namespace TableScript.Schema

open Text (trim trimEnd)

theorem IsPlain.isLinePart_quotedText {content : List Char} (plain : IsPlain content) : IsLinePart (quotedText content) := by
  have inside : '\n' ∉ content := fun member => plain '\n' member (by decide)
  simpa [IsLinePart, quotedText] using inside

theorem IsIdentifier.isLinePart {text : List Char} (identifier : IsIdentifier text) : IsLinePart text :=
  fun member => absurd (identifier.2 '\n' member) (by decide)

mutual

theorem OptionValue.isLinePart_write :
    ∀ value : OptionValue, value.WellFormed → IsLinePart value.write
  | .symbol name, formed => by
    have inside := IsIdentifier.isLinePart formed
    simpa [IsLinePart] using inside
  | .number text, formed => fun member => by
    rcases formed.2 '\n' member with digit | mark <;> contradiction
  | .flag true, _ => by decide
  | .flag false, _ => by decide
  | .nil, _ => by decide
  | .text content, formed => IsPlain.isLinePart_quotedText formed
  | .list items, formed => by
    have inside := isLinePart_writeItems items formed
    simpa [IsLinePart] using inside
  | .record fields, formed => by
    have inside := isLinePart_writeFields fields formed
    simpa [IsLinePart] using inside
  | .function content, formed => by
    have inside := IsPlain.isLinePart_quotedText formed
    simpa [IsLinePart] using inside

theorem isLinePart_writeItems : ∀ items, WellFormedItems items → IsLinePart (writeItems items)
  | [], _ => nofun
  | [item], formed => item.isLinePart_write formed.1
  | item :: next :: items, formed => by
    have first := item.isLinePart_write formed.1
    have rest := isLinePart_writeItems (next :: items) formed.2
    simp [IsLinePart, writeItems] at first rest ⊢
    exact ⟨first, rest⟩

theorem isLinePart_writeFields : ∀ fields, WellFormedFields fields → IsLinePart (writeFields fields)
  | [], _ => nofun
  | [(key, value)], formed => by
    have name := IsIdentifier.isLinePart formed.1
    have inside := value.isLinePart_write formed.2.1
    simp [IsLinePart, writeFields] at name inside ⊢
    exact ⟨name, inside⟩
  | (key, value) :: next :: fields, formed => by
    have name := IsIdentifier.isLinePart formed.1
    have inside := value.isLinePart_write formed.2.1
    have rest := isLinePart_writeFields (next :: fields) formed.2.2
    simp [IsLinePart, writeFields] at name inside rest ⊢
    exact ⟨name, inside, rest⟩

end

theorem WellFormedFields.of_mem {fields : List (List Char × OptionValue)} (formed : WellFormedFields fields)
    {key : List Char} {value : OptionValue} (member : (key, value) ∈ fields) :
    IsIdentifier key ∧ value.WellFormed := by
  induction fields with
  | nil => contradiction
  | cons field fields ih =>
    obtain ⟨name, inside⟩ := field
    rcases List.mem_cons.mp member with same | later
    · obtain ⟨rfl, rfl⟩ := Prod.mk.inj same
      exact ⟨formed.1, formed.2.1⟩
    · exact ih formed.2.2 later

theorem isLinePart_writeOptions {options : List (List Char × OptionValue)} (formed : WellFormedFields options) :
    IsLinePart (writeOptions options) := by
  intro member
  obtain ⟨⟨key, value⟩, present, inside⟩ := List.mem_flatMap.mp member
  obtain ⟨identifier, valueFormed⟩ := formed.of_mem present
  have name : '\n' ∉ key := identifier.isLinePart
  have written : '\n' ∉ value.write := value.isLinePart_write valueFormed
  simp [name, written] at inside

theorem OptionValue.tight_write {value : OptionValue} (formed : value.WellFormed) :
    Text.Tight value.write := by
  have tight {c : Char} (solid : Text.isBlank c = false) : Text.Tight [c] := by simpa [Text.tight_iff] using solid
  cases value with
  | symbol name => exact (tight (c := ':') (by decide)).append (IsIdentifier.isTableName formed).tight []
  | number text =>
    refine .of_solid formed.1 fun c member => ?_
    rcases formed.2 c member with digit | mark
    · exact Text.not_isBlank_of_isDigit digit
    · have solid : ['+', '-', '.', '_', 'e', 'E'].all (!Text.isBlank ·) = true := by decide
      simpa using List.all_eq_true.mp solid c mark
  | flag value => cases value <;> decide
  | nil => decide
  | text content => exact (tight (c := '"') (by decide)).append (tight (c := '"') (by decide)) content
  | list items =>
    exact (tight (c := '[') (by decide)).append (tight (c := ']') (by decide)) (writeItems items)
  | record fields =>
    simpa using (tight (c := '{') (by decide)).append (tight (c := '}') (by decide)) (writeFields fields ++ [' '])
  | function content =>
    simpa using (tight (c := '-') (by decide)).append (tight (c := '}') (by decide))
      (r"> { ".toList ++ quotedText content ++ [' '])

/-- Options end with a value, so trimming a line that ends with them changes nothing. -/
theorem trimEnd_writeOptions {options : List (List Char × OptionValue)} (formed : WellFormedFields options) :
    trimEnd (writeOptions options) = writeOptions options := by
  rcases options.eq_nil_or_concat with rfl | ⟨front, ⟨key, value⟩, rfl⟩
  · rfl
  · rw [List.concat_eq_append] at formed ⊢
    have tight := OptionValue.tight_write (formed.of_mem (show (key, value) ∈ front ++ [(key, value)] by simp)).2
    have whole : writeOptions (front ++ [(key, value)]) =
        writeOptions front ++ (", ".toList ++ key ++ ": ".toList) ++ value.write := by
      simp [writeOptions]
    rw [whole, tight.trimEnd_append]

namespace WrittenTable

def withoutOptions (written : WrittenTable) : WrittenTable := { written with options := [] }

/-- Whether the options of a table make no difference to the catalogue, whatever text follows. -/
def OptionsIgnored (written : WrittenTable) : Prop :=
  ∀ rest : String, (read (textOf written.lines ++ rest)).catalogue =
    (read (textOf written.withoutOptions.lines ++ rest)).catalogue

end WrittenTable

namespace WrittenTable.WellFormed

variable {written : WrittenTable} (wellFormed : written.WellFormed)

include wellFormed

theorem withoutOptions : written.withoutOptions.WellFormed :=
  ⟨wellFormed.name, wellFormed.symbol, wellFormed.columns, wellFormed.bare, wellFormed.indent,
    wellFormed.lastIndent, wellFormed.remark, wellFormed.lastRemark⟩

theorem declares_withoutOptions (unremarked : written.remark = none) :
    Declares written.withoutOptions.lines written.name (some written.declared) :=
  fun _ closed => wellFormed.withoutOptions.foldl_step_lines rfl unremarked closed

variable (formed : WellFormedFields written.options) (unremarked : written.remark = none)

include formed unremarked

/-- Options are ignored if the lines declare the table as they would without them. -/
theorem optionsIgnored_iff_of_declares {outcome : Option (List Column)}
    (comes : Declares written.lines written.name outcome) :
    written.OptionsIgnored ↔ outcome = some written.declared :=
  (alike_tfae (wellFormed.isLinePart_of_mem_lines (isLinePart_writeOptions formed))
    (wellFormed.withoutOptions.isLinePart_of_mem_lines nofun)
    (wellFormed.declares_withoutOptions unremarked) comes).out 1 2

/-- Options before a `do` block are ignored exactly when they hold no opening brace, or when what stands
between their braces happens to read as the columns of the block. -/
theorem optionsIgnored_opened_iff (form : written.block = .opened .word) :
    written.OptionsIgnored ↔ '{' ∉ writeOptions written.options ∨
      ∃ inner, BetweenBraces (writeOptions written.options) inner ∧
        inlineColumns (dropParameter inner) = written.declared := by
  have run := fun reader => @foldl_step_opened _ wellFormed _ form unremarked reader
  have closed : '}' ∉ Closer.word.opening := by decide
  rw [wellFormed.optionsIgnored_iff_of_declares formed unremarked (wellFormed.declares_opened run)]
  rcases braces_cases (writeOptions written.options) with
    absent | ⟨inner, between⟩ | ⟨before, inner, whole, first, last⟩
  · simp [Shape.ofRest_append_do absent, absent]
  · have shape := Shape.ofRest_betweenBraces between closed
    rw [shape, if_neg (by simp), Shape.columns?, Option.some.injEq]
    constructor
    · exact fun same => .inr ⟨inner, between, same⟩
    · rintro (absent | ⟨other, otherBetween, same⟩)
      · obtain ⟨before, after, whole, _⟩ := between
        simp [whole] at absent
      · have otherShape := Shape.ofRest_betweenBraces otherBetween closed
        rw [shape] at otherShape
        rw [Shape.inline.inj otherShape, same]
  · have shape : Shape.ofRest (writeOptions written.options ++ Closer.word.opening) = .opened .brace := by
      have lastBrace : '}' ∉ inner ++ Closer.word.opening := by simp [last, closed]
      rw [whole]
      simpa using Shape.ofRest_openBrace first lastBrace
    rw [shape, if_neg (by simp), Shape.columns?]
    refine ⟨fun none => absurd none (by simp), ?_⟩
    rintro (absent | ⟨other, otherBetween, _⟩)
    · simp [whole] at absent
    · rw [Shape.ofRest_betweenBraces otherBetween closed] at shape
      contradiction

/-- Options without a block are ignored exactly when they hold neither an opening brace nor the word
`do`, or when what stands between braces or between `do` and a final `end` declares no column. -/
theorem optionsIgnored_bare_iff (form : written.block = .bare) :
    written.OptionsIgnored ↔
      ('{' ∉ writeOptions written.options ∧ ¬ HasWord "do".toList (writeOptions written.options)) ∨
      ∃ inner, (BetweenBraces (writeOptions written.options) inner ∨
        BetweenWords (writeOptions written.options) inner) ∧
          inlineColumns (dropParameter inner) = [] := by
  have trimmed := trimEnd_writeOptions formed
  have noColumns : written.declared = [] := by simp [WrittenTable.declared, wellFormed.bare form]
  have run : ∀ reader : Reader, reader.block = none → (written.lines.map trim).foldl Reader.step reader =
      reader.enter written.name (.ofRest (writeOptions written.options)) := by
    intro reader closed
    have header := wellFormed.step_header closed (rfl : beginsApart [] = true)
    rw [List.append_nil, List.append_nil, trimmed] at header
    simp only [WrittenTable.lines, form, unremarked, comment_none, List.append_nil, List.map_singleton,
      List.foldl_cons, List.foldl_nil, header]
  rw [wellFormed.optionsIgnored_iff_of_declares formed unremarked (declares_of_enter run), noColumns,
    Shape.columns?_ofRest_eq_nil_iff trimmed]

end WrittenTable.WellFormed

/-- When options are ignored, with a `do` block and without a block. What they mean plays no part: only
where braces stand in them and, without a block, whether they hold the word `do`. -/
theorem optionsIgnored_iff {written : WrittenTable} (wellFormed : written.WellFormed)
    (formed : WellFormedFields written.options) (unremarked : written.remark = none) :
    (written.block = .opened .word →
      (written.OptionsIgnored ↔ '{' ∉ writeOptions written.options ∨
        ∃ inner, BetweenBraces (writeOptions written.options) inner ∧
          inlineColumns (dropParameter inner) = written.declared)) ∧
    (written.block = .bare →
      (written.OptionsIgnored ↔
        ('{' ∉ writeOptions written.options ∧ ¬ HasWord "do".toList (writeOptions written.options)) ∨
        ∃ inner, (BetweenBraces (writeOptions written.options) inner ∨
          BetweenWords (writeOptions written.options) inner) ∧
            inlineColumns (dropParameter inner) = [])) :=
  ⟨wellFormed.optionsIgnored_opened_iff formed unremarked,
    wellFormed.optionsIgnored_bare_iff formed unremarked⟩

def usersWith (key : String) (value : OptionValue) : WrittenTable :=
  { name := "users", quote := .double, block := .opened .word, indent := [], remark := none,
    options := [(key.toList, value)],
    columns := [⟨⟨"email", "string"⟩, .typed .double, "  ".toList, none, none⟩],
    lastIndent := [], lastRemark := none }

theorem usersWith_wellFormed (key : String) (value : OptionValue) : (usersWith key value).WellFormed := by
  refine ⟨(by decide : IsTableName "users".toList), nofun, ?_, nofun, ⟨nofun, nofun⟩, ⟨nofun, nofun⟩,
    nofun, nofun⟩
  intro column member
  obtain rfl := List.mem_singleton.mp member
  exact ⟨by decide, by decide, fun _ _ => by decide, by decide, nofun, nofun⟩

theorem optionsIgnored_iff_usersWith :
    (usersWith "force" (.symbol "cascade".toList)).OptionsIgnored ∧
      ¬ (usersWith "id" (.record [("type".toList, .symbol "uuid".toList)])).OptionsIgnored := by
  constructor
  · have formed : WellFormedFields [("force".toList, .symbol "cascade".toList)] :=
      ⟨by decide, (by decide : IsIdentifier "cascade".toList), trivial⟩
    exact ((optionsIgnored_iff (usersWith_wellFormed _ _) formed rfl).1 rfl).mpr (.inl (by decide))
  · have formed : WellFormedFields [("id".toList, .record [("type".toList, .symbol "uuid".toList)])] :=
      ⟨by decide, ⟨by decide, (by decide : IsIdentifier "uuid".toList), trivial⟩, trivial⟩
    intro ignored
    rcases ((optionsIgnored_iff (usersWith_wellFormed _ _) formed rfl).1 rfl).mp ignored with
      absent | ⟨inner, between, same⟩
    · revert absent
      decide
    · have shape := Shape.ofRest_betweenBraces between (show '}' ∉ Closer.word.opening by decide)
      have taken : Shape.ofRest (writeOptions [("id".toList, .record [("type".toList, .symbol "uuid".toList)])] ++
          Closer.word.opening) = .inline "type: :uuid".toList := by decide +kernel
      rw [← Shape.inline.inj (taken.symm.trans shape)] at same
      revert same
      decide +kernel

/-- The record of an option is taken for the block, and the columns that follow are lost. -/
theorem record_option_hides_columns :
    let block := " do |t|\n  t.string \"email\"\nend\n"
    (read (r#"create_table "users", id: { type: :uuid }"# ++ block)).catalogue.tables =
        [⟨1, "users", []⟩] ∧
      (read (r#"create_table "users""# ++ block)).catalogue.tables =
        [⟨1, "users", [⟨"email", "string"⟩]⟩] := by
  decide +kernel

end TableScript.Schema
