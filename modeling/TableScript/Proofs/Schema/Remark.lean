import TableScript.Proofs.Schema.Alike
import TableScript.Proofs.Schema.CommentedLine

/-! When comments make no difference. After a column or the end of a block they never do. After a
declaration a comment is searched for braces and words as the rest of the line, so it can stand in for
the block, end it or hide its end. The exact condition is stated on the comment. -/
namespace TableScript.Schema

open Text (trim trimEnd)

namespace WrittenTable

def withoutRemarks (written : WrittenTable) : WrittenTable :=
  { written with
    remark := none
    columns := written.columns.map fun column => { column with remark := none }
    lastRemark := none }

/-- Whether the comments of a table make no difference, whatever text follows. -/
def RemarksIgnored (written : WrittenTable) : Prop :=
  ∀ rest : String,
    read (textOf written.lines ++ rest) = read (textOf written.withoutRemarks.lines ++ rest)

/-- Whether the comment after a declaration leaves its block as it is. Without a block it must not begin
one that has columns. A `do` block on the same line is only seen to end if the comment ends with `end`;
one on the next lines only goes on if the comment does not end so. Braces in a comment count before
words. What the comment then adds to the block must hold no columns. -/
def HarmlessRemark (written : WrittenTable) : Prop :=
  let remark := trimEnd (comment written.remark)
  written.remark = none ∨ match written.block with
    | .bare =>
      ('{' ∉ remark ∧ ¬ HasWord "do".toList remark) ∨
      ∃ inner, (BetweenBraces remark inner ∨ BetweenWords remark inner) ∧
        inlineColumns (dropParameter inner) = []
    | .inline .word =>
      ('{' ∉ remark ∧ ∃ inner, BeforeEnd remark inner ∧ inlineColumns inner = []) ∨
      ∃ inner, BetweenBraces remark inner ∧ inlineColumns (dropParameter inner) = written.declared
    | .inline .brace => ∀ inner, BeforeBrace remark inner → inlineColumns inner = []
    | .opened .word =>
      ('{' ∉ remark ∧ ∀ inner, BeforeEnd remark inner → inlineColumns inner = written.declared) ∨
      ∃ inner, BetweenBraces remark inner ∧ inlineColumns (dropParameter inner) = written.declared
    | .opened .brace => ∀ inner, BeforeBrace remark inner → inlineColumns inner = written.declared

theorem declared_withoutRemarks (written : WrittenTable) :
    written.withoutRemarks.declared = written.declared := by
  simp [withoutRemarks, declared]

namespace WellFormed

variable {written : WrittenTable} (wellFormed : written.WellFormed) (plain : written.options = [])

include wellFormed

theorem withoutRemarks : written.withoutRemarks.WellFormed where
  name := wellFormed.name
  symbol := wellFormed.symbol
  columns := by
    intro column member
    obtain ⟨own, present, rfl⟩ := List.mem_map.mp member
    have formed := wellFormed.columns own present
    exact ⟨formed.name, formed.kind, formed.typed, formed.indent, formed.options, nofun⟩
  bare form := by simp [WrittenTable.withoutRemarks, wellFormed.bare form]
  indent := wellFormed.indent
  lastIndent := wellFormed.lastIndent
  remark := nofun
  lastRemark := nofun

include plain

theorem declares_withoutRemarks :
    Declares written.withoutRemarks.lines written.name (some written.declared) := by
  intro reader closed
  have declared := wellFormed.withoutRemarks.foldl_step_lines plain rfl closed
  rwa [declared_withoutRemarks] at declared

/-- A line with the whole declaration leads where the rest of it does. -/
theorem foldl_step_single {tail : List Char} (apart : beginsApart tail = true)
    (single : written.lines = [written.header ++ tail]) {reader : Reader} (closed : reader.block = none) :
    (written.lines.map trim).foldl Reader.step reader =
      reader.enter written.name (.ofRest (trimEnd tail)) := by
  have header := wellFormed.step_header closed apart
  rw [plain, show writeOptions [] = [] from rfl, List.nil_append] at header
  rw [single]
  exact header

variable {remark : List Char} (remarked : trimEnd (comment written.remark) = remark)
  (begins : BeginsRemark (comment written.remark))

include remarked begins

theorem declares_bare_remark (form : written.block = .bare) :
    Declares written.lines written.name (Shape.ofRest remark).columns? := by
  refine declares_of_enter fun reader closed => ?_
  rw [wellFormed.foldl_step_single plain begins.beginsApart (by simp only [lines, form]) closed, remarked]

theorem declares_inline_remark {closer : Closer} (form : written.block = .inline closer) :
    Declares written.lines written.name
      (Shape.ofRest (closer.opening ++ (written.inlineBody ++ ' ' :: closer.mark ++ remark))).columns? := by
  refine declares_of_enter fun reader closed => ?_
  have single : written.lines = [written.header ++
      (closer.opening ++ (written.inlineBody ++ ' ' :: closer.mark) ++ comment written.remark)] := by
    simp [lines, form]
  have apart : beginsApart (closer.opening ++ (written.inlineBody ++ ' ' :: closer.mark) ++
      comment written.remark) = true := by
    rw [List.append_assoc]
    exact closer.beginsApart_opening _
  rw [wellFormed.foldl_step_single plain apart single closed, begins.trimEnd_append, remarked,
    List.append_assoc]

theorem declares_opened_remark {closer : Closer} (form : written.block = .opened closer) :
    Declares written.lines written.name
      (if Shape.ofRest (closer.opening ++ remark) = .opened closer then some written.declared
        else (Shape.ofRest (closer.opening ++ remark)).columns?) := by
  refine wellFormed.declares_opened fun reader closed => ?_
  rw [wellFormed.foldl_step_header_block form closed, plain, show writeOptions [] = [] from rfl,
    List.nil_append, begins.trimEnd_append, remarked]

end WellFormed

end WrittenTable

namespace WrittenTable.WellFormed

section Line

variable {written : WrittenTable} (wellFormed : written.WellFormed) {remark : List Char}
  (begins : BeginsRemark remark)

include wellFormed begins

/-- The columns of a line with a comment after its block are those of the block and those that the
comment holds. -/
theorem inlineColumns_remark (closer : Closer) :
    inlineColumns (written.inlineBody ++ (' ' :: closer.mark ++ remark)) =
      written.declared ++ inlineColumns remark := by
  have unparted : ∀ text, BeginsRemark text → ';' ∉ text →
      inlineColumns (written.inlineBody ++ (' ' :: closer.mark ++ text)) = written.declared ∧
        inlineColumns text = [] := by
    intro text starts absent
    have trimmed : trim (' ' :: closer.mark ++ text) = closer.mark ++ trimEnd text := by
      have start := Text.trim_append_left (by decide : Text.AllBlank [' ']) (closer.mark ++ text)
      exact start.trans (closer.tight_mark.trim_append text)
    constructor
    · refine wellFormed.inlineColumns_inlineBody_append ?_ rfl ?_
      · have mark : ';' ∉ ' ' :: closer.mark := by cases closer <;> decide
        exact List.not_mem_append mark absent
      · rw [trimmed]
        cases closer <;> rfl
    · rw [inlineColumns_eq, List.splitOn_eq_singleton absent]
      simp [starts.column?_trim]
  cases parted : afterFirst? ';' remark with
  | none =>
    obtain ⟨line, alone⟩ := unparted remark begins (afterFirst?_eq_none_iff.mp parted)
    rw [line, alone, List.append_nil]
  | some rest =>
    obtain ⟨first, rfl, absent⟩ := afterFirst?_eq_some_iff.mp parted
    obtain ⟨line, alone⟩ := unparted first (begins.of_append (by decide)) absent
    have whole : written.inlineBody ++ (' ' :: closer.mark ++ (first ++ ';' :: rest)) =
        written.inlineBody ++ (' ' :: closer.mark ++ first) ++ ';' :: rest := by simp
    rw [whole, inlineColumns_append_cons, inlineColumns_append_cons, line, alone, List.nil_append]

theorem inlineColumns_remark_iff {closer : Closer} :
    inlineColumns (written.inlineBody ++ ' ' :: closer.mark ++ remark) = written.declared ↔
      inlineColumns remark = [] := by
  rw [List.append_assoc, wellFormed.inlineColumns_remark begins closer]
  simp

theorem columns?_inline_word_iff (trimmed : trimEnd remark = remark) :
    (Shape.ofRest (Closer.word.opening ++
        (written.inlineBody ++ ' ' :: Closer.word.mark ++ remark))).columns? = some written.declared ↔
      ('{' ∉ remark ∧ ∃ inner, BeforeEnd remark inner ∧ inlineColumns inner = []) ∨
      ∃ inner, BetweenBraces remark inner ∧ inlineColumns (dropParameter inner) = written.declared := by
  have body : '{' ∉ written.inlineBody := wellFormed.not_mem_inlineBody (by decide)
    (fun column member => (wellFormed.columns column member).not_mem_indent (by decide)) (by decide)
  have absent : '{' ∉ written.inlineBody ++ ' ' :: Closer.word.mark :=
    List.not_mem_append body (by decide)
  have added (inner : List Char) (ends : BeforeEnd remark inner) :
      inlineColumns (written.inlineBody ++ ' ' :: Closer.word.mark ++ inner) = written.declared ↔
        inlineColumns inner = [] := by
    rw [ends.1] at begins
    exact wellFormed.inlineColumns_remark_iff (begins.of_append (by decide))
  rw [columns?_word_iff begins trimmed absent]
  exact or_congr_left (and_congr_right fun _ => exists_congr fun inner => and_congr_right (added inner))

theorem columns?_inline_brace_iff :
    (Shape.ofRest (Closer.brace.opening ++
        (written.inlineBody ++ ' ' :: Closer.brace.mark ++ remark))).columns? = some written.declared ↔
      ∀ inner, BeforeBrace remark inner → inlineColumns inner = [] := by
  rcases closes_or_beforeBrace remark with absent | ⟨inner, before⟩
  · have last : BeforeBrace ('}' :: remark) [] := ⟨remark, rfl, absent⟩
    have whole : written.inlineBody ++ ' ' :: Closer.brace.mark ++ remark =
        written.inlineBody ++ [' '] ++ '}' :: remark := by simp [Closer.mark_brace]
    rw [whole, columns?_brace_iff last, List.append_nil, inlineColumns_append_blank (by decide),
      wellFormed.inlineColumns_inlineBody]
    simp only [true_iff]
    rintro inner ⟨after, rfl, _⟩
    simp at absent
  · rw [columns?_brace_iff before, before.forall_iff]
    obtain ⟨after, rfl, _⟩ := before
    exact wellFormed.inlineColumns_remark_iff (begins.of_append (by decide))

end Line

section Outcome

variable {written : WrittenTable} (wellFormed : written.WellFormed) (plain : written.options = [])

include wellFormed plain

/-- What the lines of a table come to, form by form. -/
theorem exists_outcome : ∃ outcome, Declares written.lines written.name outcome ∧
    (outcome = some written.declared ↔ written.HarmlessRemark) := by
  cases remarked : written.remark with
  | none =>
    refine ⟨some written.declared, fun _ closed => wellFormed.foldl_step_lines plain remarked closed, ?_⟩
    simp [HarmlessRemark, remarked]
  | some text =>
    have begins : BeginsRemark (comment written.remark) := ⟨text, by rw [remarked]; rfl⟩
    have starts := begins.trimEnd
    have trimmed := Text.trimEnd_trimEnd (comment written.remark)
    have harmless : written.HarmlessRemark ↔ _ := or_iff_right (by simp [remarked])
    rw [harmless]
    cases form : written.block with
    | bare =>
      refine ⟨_, wellFormed.declares_bare_remark plain rfl begins form, ?_⟩
      rw [show written.declared = [] by simp [declared, wellFormed.bare form]]
      exact Shape.columns?_ofRest_eq_nil_iff trimmed
    | inline closer =>
      refine ⟨_, wellFormed.declares_inline_remark plain rfl begins form, ?_⟩
      cases closer with
      | word => exact wellFormed.columns?_inline_word_iff starts trimmed
      | brace => exact wellFormed.columns?_inline_brace_iff starts
    | opened closer =>
      refine ⟨_, wellFormed.declares_opened_remark plain rfl begins form, ?_⟩
      cases closer with
      | word => exact opened_word_iff starts trimmed
      | brace => exact opened_brace_iff

theorem remarksIgnored_iff : written.RemarksIgnored ↔ written.HarmlessRemark := by
  obtain ⟨outcome, comes, harmless⟩ := wellFormed.exists_outcome plain
  have alike := alike_tfae (wellFormed.isLinePart_lines plain)
    (wellFormed.withoutRemarks.isLinePart_lines plain) (wellFormed.declares_withoutRemarks plain) comes
  exact (alike.out 0 2).trans harmless

theorem declares_of_harmless (harmless : written.HarmlessRemark) :
    Declares written.lines written.name (some written.declared) := by
  obtain ⟨outcome, comes, decides⟩ := wellFormed.exists_outcome plain
  rwa [decides.mpr harmless] at comes

end Outcome

end WrittenTable.WellFormed

/-- The comments of a table make no difference exactly when the one after its declaration is harmless;
those after columns and at the end of the block never matter. Where all are harmless, a schema is read as
it would be without any comments. -/
theorem remarks_ignored {tables : List WrittenTable}
    (plain : ∀ written ∈ tables, written.WellFormed ∧ written.options = []) :
    (∀ written ∈ tables, (written.RemarksIgnored ↔ written.HarmlessRemark)) ∧
    ((∀ written ∈ tables, written.HarmlessRemark) →
      ∀ rest : String, read (textOf (tables.flatMap WrittenTable.lines) ++ rest) =
        read (textOf ((tables.map WrittenTable.withoutRemarks).flatMap WrittenTable.lines) ++ rest)) := by
  have exactly : ∀ written ∈ tables, (written.RemarksIgnored ↔ written.HarmlessRemark) := by
    intro written member
    obtain ⟨wellFormed, unoptioned⟩ := plain written member
    exact wellFormed.remarksIgnored_iff unoptioned
  refine ⟨exactly, fun harmless rest => ?_⟩
  have remarked : ∀ written ∈ tables, Declares written.lines written.name (some written.declared) := by
    intro written member
    obtain ⟨wellFormed, unoptioned⟩ := plain written member
    exact wellFormed.declares_of_harmless unoptioned (harmless written member)
  have unremarked : ∀ written ∈ tables,
      Declares written.withoutRemarks.lines written.name (some written.declared) := by
    intro written member
    obtain ⟨wellFormed, unoptioned⟩ := plain written member
    exact wellFormed.declares_withoutRemarks unoptioned
  have parts := isLinePart_of_mem_plain plain
  have plainParts : ∀ line ∈ (tables.map WrittenTable.withoutRemarks).flatMap WrittenTable.lines,
      IsLinePart line := by
    refine isLinePart_of_mem_plain fun other member => ?_
    obtain ⟨written, present, rfl⟩ := List.mem_map.mp member
    obtain ⟨wellFormed, unoptioned⟩ := plain written present
    exact ⟨wellFormed.withoutRemarks, unoptioned⟩
  rw [read, read, scan_textOf parts, scan_textOf plainParts, List.flatMap_map,
    foldl_step_groups remarked rfl, foldl_step_groups unremarked rfl]

def noted (name : String) (block : BlockForm) (remark : String) : WrittenTable :=
  { name := name, quote := .double, options := [], block := block, indent := [],
    columns := [⟨⟨"email", "string"⟩, .typed .double, "  ".toList, none, some r" do {".toList⟩],
    remark := some remark.toList, lastIndent := [], lastRemark := some r" }".toList }

theorem noted_wellFormed {name remark : String} (isName : IsTableName name.toList)
    (part : IsLinePart remark.toList) {block : BlockForm} (columned : block ≠ .bare) :
    (noted name block remark).WellFormed := by
  have column : WrittenColumn.WellFormed
      ⟨⟨"email", "string"⟩, .typed .double, "  ".toList, none, some r" do {".toList⟩ :=
    ⟨by decide, by decide, fun _ _ => by decide, by decide, nofun, by decide⟩
  have columns : ∀ other ∈ (noted name block remark).columns, other.WellFormed := by
    intro other member
    rwa [List.mem_singleton.mp member]
  have kept : ∀ text ∈ (noted name block remark).remark, IsLinePart text := by
    rintro text ⟨⟩
    exact part
  have lastKept : ∀ text ∈ (noted name block remark).lastRemark, IsLinePart text := by
    rintro text ⟨⟩
    decide
  exact ⟨isName, nofun, columns, fun form => absurd form columned, ⟨nofun, nofun⟩, ⟨nofun, nofun⟩, kept,
    lastKept⟩

def notedTables : List WrittenTable :=
  [noted "users" (.opened .word) " do end of file", noted "teams" (.inline .brace) " c",
    noted "jobs" (.inline .word) " c"]

theorem notedTables_plain : ∀ written ∈ notedTables, written.WellFormed ∧ written.options = [] := by
  have part : IsLinePart " do end of file".toList := by decide
  have letter : IsLinePart " c".toList := by decide
  simp only [notedTables, List.forall_mem_cons, List.not_mem_nil, false_implies, implies_true, and_true]
  exact ⟨⟨noted_wellFormed (by decide) part nofun, rfl⟩,
    ⟨noted_wellFormed (by decide) letter nofun, rfl⟩, ⟨noted_wellFormed (by decide) letter nofun, rfl⟩⟩

theorem remarks_ignored_notedTables :
    (noted "users" (.opened .word) " do end of file").RemarksIgnored ∧
      (noted "teams" (.inline .brace) " c").RemarksIgnored ∧
      ¬ (noted "jobs" (.inline .word) " c").RemarksIgnored ∧
      ∀ rest : String,
        read (textOf ((notedTables.take 2).flatMap WrittenTable.lines) ++ rest) =
          read (textOf (((notedTables.take 2).map WrittenTable.withoutRemarks).flatMap
            WrittenTable.lines) ++ rest) := by
  have unended {text : List Char} (none : beforeFinalEnd? text = none) (inner : List Char) :
      ¬ BeforeEnd text inner := by
    intro ends
    rw [beforeFinalEnd?_eq_some_iff.mpr ends] at none
    contradiction
  have users : (noted "users" (.opened .word) " do end of file").HarmlessRemark := by
    refine .inr (.inl ⟨by decide, fun inner ends => ?_⟩)
    exact absurd ends (unended (by decide) inner)
  have teams : (noted "teams" (.inline .brace) " c").HarmlessRemark := by
    refine .inr fun inner before => ?_
    obtain ⟨after, whole, _⟩ := before
    have closes : '}' ∈ trimEnd (comment (noted "teams" (.inline .brace) " c").remark) := by
      rw [whole]
      simp
    exact absurd closes (by decide)
  have jobs : ¬ (noted "jobs" (.inline .word) " c").HarmlessRemark := by
    rintro (unremarked | ⟨_, inner, ends, _⟩ | ⟨inner, between, _⟩)
    · nomatch unremarked
    · exact unended (by decide) inner ends
    · exact absurd between.mem (by decide)
  have exactly := (remarks_ignored notedTables_plain).1
  simp only [notedTables, List.forall_mem_cons, List.not_mem_nil, false_implies, implies_true,
    and_true] at exactly
  have front : ∀ written ∈ notedTables.take 2, written.WellFormed ∧ written.options = [] :=
    fun written member => notedTables_plain written (List.mem_of_mem_take member)
  refine ⟨exactly.1.mpr users, exactly.2.1.mpr teams, mt exactly.2.2.mp jobs,
    (remarks_ignored front).2 ?_⟩
  simp only [notedTables, List.take, List.forall_mem_cons, List.not_mem_nil, false_implies, implies_true,
    and_true]
  exact ⟨users, teams⟩

/-- A comment hides the end of a block on the declaration's line: the columns are lost, and the block
swallows the declaration after it. -/
theorem remark_hides_block_end :
    (read "create_table \"a\" do |t| t.string \"x\" end # c\ncreate_table \"b\"\n").catalogue.tables =
        [⟨1, "a", []⟩] ∧
      (read "create_table \"a\" do |t| t.string \"x\" end\ncreate_table \"b\"\n").catalogue.tables =
        [⟨1, "a", [⟨"x", "string"⟩]⟩, ⟨2, "b", []⟩] := by
  decide +kernel

end TableScript.Schema
