import TableScript.Proofs.Schema.Shape

/-! How a declaration line that ends in a comment is classified. The comment is searched as the rest of
the line is: a brace in it counts before words, and an `end` at its end ends the line. -/
namespace TableScript.Schema

open Text (trim trimEnd)

def BeginsRemark (text : List Char) : Prop := ∃ rest, text = ' ' :: '#' :: rest

/-- What ends before some other character begins as the whole does. -/
theorem BeginsRemark.of_append {front rest : List Char} {c : Char} (other : c ≠ ' ' ∧ c ≠ '#')
    (begins : BeginsRemark (front ++ c :: rest)) : BeginsRemark front := by
  obtain ⟨text, whole⟩ := begins
  cases front with
  | nil => exact absurd (List.cons.inj whole).1 other.1
  | cons first front =>
    rw [List.cons_append, List.cons.injEq] at whole
    cases front with
    | nil => exact absurd (List.cons.inj whole.2).1 other.2
    | cons second front => exact ⟨front, by rw [whole.1, (List.cons.inj whole.2).1]⟩

namespace BeginsRemark

variable {remark : List Char} (begins : BeginsRemark remark)

include begins

theorem column?_trim : column? (trim remark) = none := by
  obtain ⟨rest, rfl⟩ := begins
  have white : Text.AllBlank [' '] := by decide
  have trimmed : trim (' ' :: '#' :: rest) = '#' :: trimEnd rest := by
    have start := Text.trim_append_left white ('#' :: rest)
    have mark := (show Text.Tight ['#'] by decide).trim_append rest
    exact start.trans mark
  rw [trimmed]
  rfl

theorem trimEnd_append (front : List Char) : trimEnd (front ++ remark) = front ++ trimEnd remark := by
  obtain ⟨rest, rfl⟩ := begins
  have whole := Text.trimEnd_append_cons (by decide : Text.isBlank '#' = false) (front ++ [' ']) rest
  have alone := Text.trimEnd_append_cons (by decide : Text.isBlank '#' = false) [' '] rest
  rw [List.singleton_append] at alone
  rw [alone]
  simpa using whole

theorem trimEnd : BeginsRemark (trimEnd remark) := by
  obtain ⟨rest, rfl⟩ := begins
  exact ⟨Text.trimEnd rest, Text.trimEnd_append_cons (by decide : Text.isBlank '#' = false) [' '] rest⟩

theorem beginsApart : beginsApart remark = true := by
  obtain ⟨rest, rfl⟩ := begins
  rfl

/-- An `end` that closes a line with a comment stands in the comment. -/
theorem beforeEnd_append_iff {front inner : List Char} :
    BeforeEnd (front ++ remark) inner ↔ ∃ last, BeforeEnd remark last ∧ inner = front ++ last := by
  obtain ⟨rest, rfl⟩ := begins
  have apart (last : List Char) (whole : ' ' :: '#' :: rest = last ++ "end".toList) :
      Schema.beginsApart (front ++ last).reverse = Schema.beginsApart last.reverse := by
    obtain ⟨before, c, rfl⟩ : ∃ before c, last = before ++ [c] := by
      rcases last.eq_nil_or_concat with rfl | ⟨before, c, all⟩
      · simp at whole
      · exact ⟨before, c, by rw [all, List.concat_eq_append]⟩
    simp [Schema.beginsApart]
  constructor
  · rintro ⟨whole, starts⟩
    rcases List.append_eq_append_iff.mp whole with ⟨last, rfl, same⟩ | ⟨last, _, same⟩
    · exact ⟨last, ⟨same, by rwa [apart last same] at starts⟩, rfl⟩
    · have mark : '#' ∉ "end".toList := by decide
      exact absurd (by simp [same]) mark
  · rintro ⟨last, ⟨whole, starts⟩, rfl⟩
    exact ⟨by rw [whole, List.append_assoc], by rwa [apart last whole]⟩

end BeginsRemark

namespace Shape

variable {front remark : List Char}

/-- How a line with a `do` block goes on after a comment: as the comment says, if it holds a brace or
ends with `end`. -/
theorem ofRest_word_cases (absent : '{' ∉ front) (begins : BeginsRemark remark)
    (trimmed : trimEnd remark = remark) :
    let shape := ofRest (Closer.word.opening ++ (front ++ remark))
    ('{' ∉ remark ∧ (∀ inner, ¬ BeforeEnd remark inner) ∧ shape = .opened .word) ∨
    (∃ inner, '{' ∉ remark ∧ BeforeEnd remark inner ∧
      shape = .inline (dropParameter (" |t|".toList ++ (front ++ inner)))) ∨
    (∃ inner, BetweenBraces remark inner ∧ shape = .inline (dropParameter inner)) ∨
    ('{' ∈ remark ∧ (∀ inner, ¬ BetweenBraces remark inner) ∧ shape = .opened .brace) := by
  have opening : '{' ∉ Closer.word.opening := by decide
  rcases braces_cases remark with unbraced | ⟨inner, between⟩ | ⟨before, inner, rfl, first, last⟩
  · have noBrace : '{' ∉ Closer.word.opening ++ (front ++ remark) :=
      List.not_mem_append opening (List.not_mem_append absent unbraced)
    have word : afterWord? "do".toList true (Closer.word.opening ++ (front ++ remark)) =
        some (" |t|".toList ++ (front ++ remark)) := rfl
    have kept : trimEnd (" |t|".toList ++ (front ++ remark)) = " |t|".toList ++ (front ++ remark) := by
      rw [← List.append_assoc, begins.trimEnd_append, trimmed]
    cases ended : beforeFinalEnd? (" |t|".toList ++ (front ++ remark)) with
    | none =>
      refine .inl ⟨unbraced, fun inner ends => ?_, ofRest_openWord noBrace word (by rw [kept, ended])⟩
      have whole : BeforeEnd (" |t|".toList ++ front ++ remark) _ :=
        begins.beforeEnd_append_iff.mpr ⟨inner, ends, rfl⟩
      rw [List.append_assoc] at whole
      rw [beforeFinalEnd?_eq_some_iff.mpr whole] at ended
      contradiction
    | some inner =>
      have whole : BeforeEnd (" |t|".toList ++ front ++ remark) inner := by
        rw [List.append_assoc]
        exact beforeFinalEnd?_eq_some_iff.mp ended
      obtain ⟨last, ends, rfl⟩ := begins.beforeEnd_append_iff.mp whole
      refine .inr (.inl ⟨last, unbraced, ends, ?_⟩)
      rw [List.append_assoc] at ended
      exact ofRest_words noBrace word (by rw [kept, ended])
  · refine .inr (.inr (.inl ⟨inner, between, ?_⟩))
    obtain ⟨before, after, rfl, first, last⟩ := between
    have start : '{' ∉ Closer.word.opening ++ (front ++ before) :=
      List.not_mem_append opening (List.not_mem_append absent first)
    simpa using ofRest_braces start last
  · refine .inr (.inr (.inr ⟨by simp, fun other between => ?_, ?_⟩))
    · have shape := ofRest_eq_of_betweenBraces between
      rw [ofRest_openBrace first last] at shape
      contradiction
    · have start : '{' ∉ Closer.word.opening ++ (front ++ before) :=
        List.not_mem_append opening (List.not_mem_append absent first)
      simpa using ofRest_openBrace start last

/-- The last closing brace of a line ends its block, also in a comment. -/
theorem ofRest_brace_remark {inner : List Char} (before : BeforeBrace remark inner) :
    ofRest (Closer.brace.opening ++ (front ++ remark)) =
      .inline (dropParameter (" |t|".toList ++ (front ++ inner))) := by
  obtain ⟨after, rfl, last⟩ := before
  have start : '{' ∉ [' '] := by decide
  have whole : Closer.brace.opening ++ (front ++ (inner ++ '}' :: after)) =
      [' '] ++ '{' :: (" |t|".toList ++ (front ++ inner) ++ '}' :: after) := by
    simp [Closer.opening_brace]
  rw [whole, ofRest_braces start last]

end Shape

section Outcome

variable {front remark : List Char} {columns : List Column} (begins : BeginsRemark remark)
  (trimmed : trimEnd remark = remark)

include begins trimmed

theorem columns?_word_iff (absent : '{' ∉ front) :
    (Shape.ofRest (Closer.word.opening ++ (front ++ remark))).columns? = some columns ↔
      ('{' ∉ remark ∧ ∃ inner, BeforeEnd remark inner ∧ inlineColumns (front ++ inner) = columns) ∨
      ∃ inner, BetweenBraces remark inner ∧ inlineColumns (dropParameter inner) = columns := by
  rcases Shape.ofRest_word_cases absent begins trimmed with
    ⟨unbraced, unended, shape⟩ | ⟨inner, unbraced, ends, shape⟩ | ⟨inner, between, shape⟩ |
    ⟨braced, unclosed, shape⟩ <;> rw [shape, Shape.columns?]
  · refine ⟨fun none => absurd none (by simp), ?_⟩
    rintro (⟨_, inner, ends, _⟩ | ⟨inner, between, _⟩)
    · exact absurd ends (unended inner)
    · exact absurd between.mem unbraced
  · rw [Option.some.injEq, inlineColumns_dropParameter]
    constructor
    · exact fun same => .inl ⟨unbraced, inner, ends, same⟩
    · rintro (⟨_, other, otherEnds, same⟩ | ⟨other, between, _⟩)
      · rwa [ends.unique otherEnds]
      · exact absurd between.mem unbraced
  · rw [Option.some.injEq]
    constructor
    · exact fun same => .inr ⟨inner, between, same⟩
    · rintro (⟨unbraced, _⟩ | ⟨other, otherBetween, same⟩)
      · exact absurd between.mem unbraced
      · rwa [Shape.betweenBraces_unique between otherBetween]
  · refine ⟨fun none => absurd none (by simp), ?_⟩
    rintro (⟨unbraced, _⟩ | ⟨inner, between, _⟩)
    · exact absurd braced unbraced
    · exact absurd between (unclosed inner)

theorem ofRest_word_eq_opened_iff :
    Shape.ofRest (Closer.word.opening ++ remark) = .opened .word ↔
      '{' ∉ remark ∧ ∀ inner, ¬ BeforeEnd remark inner := by
  rcases Shape.ofRest_word_cases (nofun : '{' ∉ []) begins trimmed with
    ⟨unbraced, unended, shape⟩ | ⟨inner, unbraced, ends, shape⟩ | ⟨inner, between, shape⟩ |
    ⟨braced, unclosed, shape⟩ <;> rw [List.nil_append] at shape <;> rw [shape]
  · exact ⟨fun _ => ⟨unbraced, unended⟩, fun _ => rfl⟩
  · exact ⟨nofun, fun opened => absurd ends (opened.2 inner)⟩
  · exact ⟨nofun, fun opened => absurd between.mem opened.1⟩
  · exact ⟨nofun, fun opened => absurd braced opened.1⟩

end Outcome

/-- A last closing brace in a comment decides what a brace block holds. -/
theorem columns?_brace_iff {front remark inner : List Char} {columns : List Column}
    (before : BeforeBrace remark inner) :
    (Shape.ofRest (Closer.brace.opening ++ (front ++ remark))).columns? = some columns ↔
      inlineColumns (front ++ inner) = columns := by
  rw [Shape.ofRest_brace_remark before, Shape.columns?, Option.some.injEq, inlineColumns_dropParameter]

theorem opened_word_iff {remark : List Char} (begins : BeginsRemark remark)
    (trimmed : trimEnd remark = remark) {columns : List Column} :
    (if Shape.ofRest (Closer.word.opening ++ remark) = .opened .word then some columns
        else (Shape.ofRest (Closer.word.opening ++ remark)).columns?) = some columns ↔
      ('{' ∉ remark ∧ ∀ inner, BeforeEnd remark inner → inlineColumns inner = columns) ∨
      ∃ inner, BetweenBraces remark inner ∧ inlineColumns (dropParameter inner) = columns := by
  have line : (Shape.ofRest (Closer.word.opening ++ ([] ++ remark))).columns? = some columns ↔ _ :=
    columns?_word_iff begins trimmed nofun
  simp only [List.nil_append] at line
  split
  · rename_i opened
    obtain ⟨unbraced, unended⟩ := (ofRest_word_eq_opened_iff begins trimmed).mp opened
    exact ⟨fun _ => .inl ⟨unbraced, fun inner ends => absurd ends (unended inner)⟩, fun _ => rfl⟩
  · rename_i inside
    rw [line]
    refine or_congr_left (and_congr_right fun unbraced => ⟨?_, fun all => ?_⟩)
    · rintro ⟨inner, ends, same⟩ other otherEnds
      rwa [← ends.unique otherEnds]
    · rw [ofRest_word_eq_opened_iff begins trimmed, not_and, not_forall] at inside
      obtain ⟨inner, ends⟩ := inside unbraced
      exact ⟨inner, not_not.mp ends, all inner (not_not.mp ends)⟩

theorem opened_brace_iff {remark : List Char} {columns : List Column} :
    (if Shape.ofRest (Closer.brace.opening ++ remark) = .opened .brace then some columns
        else (Shape.ofRest (Closer.brace.opening ++ remark)).columns?) = some columns ↔
      ∀ inner, BeforeBrace remark inner → inlineColumns inner = columns := by
  rcases closes_or_beforeBrace remark with absent | ⟨inner, before⟩
  · have first : '{' ∉ [' '] := by decide
    have last : '}' ∉ " |t|".toList ++ remark := List.not_mem_append (by decide) absent
    have shape : Shape.ofRest (Closer.brace.opening ++ remark) = .opened .brace :=
      Shape.ofRest_openBrace first last
    rw [if_pos shape]
    simp only [true_iff]
    rintro inner ⟨after, rfl, _⟩
    simp at absent
  · have line : (Shape.ofRest (Closer.brace.opening ++ ([] ++ remark))).columns? = some columns ↔ _ :=
      columns?_brace_iff before
    have shape : Shape.ofRest (Closer.brace.opening ++ ([] ++ remark)) = _ :=
      Shape.ofRest_brace_remark before
    rw [List.nil_append] at line shape
    rw [if_neg (by rw [shape]; nofun), line, before.forall_iff, List.nil_append]

end TableScript.Schema
