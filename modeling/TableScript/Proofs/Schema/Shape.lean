import TableScript.Proofs.Text.Split
import TableScript.Schema.Written
import Mathlib.Data.List.TakeWhile

/-! How the rest of a declaration line is classified: braces come first, wherever they stand, and
words only count without them. Nothing here knows of strings or of nesting. -/
namespace TableScript.Schema

def HasWord (mark text : List Char) : Prop :=
  ∃ before after, text = before ++ mark ++ after ∧ beginsApart before.reverse = true ∧
    beginsApart after = true

/-- What stands in a text between its first opening brace and its last closing brace. -/
def BetweenBraces (text inner : List Char) : Prop :=
  ∃ before after, text = before ++ '{' :: (inner ++ '}' :: after) ∧ '{' ∉ before ∧ '}' ∉ after

/-- What stands in a text without braces between its first word `do` and an `end` that closes it. -/
def BetweenWords (text inner : List Char) : Prop :=
  '{' ∉ text ∧ afterWord? "do".toList true text = some (inner ++ "end".toList) ∧
    beginsApart inner.reverse = true

/-- What stands in a text before an `end` that closes it as a word of its own. -/
def BeforeEnd (text inner : List Char) : Prop :=
  text = inner ++ "end".toList ∧ beginsApart inner.reverse = true

def BeforeBrace (text inner : List Char) : Prop := ∃ after, text = inner ++ '}' :: after ∧ '}' ∉ after

def Shape.columns? : Shape → Option (List Column)
  | .bare => some []
  | .opened _ => none
  | .inline body => some (inlineColumns body)

theorem afterFirst?_eq_none_iff {c : Char} {text : List Char} : afterFirst? c text = none ↔ c ∉ text := by
  unfold afterFirst?
  constructor
  · intro absent member
    split at absent
    · rename_i all
      simpa using List.dropWhile_eq_nil_iff.mp all c member
    · contradiction
  · intro absent
    have all : text.dropWhile (· != c) = [] := List.dropWhile_eq_nil_iff.mpr fun d member => by
      simpa using fun same : d = c => absent (same ▸ member)
    rw [all]

theorem afterFirst?_eq_some_iff {c : Char} {text rest : List Char} :
    afterFirst? c text = some rest ↔ ∃ before, text = before ++ c :: rest ∧ c ∉ before := by
  unfold afterFirst?
  constructor
  · intro found
    split at found
    · contradiction
    · rename_i d after stops
      obtain rfl := Option.some.inj found
      have same : d = c := by
        have head := List.head?_dropWhile_not (· != c) text
        rw [stops] at head
        simpa using head
      refine ⟨text.takeWhile (· != c), ?_, fun member => ?_⟩
      · rw [← same, ← stops, same, List.takeWhile_append_dropWhile]
      · simpa using List.mem_takeWhile_imp member
  · rintro ⟨before, rfl, absent⟩
    have passed : ∀ d ∈ before, (d != c) = true := fun d member => by
      simpa using fun same : d = c => absent (same ▸ member)
    rw [List.dropWhile_append_of_pos passed]
    simp

/-- Before the last is after the first, seen from the end. -/
theorem beforeLast?_eq (c : Char) (text : List Char) :
    beforeLast? c text = (afterFirst? c text.reverse).map List.reverse := by
  unfold beforeLast? afterFirst?
  cases text.reverse.dropWhile (· != c) <;> rfl

theorem beforeLast?_eq_none_iff {c : Char} {text : List Char} :
    beforeLast? c text = none ↔ c ∉ text := by
  rw [beforeLast?_eq, Option.map_eq_none_iff, afterFirst?_eq_none_iff, List.mem_reverse]

theorem beforeLast?_eq_some_iff {c : Char} {text before : List Char} :
    beforeLast? c text = some before ↔ ∃ after, text = before ++ c :: after ∧ c ∉ after := by
  rw [beforeLast?_eq, Option.map_eq_some_iff]
  constructor
  · rintro ⟨reversed, found, rfl⟩
    obtain ⟨after, whole, absent⟩ := afterFirst?_eq_some_iff.mp found
    refine ⟨after.reverse, ?_, by simpa using absent⟩
    rw [← text.reverse_reverse, whole]
    simp
  · rintro ⟨after, rfl, absent⟩
    exact ⟨before.reverse, afterFirst?_eq_some_iff.mpr ⟨after.reverse, by simp, by simpa using absent⟩,
      List.reverse_reverse before⟩

theorem eq_append_of_afterWord? {mark : List Char} {apart : Bool} {text rest : List Char}
    (found : afterWord? mark apart text = some rest) : ∃ before, text = before ++ mark ++ rest := by
  induction text generalizing apart with
  | nil => contradiction
  | cons c text ih =>
    have later (next : afterWord? mark (!isIdentifierChar c) text = some rest) :
        ∃ before, c :: text = before ++ mark ++ rest := by
      obtain ⟨before, whole⟩ := ih next
      exact ⟨c :: before, by simp [whole]⟩
    simp only [afterWord?] at found
    split at found
    · rename_i after begins
      split at found
      · obtain rfl := Option.some.inj found
        exact ⟨[], after?_eq_some_iff.mp begins⟩
      · exact later found
    · exact later found

/-- A word that is found wherever the search begins is found behind any text. -/
theorem isSome_afterWord?_append {mark last : List Char}
    (found : ∀ apart, (afterWord? mark apart last).isSome = true) (apart : Bool) (text : List Char) :
    (afterWord? mark apart (text ++ last)).isSome = true := by
  induction text generalizing apart with
  | nil => exact found apart
  | cons c text ih =>
    simp only [List.cons_append, afterWord?]
    split
    · split
      · rfl
      · exact ih _
    · exact ih _

private def edge : Bool → List Char → Bool
  | apart, [] => apart
  | _, c :: before => edge (!isIdentifierChar c) before

private theorem edge_true (before : List Char) : edge true before = beginsApart before.reverse := by
  have last (apart : Bool) (front : List Char) (c : Char) : edge apart (front ++ [c]) = !isIdentifierChar c := by
    induction front generalizing apart with
    | nil => rfl
    | cons d front ih => exact ih _
  rcases before.eq_nil_or_concat with rfl | ⟨front, c, rfl⟩
  · rfl
  · rw [List.concat_eq_append, last, List.reverse_append]
    rfl

private theorem isSome_afterWord?_iff {mark : List Char} (marked : mark ≠ []) {apart : Bool}
    {text : List Char} :
    (afterWord? mark apart text).isSome = true ↔
      ∃ before after, text = before ++ mark ++ after ∧ edge apart before = true ∧ beginsApart after = true := by
  induction text generalizing apart with
  | nil => simp [afterWord?, marked]
  | cons c text ih =>
    constructor
    · intro found
      have later (next : (afterWord? mark (!isIdentifierChar c) text).isSome = true) :
          ∃ before after, c :: text = before ++ mark ++ after ∧ edge apart before = true ∧
            beginsApart after = true := by
        obtain ⟨before, after, whole, starts, ends⟩ := ih.mp next
        exact ⟨c :: before, after, by simp [whole], starts, ends⟩
      simp only [afterWord?] at found
      split at found
      · rename_i rest begins
        split at found
        · rename_i alone
          rw [Bool.and_eq_true] at alone
          exact ⟨[], rest, after?_eq_some_iff.mp begins, alone.1, alone.2⟩
        · exact later found
      · exact later found
    · rintro ⟨before, after, whole, starts, ends⟩
      cases before with
      | nil =>
        have begins : after? mark (c :: text) = some after := after?_eq_some_iff.mpr whole
        have alone : (apart && beginsApart after) = true := Bool.and_eq_true _ _ |>.mpr ⟨starts, ends⟩
        simp only [afterWord?, begins, alone, if_true, Option.isSome_some]
      | cons d before =>
        rw [List.cons_append, List.cons_append, List.cons.injEq] at whole
        obtain ⟨rfl, rest⟩ := whole
        have later := ih.mpr ⟨before, after, rest, starts, ends⟩
        simp only [afterWord?]
        split
        · split
          · rfl
          · exact later
        · exact later

theorem afterWord?_eq_none_iff {mark text : List Char} (marked : mark ≠ []) :
    afterWord? mark true text = none ↔ ¬ HasWord mark text := by
  rw [← Option.not_isSome_iff_eq_none, isSome_afterWord?_iff marked]
  simp only [edge_true, HasWord]

theorem beforeFinalEnd?_eq_some_iff {text inner : List Char} :
    beforeFinalEnd? text = some inner ↔
      text = inner ++ "end".toList ∧ beginsApart inner.reverse = true := by
  unfold beforeFinalEnd?
  constructor
  · intro found
    split at found
    · rename_i before ends
      split at found
      · rename_i apart
        obtain rfl := Option.some.inj found
        refine ⟨?_, by simpa using apart⟩
        rw [← text.reverse_reverse, after?_eq_some_iff.mp ends, List.reverse_append]
        rfl
      · contradiction
    · contradiction
  · rintro ⟨rfl, apart⟩
    have ends : after? "dne".toList (inner ++ "end".toList).reverse = some inner.reverse :=
      after?_eq_some_iff.mpr (by simp)
    rw [ends]
    simp [apart]

/-- A text has no braces, or one is closed later on, or one is opened and none is closed. -/
theorem braces_cases (text : List Char) :
    '{' ∉ text ∨ (∃ inner, BetweenBraces text inner) ∨
      ∃ before inner, text = before ++ '{' :: inner ∧ '{' ∉ before ∧ '}' ∉ inner := by
  cases opens : afterFirst? '{' text with
  | none => exact .inl (afterFirst?_eq_none_iff.mp opens)
  | some body =>
    obtain ⟨before, rfl, first⟩ := afterFirst?_eq_some_iff.mp opens
    cases closes : beforeLast? '}' body with
    | none => exact .inr (.inr ⟨before, body, rfl, first, beforeLast?_eq_none_iff.mp closes⟩)
    | some inner =>
      obtain ⟨after, rfl, last⟩ := beforeLast?_eq_some_iff.mp closes
      exact .inr (.inl ⟨inner, before, after, rfl, first, last⟩)

theorem BetweenBraces.mem {text inner : List Char} (between : BetweenBraces text inner) : '{' ∈ text := by
  obtain ⟨before, after, rfl, _⟩ := between
  simp

theorem BeforeEnd.unique {text inner other : List Char} (ends : BeforeEnd text inner)
    (otherEnds : BeforeEnd text other) : inner = other :=
  List.append_cancel_right (ends.1.symm.trans otherEnds.1)

theorem BeforeBrace.unique {text inner other : List Char} (ends : BeforeBrace text inner)
    (otherEnds : BeforeBrace text other) : inner = other :=
  Option.some.inj ((beforeLast?_eq_some_iff.mpr ends).symm.trans (beforeLast?_eq_some_iff.mpr otherEnds))

/-- What a text holds before its last closing brace, if it has one. -/
theorem closes_or_beforeBrace (text : List Char) : '}' ∉ text ∨ ∃ inner, BeforeBrace text inner := by
  cases closes : beforeLast? '}' text with
  | none => exact .inl (beforeLast?_eq_none_iff.mp closes)
  | some inner => exact .inr ⟨inner, beforeLast?_eq_some_iff.mp closes⟩

theorem BeforeBrace.forall_iff {text inner : List Char} (before : BeforeBrace text inner)
    {p : List Char → Prop} : (∀ other, BeforeBrace text other → p other) ↔ p inner := by
  constructor
  · exact fun all => all inner before
  · intro same other otherBefore
    rwa [← before.unique otherBefore]

namespace Shape

theorem ofRest_braces {before inner after : List Char} (first : '{' ∉ before) (last : '}' ∉ after) :
    ofRest (before ++ '{' :: (inner ++ '}' :: after)) = .inline (dropParameter inner) := by
  have opens : afterFirst? '{' (before ++ '{' :: (inner ++ '}' :: after)) = some (inner ++ '}' :: after) :=
    afterFirst?_eq_some_iff.mpr ⟨before, rfl, first⟩
  have closes : beforeLast? '}' (inner ++ '}' :: after) = some inner :=
    beforeLast?_eq_some_iff.mpr ⟨after, rfl, last⟩
  simp only [ofRest, opens, closes]

/-- What stands between braces is taken for the block, unless a brace is closed after it. -/
theorem ofRest_betweenBraces {text inner : List Char} (between : BetweenBraces text inner)
    {tail : List Char} (closed : '}' ∉ tail) : ofRest (text ++ tail) = .inline (dropParameter inner) := by
  obtain ⟨before, after, rfl, first, last⟩ := between
  have lastBrace : '}' ∉ after ++ tail := by simp [last, closed]
  simpa using ofRest_braces first lastBrace

theorem ofRest_eq_of_betweenBraces {text inner : List Char} (between : BetweenBraces text inner) :
    ofRest text = .inline (dropParameter inner) := by
  simpa using ofRest_betweenBraces between (nofun : '}' ∉ [])

theorem betweenBraces_unique {text inner other : List Char} (between : BetweenBraces text inner)
    (otherBetween : BetweenBraces text other) : inner = other := by
  have found {inner : List Char} (between : BetweenBraces text inner) :
      (afterFirst? '{' text).bind (beforeLast? '}') = some inner := by
    obtain ⟨before, after, whole, first, last⟩ := between
    rw [afterFirst?_eq_some_iff.mpr ⟨before, whole, first⟩]
    exact beforeLast?_eq_some_iff.mpr ⟨after, rfl, last⟩
  exact Option.some.inj ((found between).symm.trans (found otherBetween))

theorem ofRest_openBrace {before inner : List Char} (first : '{' ∉ before) (last : '}' ∉ inner) :
    ofRest (before ++ '{' :: inner) = .opened .brace := by
  have opens : afterFirst? '{' (before ++ '{' :: inner) = some inner :=
    afterFirst?_eq_some_iff.mpr ⟨before, rfl, first⟩
  simp only [ofRest, opens, beforeLast?_eq_none_iff.mpr last]

theorem ofRest_noWord {rest : List Char} (absent : '{' ∉ rest)
    (unworded : afterWord? "do".toList true rest = none) : ofRest rest = .bare := by
  simp only [ofRest, afterFirst?_eq_none_iff.mpr absent, unworded]

theorem ofRest_openWord {rest body : List Char} (absent : '{' ∉ rest)
    (word : afterWord? "do".toList true rest = some body)
    (unended : beforeFinalEnd? (Text.trimEnd body) = none) : ofRest rest = .opened .word := by
  simp only [ofRest, afterFirst?_eq_none_iff.mpr absent, word, unended]

theorem ofRest_words {rest body inner : List Char} (absent : '{' ∉ rest)
    (word : afterWord? "do".toList true rest = some body)
    (ended : beforeFinalEnd? (Text.trimEnd body) = some inner) :
    ofRest rest = .inline (dropParameter inner) := by
  simp only [ofRest, afterFirst?_eq_none_iff.mpr absent, word, ended]

theorem ofRest_eq_bare_iff {rest : List Char} :
    ofRest rest = .bare ↔ '{' ∉ rest ∧ ¬ HasWord "do".toList rest := by
  rw [← afterWord?_eq_none_iff (by decide)]
  rcases braces_cases rest with absent | ⟨inner, between⟩ | ⟨before, inner, rfl, first, last⟩
  · cases word : afterWord? "do".toList true rest with
    | none => simp [ofRest_noWord absent word, absent]
    | some body =>
      cases ended : beforeFinalEnd? (Text.trimEnd body) with
      | none => simp [ofRest_openWord absent word ended]
      | some inner => simp [ofRest_words absent word ended]
  · have braces := (ofRest_eq_of_betweenBraces between)
    obtain ⟨before, after, rfl, _⟩ := between
    simp [braces]
  · simp [ofRest_openBrace first last]

theorem ofRest_eq_inline_iff {rest body : List Char} (trimmed : Text.trimEnd rest = rest) :
    ofRest rest = .inline body ↔
      ∃ inner, (BetweenBraces rest inner ∨ BetweenWords rest inner) ∧ dropParameter inner = body := by
  constructor
  · intro found
    rcases braces_cases rest with absent | ⟨inner, between⟩ | ⟨before, inner, rfl, first, last⟩
    · cases word : afterWord? "do".toList true rest with
      | none =>
        rw [ofRest_noWord absent word] at found
        contradiction
      | some after =>
        have kept : Text.trimEnd after = after := by
          obtain ⟨before, whole⟩ := eq_append_of_afterWord? word
          rw [whole] at trimmed
          exact Text.trimEnd_of_append trimmed
        cases ended : beforeFinalEnd? (Text.trimEnd after) with
        | none =>
          rw [ofRest_openWord absent word ended] at found
          contradiction
        | some inner =>
          rw [ofRest_words absent word ended] at found
          rw [kept] at ended
          obtain ⟨rfl, apart⟩ := beforeFinalEnd?_eq_some_iff.mp ended
          exact ⟨inner, .inr ⟨absent, word, apart⟩, Shape.inline.inj found⟩
    · have braces := ofRest_eq_of_betweenBraces between
      rw [found] at braces
      exact ⟨inner, .inl between, (Shape.inline.inj braces).symm⟩
    · rw [ofRest_openBrace first last] at found
      contradiction
  · rintro ⟨inner, between | ⟨absent, word, apart⟩, rfl⟩
    · exact ofRest_eq_of_betweenBraces between
    · have kept : Text.trimEnd (inner ++ "end".toList) = inner ++ "end".toList :=
        (show Text.Tight "end".toList by decide).trimEnd_append inner
      have ended := beforeFinalEnd?_eq_some_iff.mpr ⟨rfl, apart⟩
      rw [← kept] at ended
      exact ofRest_words absent word ended

/-- When the rest of a line gives its table no columns and leaves no block open. -/
theorem columns?_ofRest_eq_nil_iff {rest : List Char} (trimmed : Text.trimEnd rest = rest) :
    (ofRest rest).columns? = some [] ↔
      ('{' ∉ rest ∧ ¬ HasWord "do".toList rest) ∨
      ∃ inner, (BetweenBraces rest inner ∨ BetweenWords rest inner) ∧
        inlineColumns (dropParameter inner) = [] := by
  rw [← ofRest_eq_bare_iff]
  constructor
  · intro declares
    cases shape : ofRest rest with
    | bare => exact .inl rfl
    | opened closer =>
      rw [shape] at declares
      contradiction
    | inline body =>
      obtain ⟨inner, between, rfl⟩ := (ofRest_eq_inline_iff trimmed).mp shape
      rw [shape] at declares
      exact .inr ⟨inner, between, Option.some.inj declares⟩
  · rintro (bare | ⟨inner, between, same⟩)
    · rw [bare]
      rfl
    · rw [(ofRest_eq_inline_iff trimmed).mpr ⟨inner, between, rfl⟩, columns?, same]

theorem ofRest_opening (closer : Closer) : ofRest closer.opening = .opened closer := by
  cases closer <;> decide

/-- Options without braces do not hide the block that follows them: if they hold the word `do`, the
line still does not end with `end`. -/
theorem ofRest_append_do {options : List Char} (absent : '{' ∉ options) :
    ofRest (options ++ Closer.word.opening) = .opened .word := by
  have noBrace : '{' ∉ options ++ Closer.word.opening := by
    simp only [List.mem_append, absent, false_or]
    decide
  have found : (afterWord? "do".toList true (options ++ Closer.word.opening)).isSome = true :=
    isSome_afterWord?_append (fun apart => by cases apart <;> decide) true options
  obtain ⟨body, word⟩ := Option.isSome_iff_exists.mp found
  obtain ⟨before, whole⟩ := eq_append_of_afterWord? word
  -- Whichever `do` was found, the line still ends with the block parameter.
  have last : (before ++ "do".toList ++ body).getLast? = some '|' := by
    rw [← whole]
    simp [Closer.opening_word]
  have tail : body.getLast? = some '|' := by
    rw [List.getLast?_append] at last
    cases ends : body.getLast? with
    | none => simp [ends] at last
    | some c => simpa [ends] using last
  obtain ⟨front, rfl⟩ := List.getLast?_eq_some_iff.mp tail
  have unended : beforeFinalEnd? (front ++ ['|']) = none := by
    simp [beforeFinalEnd?, after?]
  have trimmed : Text.trimEnd (front ++ ['|']) = front ++ ['|'] :=
    Text.trimEnd_append_cons (by decide) front []
  rw [← trimmed] at unended
  exact ofRest_openWord noBrace word unended

theorem ofRest_inline (closer : Closer) {body : List Char} (absent : '{' ∉ body) :
    ofRest (closer.opening ++ body ++ ' ' :: closer.mark) =
      .inline (dropParameter (" |t|".toList ++ body ++ [' '])) := by
  cases closer with
  | brace =>
    have whole : Closer.brace.opening ++ body ++ ' ' :: Closer.brace.mark =
        [' '] ++ '{' :: (" |t|".toList ++ body ++ [' '] ++ '}' :: []) := by
      simp [Closer.opening_brace, Closer.mark_brace]
    rw [whole, ofRest_braces (by decide) (by simp)]
  | word =>
    have noBrace : '{' ∉ Closer.word.opening ++ body ++ ' ' :: Closer.word.mark := by
      simp [Closer.opening_word, Closer.mark_word, absent]
    have word : afterWord? "do".toList true (Closer.word.opening ++ body ++ ' ' :: Closer.word.mark) =
        some (" |t|".toList ++ body ++ ' ' :: Closer.word.mark) := rfl
    have trimmed : Text.trimEnd (" |t|".toList ++ body ++ ' ' :: Closer.word.mark) =
        " |t|".toList ++ body ++ ' ' :: Closer.word.mark := by
      have ends := Text.trimEnd_append_cons (c := 'd') (by decide) (" |t|".toList ++ body ++ " en".toList) []
      simpa [Closer.mark_word] using ends
    have ended : beforeFinalEnd? (" |t|".toList ++ body ++ ' ' :: Closer.word.mark) =
        some (" |t|".toList ++ body ++ [' ']) :=
      beforeFinalEnd?_eq_some_iff.mpr ⟨by simp [Closer.mark_word], by rw [List.reverse_append]; rfl⟩
    rw [← trimmed] at ended
    exact ofRest_words noBrace word ended

end Shape

theorem inlineColumns_eq (body : List Char) :
    inlineColumns body = ((body.splitOn ';').map Text.trim).filterMap column? := by
  rw [List.filterMap_map]
  rfl

theorem inlineColumns_trim (body : List Char) : inlineColumns (Text.trim body) = inlineColumns body := by
  rw [inlineColumns_eq, inlineColumns_eq, Text.map_trim_splitOn_trim (by decide)]

theorem inlineColumns_append_blank {blank : List Char} (white : Text.AllBlank blank) (body : List Char) :
    inlineColumns (body ++ blank) = inlineColumns body := by
  rw [← inlineColumns_trim, Text.trim_append_right white, inlineColumns_trim]

theorem inlineColumns_append_cons (first second : List Char) :
    inlineColumns (first ++ ';' :: second) = inlineColumns first ++ inlineColumns second := by
  simp only [inlineColumns_eq, List.splitOn_append_cons_self, List.map_append, List.filterMap_append]

theorem inlineColumns_dropParameter (body : List Char) :
    inlineColumns (dropParameter (" |t|".toList ++ body)) = inlineColumns body := by
  have tight : Text.Tight "|t|".toList := by decide
  have trimmed : Text.trim (" |t|".toList ++ body) = '|' :: ("t|".toList ++ Text.trimEnd body) := by
    have white : Text.AllBlank [' '] := by decide
    have start := Text.trim_append_left white ("|t|".toList ++ body)
    rw [tight.trim_append] at start
    exact start
  have parameter : afterFirst? '|' ("t|".toList ++ Text.trimEnd body) = some (Text.trimEnd body) :=
    afterFirst?_eq_some_iff.mpr ⟨['t'], rfl, by decide⟩
  obtain ⟨blank, white, whole⟩ := Text.exists_eq_trimEnd_append body
  simp only [dropParameter, trimmed, parameter]
  rw [inlineColumns_trim]
  conv_rhs => rw [whole]
  exact (inlineColumns_append_blank white _).symm

end TableScript.Schema
