import TableScript.Proofs.Text.Run
import TableScript.Selection.Grammar
import TableScript.Selection.Resolution

/-! Expressions are read from exactly the texts of the grammar. Each part of the reader takes what the
grammar has in its place, and the gap that may follow it is left to the part that comes next. -/
namespace TableScript.Selection

open Text (cappedValue)

theorem dropGap_eq_iff {text rest : List Char} :
    dropGap text = rest ↔
      ∃ gap, IsGap gap ∧ text = gap ++ rest ∧ ∀ c ∈ rest.head?, isGapChar c = false :=
  Text.dropWhile_eq_iff

theorem isGap_nil : IsGap [] := by simp [IsGap]

theorem isEmpty_dropGap_iff {text : List Char} : (dropGap text).isEmpty = true ↔ IsGap text := by
  rw [List.isEmpty_iff, dropGap, List.dropWhile_eq_nil_iff]
  rfl

theorem IsGap.dropGap_append {gap : List Char} (all : IsGap gap) {c : Char}
    (solid : isGapChar c = false) (rest : List Char) : dropGap (gap ++ c :: rest) = c :: rest :=
  dropGap_eq_iff.mpr ⟨gap, all, rfl, by simpa using solid⟩

theorem not_isGapChar_of_isDigit {c : Char} (digit : c.isDigit = true) : isGapChar c = false := by
  by_contra gap
  simp only [Bool.not_eq_false, isGapChar, Bool.or_eq_true, beq_iff_eq] at gap
  rcases gap with ((rfl | rfl) | rfl) | rfl <;> exact absurd digit (by decide)

theorem IsGap.head?_append {gap rest : List Char} (all : IsGap gap)
    (ends : ∀ c ∈ rest.head?, c.isDigit = false) : ∀ c ∈ (gap ++ rest).head?, c.isDigit = false := by
  cases gap with
  | nil => exact ends
  | cons c gap =>
    intro d first
    obtain rfl := Option.some.inj first
    have here := all c List.mem_cons_self
    by_contra digit
    rw [Bool.not_eq_false] at digit
    rw [not_isGapChar_of_isDigit digit] at here
    contradiction

theorem number?_eq_some_iff {text rest : List Char} {value : Nat} :
    number? text = some (value, rest) ↔
      ∃ digits, IsNumeral digits ∧ value = cappedValue digits ∧ text = digits ++ rest ∧
        ∀ c ∈ rest.head?, c.isDigit = false := by
  unfold number?
  constructor
  · intro read
    split at read
    · contradiction
    · rename_i nonempty
      simp only [Option.some.injEq, Prod.mk.injEq] at read
      obtain ⟨rfl, left⟩ := read
      obtain ⟨whole, digits, ends⟩ := Text.takeWhile_dropWhile_iff.mp ⟨rfl, left⟩
      exact ⟨_, ⟨nonempty, digits⟩, rfl, whole, ends⟩
  · rintro ⟨digits, ⟨nonempty, all⟩, rfl, whole, ends⟩
    obtain ⟨taken, left⟩ := Text.takeWhile_dropWhile_iff.mpr ⟨whole, all, ends⟩
    rw [taken, left, if_neg nonempty]

theorem IsNumeral.exists_cons {digits : List Char} (numeral : IsNumeral digits) :
    ∃ c rest, digits = c :: rest ∧ c.isDigit = true := by
  obtain ⟨c, rest, rfl⟩ := List.exists_cons_of_ne_nil numeral.1
  exact ⟨c, rest, rfl, numeral.2 c List.mem_cons_self⟩

/-- A number after a gap. -/
theorem number?_dropGap_eq_some_iff {text rest : List Char} {value : Nat} :
    number? (dropGap text) = some (value, rest) ↔
      ∃ gap digits, IsGap gap ∧ IsNumeral digits ∧ value = cappedValue digits ∧
        text = gap ++ digits ++ rest ∧ ∀ c ∈ rest.head?, c.isDigit = false := by
  constructor
  · intro read
    obtain ⟨digits, numeral, value, whole, ends⟩ := number?_eq_some_iff.mp read
    obtain ⟨gap, all, rfl, _⟩ := dropGap_eq_iff.mp whole
    exact ⟨gap, digits, all, numeral, value, by simp, ends⟩
  · rintro ⟨gap, digits, all, numeral, value, rfl, ends⟩
    refine number?_eq_some_iff.mpr ⟨digits, numeral, value, ?_, ends⟩
    obtain ⟨c, tail, rfl, digit⟩ := numeral.exists_cons
    rw [List.append_assoc]
    exact all.dropGap_append (not_isGapChar_of_isDigit digit) _

/-- Between gaps a number is read whole, up to the mark that follows. -/
theorem IsNumeral.number?_dropGap {digits before after : List Char} (numeral : IsNumeral digits)
    (gapBefore : IsGap before) (gapAfter : IsGap after) {mark : Char} (stops : mark.isDigit = false)
    (rest : List Char) :
    number? (dropGap (before ++ digits ++ (after ++ mark :: rest))) =
      some (cappedValue digits, after ++ mark :: rest) :=
  number?_dropGap_eq_some_iff.mpr
    ⟨before, digits, gapBefore, numeral, rfl, rfl, gapAfter.head?_append (by simpa using stops)⟩

theorem ends_iff {bracket : Char} (solid : isGapChar bracket = false) {text : List Char} :
    ends bracket text = true ↔
      ∃ before after, IsGap before ∧ IsGap after ∧ text = before ++ bracket :: after := by
  unfold ends
  constructor
  · intro read
    split at read
    · rename_i c rest left
      rw [Bool.and_eq_true, beq_iff_eq, isEmpty_dropGap_iff] at read
      obtain ⟨rfl, after⟩ := read
      obtain ⟨before, gap, whole, _⟩ := dropGap_eq_iff.mp left
      exact ⟨before, rest, gap, after, whole⟩
    · contradiction
  · rintro ⟨before, after, gap, last, rfl⟩
    rw [gap.dropGap_append solid]
    simpa using isEmpty_dropGap_iff.mpr last

/-- A range as it is read: after its opening bracket, a text of the grammar and a gap. -/
theorem range?_sound {text : List Char} {selection : Selection} (read : range? text = some selection) :
    ∃ form after, FormWritten cappedValue selection form ∧ IsGap after ∧ '(' :: text = form ++ after := by
  simp only [range?, Option.bind_eq_bind, Option.bind_eq_some_iff] at read
  obtain ⟨⟨first, rest⟩, firstRead, read⟩ := read
  split at read
  · rename_i tail dots
    obtain ⟨⟨last, rest'⟩, lastRead, read⟩ := Option.bind_eq_some_iff.mp read
    split at read
    · rename_i closes
      obtain rfl := Option.some.inj read
      obtain ⟨a, firstDigits, gapA, firstNumeral, rfl, rfl, _⟩ := number?_dropGap_eq_some_iff.mp firstRead
      obtain ⟨b, gapB, rfl, _⟩ := dropGap_eq_iff.mp dots
      obtain ⟨c, lastDigits, gapC, lastNumeral, rfl, rfl, _⟩ := number?_dropGap_eq_some_iff.mp lastRead
      obtain ⟨d, after, gapD, gapAfter, rfl⟩ := (ends_iff (by decide)).mp closes
      exact ⟨_, after, .range gapA firstNumeral gapB gapC lastNumeral gapD, gapAfter, by simp⟩
    · contradiction
  · contradiction

theorem range?_complete {a first b c last d after : List Char} (gapA : IsGap a)
    (firstNumeral : IsNumeral first) (gapB : IsGap b) (gapC : IsGap c) (lastNumeral : IsNumeral last)
    (gapD : IsGap d) (gapAfter : IsGap after) :
    range? (a ++ first ++ b ++ '.' :: '.' :: (c ++ last ++ d ++ ')' :: after)) =
      some (.range (cappedValue first) (cappedValue last)) := by
  have firstRead :
      number? (dropGap (a ++ first ++ (b ++ '.' :: '.' :: (c ++ last ++ (d ++ ')' :: after))))) =
        some (cappedValue first, b ++ '.' :: '.' :: (c ++ last ++ (d ++ ')' :: after))) :=
    firstNumeral.number?_dropGap gapA gapB (by decide) _
  have lastRead : number? (dropGap (c ++ last ++ (d ++ ')' :: after))) =
      some (cappedValue last, d ++ ')' :: after) :=
    lastNumeral.number?_dropGap gapC gapD (by decide) after
  have closes : ends ')' (d ++ ')' :: after) = true :=
    (ends_iff (by decide)).mpr ⟨d, after, gapD, gapAfter, rfl⟩
  have dots : dropGap (b ++ '.' :: '.' :: (c ++ last ++ (d ++ ')' :: after))) =
      '.' :: '.' :: (c ++ last ++ (d ++ ')' :: after)) := gapB.dropGap_append (by decide) _
  simp only [List.append_assoc] at firstRead lastRead dots ⊢
  simp only [range?, firstRead, Option.bind_eq_bind, Option.bind_some, dots, lastRead, closes, if_true]

theorem items?_of_number? {text rest : List Char} {id : Nat} (read : number? text = some (id, rest)) :
    items? text = if ends ']' rest then some [id] else match dropGap rest with
      | ',' :: tail => (items? (dropGap tail)).map (id :: ·)
      | _ => none := by
  rw [items?]
  split
  · rename_i absent
    rw [read] at absent
    contradiction
  · rename_i other left found
    rw [read] at found
    simp only [Option.some.injEq, Prod.mk.injEq] at found
    obtain ⟨rfl, rfl⟩ := found
    split
    · rfl
    · split
      · rename_i tail comma
        simp only [comma]
      · rename_i absent
        split
        · rename_i tail comma
          exact absurd comma (absent tail)
        · rfl

theorem ItemsWritten.gap_append {value : List Char → Nat} {ids : List Nat} {items gap : List Char}
    (written : ItemsWritten value ids items) (all : IsGap gap) : ItemsWritten value ids (gap ++ items) := by
  have wider {before : List Char} (gapBefore : IsGap before) : IsGap (gap ++ before) := by
    intro c member
    rcases List.mem_append.mp member with first | last
    · exact all c first
    · exact gapBefore c last
  cases written with
  | last gapBefore numeral gapAfter =>
    simpa using ItemsWritten.last (wider gapBefore) numeral gapAfter
  | more gapBefore numeral gapAfter others =>
    simpa using ItemsWritten.more (wider gapBefore) numeral gapAfter others

theorem items?_sound {text : List Char} {ids : List Nat} (read : items? text = some ids) :
    ∃ items after, ItemsWritten cappedValue ids items ∧ IsGap after ∧ text = items ++ ']' :: after := by
  fun_induction items? text generalizing ids with
  | case1 text absent => contradiction
  | case2 text id rest found closes =>
    obtain rfl := Option.some.inj read
    obtain ⟨digits, numeral, rfl, rfl, _⟩ := number?_eq_some_iff.mp found
    obtain ⟨before, after, gapBefore, gapAfter, rfl⟩ := (ends_iff (by decide)).mp closes
    have written : ItemsWritten cappedValue [cappedValue digits] ([] ++ digits ++ before) :=
      .last isGap_nil numeral gapBefore
    exact ⟨_, after, written, gapAfter, by simp⟩
  | case3 text id rest found goesOn tail comma ih =>
    obtain ⟨others, othersRead, rfl⟩ := Option.map_eq_some_iff.mp read
    obtain ⟨items, after, written, gapAfter, left⟩ := ih othersRead
    obtain ⟨digits, numeral, rfl, rfl, _⟩ := number?_eq_some_iff.mp found
    obtain ⟨gap, gapAfterDigits, rfl, _⟩ := dropGap_eq_iff.mp comma
    obtain ⟨gapBefore, all, rfl, _⟩ := dropGap_eq_iff.mp left
    have whole : ItemsWritten cappedValue (cappedValue digits :: others)
        ([] ++ digits ++ gap ++ ',' :: (gapBefore ++ items)) :=
      .more isGap_nil numeral gapAfterDigits (written.gap_append all)
    exact ⟨_, after, whole, gapAfter, by simp⟩
  | case4 text id rest found goesOn absent => contradiction

theorem items?_complete {ids : List Nat} {items after : List Char}
    (written : ItemsWritten cappedValue ids items) (gapAfter : IsGap after) :
    items? (dropGap (items ++ ']' :: after)) = some ids := by
  induction written with
  | @last before digits gap gapBefore numeral gapEnd =>
    have found : number? (dropGap (before ++ digits ++ (gap ++ ']' :: after))) =
        some (cappedValue digits, gap ++ ']' :: after) :=
      numeral.number?_dropGap gapBefore gapEnd (by decide) after
    have closes : ends ']' (gap ++ ']' :: after) = true :=
      (ends_iff (by decide)).mpr ⟨gap, after, gapEnd, gapAfter, rfl⟩
    rw [List.append_assoc, items?_of_number? found, if_pos closes]
  | @more before digits gap rest ids gapBefore numeral gapEnd others ih =>
    have found : number? (dropGap (before ++ digits ++ (gap ++ ',' :: (rest ++ ']' :: after)))) =
        some (cappedValue digits, gap ++ ',' :: (rest ++ ']' :: after)) :=
      numeral.number?_dropGap gapBefore gapEnd (by decide) _
    have comma : dropGap (gap ++ ',' :: (rest ++ ']' :: after)) = ',' :: (rest ++ ']' :: after) :=
      gapEnd.dropGap_append (by decide) _
    have goesOn : ends ']' (gap ++ ',' :: (rest ++ ']' :: after)) = false := by
      rw [ends, comma]
      rfl
    have text : before ++ digits ++ gap ++ ',' :: rest ++ ']' :: after =
        before ++ digits ++ (gap ++ ',' :: (rest ++ ']' :: after)) := by simp
    rw [text, items?_of_number? found, goesOn, comma]
    exact congrArg (Option.map (cappedValue digits :: ·)) ih

theorem read?_sound {text : List Char} {selection : Selection} (read : read? text = some selection) :
    Written cappedValue selection text := by
  have around {lead form after : List Char} (left : dropGap text = lead)
      (written : FormWritten cappedValue selection form) (gapAfter : IsGap after)
      (whole : lead = form ++ after) : Written cappedValue selection text := by
    obtain ⟨before, gapBefore, rfl, _⟩ := dropGap_eq_iff.mp left
    rw [whole, ← List.append_assoc]
    exact .around gapBefore written gapAfter
  unfold read? at read
  split at read
  · rename_i rest left
    split at read
    · rename_i last
      obtain rfl := Option.some.inj read
      exact around left .all (isEmpty_dropGap_iff.mp last) rfl
    · contradiction
  · rename_i rest left
    obtain ⟨form, after, written, gapAfter, whole⟩ := range?_sound read
    exact around left written gapAfter whole
  · rename_i rest left
    obtain ⟨ids, found, rfl⟩ := Option.map_eq_some_iff.mp read
    obtain ⟨items, after, written, gapAfter, whole⟩ := items?_sound found
    obtain ⟨gap, all, rfl, _⟩ := dropGap_eq_iff.mp whole
    exact around left (.list (written.gap_append all)) gapAfter (by simp)
  · split at read
    · rename_i id rest found
      split at read
      · rename_i last
        obtain rfl := Option.some.inj read
        obtain ⟨digits, numeral, rfl, whole, _⟩ := number?_eq_some_iff.mp found
        exact around rfl (.single numeral) (isEmpty_dropGap_iff.mp last) whole
      · contradiction
    · contradiction

theorem read?_complete {text : List Char} {selection : Selection}
    (written : Written cappedValue selection text) : read? text = some selection := by
  obtain @⟨before, form, after, _, gapBefore, written, gapAfter⟩ := written
  have last : (dropGap after).isEmpty = true := isEmpty_dropGap_iff.mpr gapAfter
  rw [List.append_assoc]
  cases written with
  | all =>
    have lead : dropGap (before ++ '*' :: after) = '*' :: after :=
      gapBefore.dropGap_append (by decide) _
    simp only [List.singleton_append, read?, lead, last, if_true]
  | single numeral =>
    obtain ⟨c, rest, rfl, digit⟩ := numeral.exists_cons
    have lead : dropGap (before ++ (c :: rest ++ after)) = c :: (rest ++ after) :=
      gapBefore.dropGap_append (not_isGapChar_of_isDigit digit) _
    have ends : ∀ d ∈ (after ++ []).head?, d.isDigit = false := gapAfter.head?_append (by simp)
    rw [List.append_nil] at ends
    have found : number? (c :: (rest ++ after)) = some (cappedValue (c :: rest), after) :=
      number?_eq_some_iff.mpr ⟨c :: rest, numeral, rfl, rfl, ends⟩
    -- No other form begins with a digit.
    have other {d : Char} {tail : List Char} (same : c :: (rest ++ after) = d :: tail)
        (mark : d.isDigit = false) : False := by
      obtain ⟨rfl, _⟩ := List.cons.inj same
      rw [digit] at mark
      contradiction
    unfold read?
    rw [lead]
    split
    · rename_i same
      exact (other same (by decide)).elim
    · rename_i same
      exact (other same (by decide)).elim
    · rename_i same
      exact (other same (by decide)).elim
    · simp only [found, last, if_true]
  | @range a first b c last d gapA firstNumeral gapB gapC lastNumeral gapD =>
    have lead : dropGap (before ++ '(' :: (a ++ first ++ b ++ '.' :: '.' :: (c ++ last ++ d ++ ')' :: after))) =
        '(' :: (a ++ first ++ b ++ '.' :: '.' :: (c ++ last ++ d ++ ')' :: after)) :=
      gapBefore.dropGap_append (by decide) _
    have form : before ++ ('(' :: a ++ first ++ b ++ ['.', '.'] ++ c ++ last ++ d ++ [')'] ++ after) =
        before ++ '(' :: (a ++ first ++ b ++ '.' :: '.' :: (c ++ last ++ d ++ ')' :: after)) := by simp
    rw [form, read?, lead]
    exact range?_complete gapA firstNumeral gapB gapC lastNumeral gapD gapAfter
  | @list ids items written =>
    have lead : dropGap (before ++ '[' :: (items ++ ']' :: after)) = '[' :: (items ++ ']' :: after) :=
      gapBefore.dropGap_append (by decide) _
    have form : before ++ ('[' :: items ++ [']'] ++ after) = before ++ '[' :: (items ++ ']' :: after) := by
      simp
    rw [form, read?, lead]
    exact congrArg (Option.map Selection.list) (items?_complete written gapAfter)

theorem read?_eq_some_iff {text : List Char} {selection : Selection} :
    read? text = some selection ↔ Written cappedValue selection text :=
  ⟨read?_sound, read?_complete⟩

theorem read_eq_ok_iff {input : String} {selection : Selection} :
    read input = .ok selection ↔ Written cappedValue selection input.toList := by
  rw [← read?_eq_some_iff, read]
  cases read? input.toList <;> simp

end TableScript.Selection
