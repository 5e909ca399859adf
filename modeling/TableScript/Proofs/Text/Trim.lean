import TableScript.Text.Blank
import Mathlib.Data.List.DropRight

/-! Trimming texts put together from parts: white space at the ends goes, and a part that begins and
ends with other characters stays whole. -/
namespace TableScript.Text

/-- A text that holds something and neither begins nor ends with white space. -/
structure Tight (text : List Char) : Prop where
  starts : ∃ c rest, text = c :: rest ∧ isBlank c = false
  ends : ∃ rest c, text = rest ++ [c] ∧ isBlank c = false

def AllBlank (text : List Char) : Prop := ∀ c ∈ text, isBlank c = true

instance (text : List Char) : Decidable (AllBlank text) :=
  decidable_of_iff (text.all isBlank = true) List.all_eq_true

@[simp] theorem trimEnd_nil : trimEnd [] = [] := rfl

theorem trimStart_append {blank : List Char} (white : AllBlank blank) (text : List Char) :
    trimStart (blank ++ text) = trimStart text :=
  List.dropWhile_append_of_pos white

theorem trimStart_cons {c : Char} (solid : isBlank c = false) (text : List Char) :
    trimStart (c :: text) = c :: text := by
  simp [trimStart, solid]

theorem trimEnd_append {blank : List Char} (white : AllBlank blank) (text : List Char) :
    trimEnd (text ++ blank) = trimEnd text := by
  rw [trimEnd, List.reverse_append,
    List.dropWhile_append_of_pos fun c member => white c (List.mem_reverse.mp member)]
  rfl

theorem exists_eq_trimEnd_append (text : List Char) :
    ∃ blank, AllBlank blank ∧ text = trimEnd text ++ blank :=
  ⟨text.rtakeWhile isBlank, fun _ member => List.mem_rtakeWhile_imp member,
    List.rdropWhile_append_rtakeWhile.symm⟩

theorem exists_eq_append_trim (text : List Char) :
    ∃ before after, AllBlank before ∧ AllBlank after ∧ text = before ++ trim text ++ after := by
  obtain ⟨after, last, whole⟩ := exists_eq_trimEnd_append (trimStart text)
  have first : AllBlank (text.takeWhile isBlank) := fun _ member => List.mem_takeWhile_imp member
  refine ⟨text.takeWhile isBlank, after, first, last, ?_⟩
  calc text = text.takeWhile isBlank ++ trimStart text := List.takeWhile_append_dropWhile.symm
    _ = text.takeWhile isBlank ++ (trim text ++ after) := congrArg _ whole
    _ = text.takeWhile isBlank ++ trim text ++ after := (List.append_assoc ..).symm

theorem trimEnd_isPrefix (text : List Char) : trimEnd text <+: text := List.rdropWhile_prefix isBlank text

theorem trimEnd_trimEnd (text : List Char) : trimEnd (trimEnd text) = trimEnd text :=
  List.rdropWhile_idempotent isBlank text

/-- A text that trimming leaves as it is has ends of that kind only. -/
theorem trimEnd_of_append {first last : List Char} (kept : trimEnd (first ++ last) = first ++ last) :
    trimEnd last = last := by
  obtain ⟨blank, white, whole⟩ := exists_eq_trimEnd_append last
  have shorter : trimEnd (first ++ last) <+: first ++ trimEnd last := by
    conv_lhs => rw [whole, ← List.append_assoc, trimEnd_append white]
    exact trimEnd_isPrefix _
  rw [kept, List.prefix_append_right_inj] at shorter
  exact (trimEnd_isPrefix last).eq_of_length_le shorter.length_le

/-- A character that is not white space keeps all that stands before it. -/
theorem trimEnd_append_cons {c : Char} (solid : isBlank c = false) (text tail : List Char) :
    trimEnd (text ++ c :: tail) = text ++ c :: trimEnd tail := by
  have kept : (c :: text.reverse).dropWhile isBlank = c :: text.reverse := by simp [solid]
  simp only [trimEnd, List.reverse_append, List.reverse_cons, List.append_assoc,
    List.singleton_append, List.dropWhile_append, kept]
  split
  · rename_i nothing
    simp [List.isEmpty_iff.mp nothing]
  · simp

theorem trim_append_left {blank : List Char} (white : AllBlank blank) (text : List Char) :
    trim (blank ++ text) = trim text := by
  rw [trim, trimStart_append white]
  rfl

theorem trim_append_right {blank : List Char} (white : AllBlank blank) (text : List Char) :
    trim (text ++ blank) = trim text := by
  simp only [trim, trimStart, List.dropWhile_append]
  split
  · rename_i nothing
    have all : blank.dropWhile isBlank = [] := List.dropWhile_eq_nil_iff.mpr white
    rw [all, List.isEmpty_iff.mp nothing]
  · exact trimEnd_append white _

theorem trim_trim (text : List Char) : trim (trim text) = trim text := by
  obtain ⟨before, after, first, last, whole⟩ := exists_eq_append_trim text
  calc trim (trim text) = trim (before ++ trim text ++ after) := by
        rw [trim_append_right last, trim_append_left first]
    _ = trim text := congrArg trim whole.symm

theorem trimmed_trimmed (text : String) : trimmed (trimmed text) = trimmed text := by
  rw [trimmed, trimmed, String.toList_ofList, trim_trim]

theorem tight_iff {text : List Char} :
    Tight text ↔ text.head?.any (!isBlank ·) = true ∧ text.getLast?.any (!isBlank ·) = true := by
  constructor
  · rintro ⟨⟨c, rest, rfl, starts⟩, ⟨before, d, same, ends⟩⟩
    refine ⟨by simp [starts], ?_⟩
    rw [same]
    simp [ends]
  · rintro ⟨starts, ends⟩
    obtain ⟨c, first, solid⟩ := Option.any_eq_true _ _ |>.mp starts
    obtain ⟨d, last, closed⟩ := Option.any_eq_true _ _ |>.mp ends
    obtain ⟨rest, whole⟩ := List.head?_eq_some_iff.mp first
    obtain ⟨before, same⟩ := List.getLast?_eq_some_iff.mp last
    exact ⟨⟨c, rest, whole, by simpa using solid⟩, ⟨before, d, same, by simpa using closed⟩⟩

instance (text : List Char) : Decidable (Tight text) := decidable_of_iff _ tight_iff.symm

namespace Tight

theorem of_solid {text : List Char} (some : text ≠ []) (solid : ∀ c ∈ text, isBlank c = false) :
    Tight text := by
  rw [tight_iff, List.head?_eq_some_head some, List.getLast?_eq_some_getLast some]
  simp [solid]

/-- A tight text at the front keeps its place; only the end of what follows is trimmed. -/
theorem trim_append {text : List Char} (tight : Tight text) (tail : List Char) :
    trim (text ++ tail) = text ++ trimEnd tail := by
  obtain ⟨c, rest, whole, solid⟩ := tight.starts
  obtain ⟨before, last, same, closed⟩ := tight.ends
  have start : trimStart (text ++ tail) = text ++ tail := by
    rw [whole, List.cons_append, trimStart_cons solid]
  rw [trim, start, same, List.append_assoc, List.singleton_append, trimEnd_append_cons closed]
  simp

theorem trim_eq {text : List Char} (tight : Tight text) : trim text = text := by
  have kept := tight.trim_append []
  rwa [List.append_nil, trimEnd_nil, List.append_nil] at kept

/-- White space around a tight text is all that trimming takes. -/
theorem trim_around {text before after : List Char} (tight : Tight text) (first : AllBlank before)
    (last : AllBlank after) : trim (before ++ text ++ after) = text := by
  rw [trim_append_right last, trim_append_left first, tight.trim_eq]

/-- The white space around a tight text is told by the whole. -/
theorem around_inj {text before after first last : List Char} (tight : Tight text)
    (blankBefore : AllBlank before) (blankFirst : AllBlank first)
    (same : before ++ text ++ after = first ++ text ++ last) : before = first ∧ after = last := by
  have front {blank : List Char} (white : AllBlank blank) (rest : List Char) :
      (blank ++ text ++ rest).takeWhile isBlank = blank := by
    obtain ⟨c, tail, rfl, solid⟩ := tight.starts
    rw [List.append_assoc, List.takeWhile_append_of_pos white]
    simp [solid]
  have begins : before = first := by
    rw [← front blankBefore after, same, front blankFirst]
  subst begins
  exact ⟨rfl, List.append_cancel_left same⟩

theorem trimEnd_append {last : List Char} (tight : Tight last) (text : List Char) :
    trimEnd (text ++ last) = text ++ last := by
  obtain ⟨before, c, rfl, closed⟩ := tight.ends
  rw [← List.append_assoc, trimEnd_append_cons closed, trimEnd_nil]

/-- Two tight texts hold together whatever stands between them. -/
theorem append {first last : List Char} (opens : Tight first) (closes : Tight last)
    (middle : List Char) : Tight (first ++ middle ++ last) := by
  obtain ⟨c, rest, rfl, solid⟩ := opens.starts
  obtain ⟨before, d, rfl, closed⟩ := closes.ends
  exact ⟨⟨c, rest ++ middle ++ (before ++ [d]), by simp, solid⟩,
    ⟨c :: rest ++ middle ++ before, d, by simp, closed⟩⟩

end Tight

end TableScript.Text
