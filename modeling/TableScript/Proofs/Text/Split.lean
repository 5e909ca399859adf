import TableScript.Proofs.Text.Trim
import Mathlib.Data.List.Basic

/-! Texts cut at a separator: ending each piece with one is undone by cutting, and what is added at
one end of a text only changes the piece there. -/
namespace TableScript.Text

variable {separator : Char}

theorem splitOn_terminated {pieces : List (List Char)} (whole : ∀ piece ∈ pieces, separator ∉ piece)
    (rest : List Char) :
    ((pieces.flatMap fun piece => piece ++ [separator]) ++ rest).splitOn separator =
      pieces ++ rest.splitOn separator := by
  induction pieces with
  | nil => rfl
  | cons piece pieces ih =>
    have tail := ih fun other member => whole other (List.mem_cons_of_mem piece member)
    rw [List.flatMap_cons, List.append_assoc, List.append_assoc, List.singleton_append,
      List.splitOn_append_cons_self_of_not_mem (whole piece List.mem_cons_self), tail, List.cons_append]

/-- Joining pieces adds nothing but separators. -/
theorem mem_intercalate {c : Char} {pieces : List (List Char)}
    (member : c ∈ [separator].intercalate pieces) : c = separator ∨ ∃ piece ∈ pieces, c ∈ piece := by
  induction pieces with
  | nil => contradiction
  | cons piece pieces ih =>
    cases pieces with
    | nil => exact .inr ⟨piece, by simp, by simpa using member⟩
    | cons next pieces =>
      rw [List.intercalate_cons_cons, List.mem_append, List.mem_append, List.mem_singleton] at member
      rcases member with (inside | parts) | later
      · exact .inr ⟨piece, List.mem_cons_self, inside⟩
      · exact .inl parts
      · rcases ih later with parts | ⟨other, present, inside⟩
        · exact .inl parts
        · exact .inr ⟨other, List.mem_cons_of_mem piece present, inside⟩

/-- What is added at the front belongs to the first piece. -/
theorem splitOn_front {front : List Char} (absent : separator ∉ front) (text : List Char) :
    ∃ piece pieces, text.splitOn separator = piece :: pieces ∧
      (front ++ text).splitOn separator = (front ++ piece) :: pieces := by
  induction front with
  | nil =>
    obtain ⟨piece, pieces, cut⟩ := List.exists_cons_of_ne_nil (List.splitOn_ne_nil separator text)
    exact ⟨piece, pieces, cut, cut⟩
  | cons c front ih =>
    simp only [List.mem_cons, not_or] at absent
    obtain ⟨piece, pieces, cut, joined⟩ := ih absent.2
    refine ⟨piece, pieces, cut, ?_⟩
    simp [List.splitOn_cons_eq_if_modifyHead, Ne.symm absent.1, joined]

/-- What is added at the end belongs to the last piece. -/
theorem splitOn_back {back : List Char} (absent : separator ∉ back) (text : List Char) :
    ∃ pieces piece, text.splitOn separator = pieces ++ [piece] ∧
      (text ++ back).splitOn separator = pieces ++ [piece ++ back] := by
  induction text with
  | nil => exact ⟨[], [], rfl, List.splitOn_eq_singleton absent⟩
  | cons c text ih =>
    obtain ⟨pieces, piece, cut, joined⟩ := ih
    simp only [List.cons_append, List.splitOn_cons_eq_if_modifyHead, cut, joined]
    split
    · exact ⟨[] :: pieces, piece, rfl, rfl⟩
    · cases pieces with
      | nil => exact ⟨[], c :: piece, rfl, rfl⟩
      | cons first pieces => exact ⟨(c :: first) :: pieces, piece, rfl, rfl⟩

/-- Trimming a text before it is cut changes no trimmed piece, unless the separator is white space. -/
theorem map_trim_splitOn_trim (solid : isBlank separator = false) (text : List Char) :
    ((trim text).splitOn separator).map trim = (text.splitOn separator).map trim := by
  have apart {blank : List Char} (white : AllBlank blank) : separator ∉ blank := fun member => by
    simp [white separator member] at solid
  obtain ⟨first, last, firstWhite, lastWhite, whole⟩ := exists_eq_append_trim text
  obtain ⟨piece, pieces, cut, joined⟩ := splitOn_front (apart firstWhite) (trim text ++ last)
  obtain ⟨before, final, trimmedCut, fullCut⟩ := splitOn_back (apart lastWhite) (trim text)
  have front : (text.splitOn separator).map trim =
      ((trim text ++ last).splitOn separator).map trim := by
    conv_lhs => rw [whole, List.append_assoc]
    rw [joined, cut, List.map_cons, List.map_cons, trim_append_left firstWhite]
  have back : ((trim text ++ last).splitOn separator).map trim =
      ((trim text).splitOn separator).map trim := by
    rw [fullCut, trimmedCut, List.map_append, List.map_append, List.map_singleton, List.map_singleton,
      trim_append_right lastWhite]
  exact (front.trans back).symm

end TableScript.Text
