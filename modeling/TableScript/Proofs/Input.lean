import TableScript.Input
import Mathlib.Data.List.Basic

/-! Lines and blocks. Which lines an input has does not depend on the blocks that it comes in; what is
left unread does. -/
namespace TableScript

/-- Inputs with their first lines, which go up to the first line feed or are all there is, and what
comes after them. -/
inductive FirstLine : List UInt8 → List UInt8 → List UInt8 → Prop
  | broken {text left : List UInt8} (unbroken : lineFeed ∉ text) :
      FirstLine (text ++ lineFeed :: left) (text ++ [lineFeed]) left
  | last {text : List UInt8} (unbroken : lineFeed ∉ text) : FirstLine text text []

theorem splitLine_append {text : List UInt8} (unbroken : lineFeed ∉ text) (rest : List UInt8) :
    splitLine (text ++ rest) = (text ++ (splitLine rest).1, (splitLine rest).2) := by
  induction text with
  | nil => rfl
  | cons byte text ih =>
    simp only [List.mem_cons, not_or] at unbroken
    simp [splitLine, Ne.symm unbroken.1, ih unbroken.2]

theorem FirstLine.splitLine_eq {bytes line left : List UInt8} (first : FirstLine bytes line left) :
    splitLine bytes = (line, left) := by
  cases first with
  | broken unbroken =>
    rw [splitLine_append unbroken]
    rfl
  | last unbroken =>
    have whole := splitLine_append unbroken []
    rwa [List.append_nil, splitLine, List.append_nil] at whole

/-- What comes after a whole line is not in it. -/
theorem splitLine_append_of_mem {held : List UInt8} (whole : lineFeed ∈ held) (rest : List UInt8) :
    splitLine (held ++ rest) = ((splitLine held).1, (splitLine held).2 ++ rest) := by
  induction held with
  | nil => contradiction
  | cons byte held ih =>
    by_cases here : byte = lineFeed
    · simp [splitLine, here]
    · have later : lineFeed ∈ held := (List.mem_cons.mp whole).resolve_left (Ne.symm here)
      simp [splitLine, here, ih later]

namespace Input

theorem bytes_fill (held : List UInt8) (unread : Blocks) :
    (fill held unread).bytes = held ++ unread.flatten := by
  induction unread generalizing held with
  | nil => rfl
  | cons block unread ih =>
    rw [fill]
    split
    · rfl
    · rw [ih, List.flatten_cons, List.append_assoc]

/-- Reading ends with a whole line or with the input. -/
theorem whole_or_ended (held : List UInt8) (unread : Blocks) :
    lineFeed ∈ (fill held unread).held ∨ (fill held unread).unread = [] := by
  induction unread generalizing held with
  | nil => exact .inr rfl
  | cons block unread ih =>
    rw [fill]
    split
    · rename_i whole
      exact .inl whole
    · exact ih _

variable (input : Input)

theorem splitLine_bytes : splitLine input.bytes = (input.line, input.afterLine.bytes) := by
  have filled : (fill input.held input.unread).bytes = input.bytes := bytes_fill _ _
  rw [← filled, bytes]
  rcases whole_or_ended input.held input.unread with whole | ended
  · rw [splitLine_append_of_mem whole]
    rfl
  · simp [line, afterLine, bytes, ended]

theorem line_eq : input.line = (splitLine input.bytes).1 := by rw [splitLine_bytes]

variable {input}

theorem line_of_firstLine {line left : List UInt8} (first : FirstLine input.bytes line left) :
    input.line = line ∧ input.afterLine.bytes = left := by
  have split := input.splitLine_bytes.symm.trans first.splitLine_eq
  exact Prod.mk.inj split

theorem flatten_blocksOf (bytes : List UInt8) : (blocksOf bytes).flatten = bytes := by
  fun_induction blocksOf bytes with
  | case1 => rfl
  | case2 bytes _ ih => rw [List.flatten_cons, ih, List.take_append_drop]

@[simp] theorem bytes_ofBytes (bytes : List UInt8) : (ofBytes bytes).bytes = bytes := by
  rw [ofBytes, Input.bytes, List.nil_append, flatten_blocksOf]

end Input

end TableScript
