import TableScript.Proofs.Text.Run
import TableScript.Text.Json
import TableScript.Text.JsonText
import Mathlib.Tactic.IntervalCases

/-! Reading what is written as JSON: strings and numbers are read back, whatever follows them. -/
namespace TableScript

namespace Text

theorem jsonChar_of_plain {c : Char} (printable : ¬ c.toNat < 32) (quote : c ≠ '"') (slash : c ≠ '\\') :
    jsonChar c = [c] := by
  have none_below {d : Char} (low : d.toNat < 32) : c ≠ d := fun same => printable (same ▸ low)
  have late : ¬ c < ' ' := printable
  simp only [jsonChar, quote, slash, none_below (by decide : '\n'.toNat < 32),
    none_below (by decide : '\r'.toNat < 32), none_below (by decide : '\t'.toNat < 32),
    none_below (by decide : '\x08'.toNat < 32), none_below (by decide : '\x0c'.toNat < 32), late,
    if_false]

end Text

namespace Json

open Text (jsonChar jsonString)

theorem stringRest?_jsonChar (c : Char) (rest : List Char) :
    stringRest? (jsonChar c ++ rest) = Toml.prepend c (stringRest? rest) := by
  by_cases control : c.toNat < 32
  · obtain ⟨number, low, rfl⟩ : ∃ number, number < 32 ∧ c = Char.ofNat number :=
      ⟨c.toNat, control, (Char.ofNat_toNat c).symm⟩
    interval_cases number <;> rfl
  · by_cases quote : c = '"'
    · subst quote
      rfl
    · by_cases slash : c = '\\'
      · subst slash
        rfl
      · have printable : ' ' ≤ c := Nat.le_of_not_lt control
        rw [Text.jsonChar_of_plain control quote slash, List.singleton_append]
        simp [stringRest?, slash, printable]

theorem string?_jsonString (text : String) (rest : List Char) :
    string? ((jsonString text).toList ++ rest) = some (text, rest) := by
  have body (characters : List Char) :
      stringRest? (characters.flatMap jsonChar ++ '"' :: rest) = some (characters, rest) := by
    induction characters with
    | nil => simp [stringRest?]
    | cons c characters ih =>
      rw [List.flatMap_cons, List.append_assoc, stringRest?_jsonChar, ih]
      rfl
  have written : (jsonString text).toList ++ rest = '"' :: (text.toList.flatMap jsonChar ++ '"' :: rest) := by
    simp [jsonString]
  simp [written, string?, body]

/-- Only the numeral of zero begins with a zero. -/
theorem exists_toDigits_eq_cons {number : Nat} (positive : 0 < number) :
    ∃ digit digits, Nat.toDigits 10 number = digit :: digits ∧ digit ≠ '0' := by
  induction number using Nat.strongRecOn with
  | ind number ih =>
    by_cases small : number < 10
    · rw [Nat.toDigits_of_lt_base small]
      refine ⟨_, [], rfl, ?_⟩
      interval_cases number <;> decide
    · obtain ⟨digit, digits, written, significant⟩ := ih (number / 10) (by omega) (by omega)
      rw [Nat.toDigits_of_base_le (by decide) (by omega), written]
      exact ⟨digit, _, rfl, significant⟩

theorem number?_toString (number : Nat) (rest : List Char) :
    number? ((toString number).toList ++ ',' :: rest) = some (toString number, ',' :: rest) := by
  have digits : (toString number).toList = Nat.toDigits 10 number := by simp
  have numeral : String.ofList (Nat.toDigits 10 number) = toString number := by
    rw [← digits, String.ofList_toList]
  rcases Nat.eq_zero_or_pos number with rfl | positive
  · rfl
  · obtain ⟨digit, others, written, significant⟩ := exists_toDigits_eq_cons positive
    have all : ∀ c ∈ digit :: others, c.isDigit = true := fun c member =>
      Nat.isDigit_of_mem_toDigits (by decide) (by decide) (written ▸ member)
    have unsigned : digit ≠ '-' := by
      rintro rfl
      exact absurd (all '-' List.mem_cons_self) (by decide)
    have run := Text.takeWhile_dropWhile_iff.mpr
      ⟨(rfl : digit :: others ++ ',' :: rest = _), all, by simp⟩
    have whole : whole? (digit :: others ++ ',' :: rest) = some (digit :: others, ',' :: rest) := by
      rw [List.cons_append, whole?, digits?, ← List.cons_append, run.1, run.2]
      · rfl
      · intro tail same
        exact significant (List.cons.inj same).1
    have integral : fraction (',' :: rest) = ([], ',' :: rest) := rfl
    have bare : exponent (',' :: rest) = ([], ',' :: rest) := by simp [exponent]
    rw [digits, ← numeral, written, number?]
    · simp only [whole, Option.map_some, integral, bare, List.nil_append, List.append_nil]
    · intro tail same
      exact unsigned (List.cons.inj same).1

theorem dropSpace_of_solid {c : Char} (solid : isSpace c = false) (rest : List Char) :
    dropSpace (c :: rest) = c :: rest := by
  simp [dropSpace, solid]

theorem dropSpace_of_space {c : Char} (space : isSpace c = true) (rest : List Char) :
    dropSpace (c :: rest) = dropSpace rest := by
  simp [dropSpace, space]

theorem value?_of_scalar {text rest : List Char} {c : Char} (steps : Nat) (begins : dropSpace text = c :: rest)
    (noList : c ≠ '[') (noRecord : c ≠ '{') : value? (steps + 1) text = scalarValue? (c :: rest) := by
  rw [value?, begins]
  split
  · rename_i same
    exact absurd (List.cons.inj same).1 noList
  · rename_i same
    exact absurd (List.cons.inj same).1 noRecord
  · rfl

/-- A number before a comma is read whole, after a blank. -/
theorem value?_number (steps number : Nat) (rest : List Char) :
    value? (steps + 1) (' ' :: ((toString number).toList ++ ',' :: rest)) =
      some (.number (toString number), ',' :: rest) := by
  have read := number?_toString number rest
  obtain ⟨digit, digits, written⟩ := List.exists_cons_of_ne_nil (Nat.toDigits_ne_nil (n := number) (b := 10))
  have isDigit : digit.isDigit = true :=
    Nat.isDigit_of_mem_toDigits (by decide) (by decide) (written ▸ List.mem_cons_self)
  have apart {c : Char} (other : c.isDigit = false) : digit ≠ c := by
    rintro rfl
    simp [isDigit] at other
  have solid : isSpace digit = false := by
    simp only [isSpace, Bool.or_eq_false_iff, beq_eq_false_iff_ne]
    exact ⟨⟨⟨apart rfl, apart rfl⟩, apart rfl⟩, apart rfl⟩
  rw [Nat.toString_eq_ofList_toDigits, String.toList_ofList, written, List.cons_append] at read ⊢
  have begins (text : List Char) : dropSpace (' ' :: digit :: text) = digit :: text := by
    rw [dropSpace_of_space rfl, dropSpace_of_solid solid]
  rw [value?_of_scalar steps (begins _) (apart rfl) (apart rfl)]
  simp only [scalarValue?, List.head?_cons, Option.some.injEq, read, apart (c := '"') rfl,
    apart (c := 'n') rfl, apart (c := 't') rfl, apart (c := 'f') rfl, if_false, Option.map_some]

/-- A string is read whole, after a blank. -/
theorem value?_string (steps : Nat) (text : String) (rest : List Char) :
    value? (steps + 1) (' ' :: ((jsonString text).toList ++ rest)) = some (.text text, rest) := by
  have read := string?_jsonString text rest
  have opened : (jsonString text).toList ++ rest =
      '"' :: (text.toList.flatMap jsonChar ++ '"' :: rest) := by simp [jsonString]
  rw [opened] at read ⊢
  have begins (text : List Char) : dropSpace (' ' :: '"' :: text) = '"' :: text := by
    rw [dropSpace_of_space rfl, dropSpace_of_solid rfl]
  rw [value?_of_scalar steps (begins _) (by decide) (by decide)]
  simp only [scalarValue?, List.head?_cons, read, if_true, Option.map_some]

section Fields

variable {steps : Nat} {text after tail rest : List Char} {name : String} {value : Data}
  {fields : List (String × Data)} (named : string? (dropSpace text) = some (name, ':' :: after))

include named

theorem fields?_more (read : value? steps after = some (value, ',' :: tail))
    (others : fields? steps tail = some (fields, rest)) :
    fields? (steps + 1) text = some ((name, value) :: fields, rest) := by
  simp only [fields?, named, Option.bind_eq_bind, Option.bind_some, dropSpace_of_solid (c := ':') rfl, read,
    dropSpace_of_solid (c := ',') rfl, others]

theorem fields?_last (read : value? steps after = some (value, tail))
    (closed : dropSpace tail = '}' :: rest) :
    fields? (steps + 1) text = some ([(name, value)], rest) := by
  simp only [fields?, named, Option.bind_eq_bind, Option.bind_some, dropSpace_of_solid (c := ':') rfl, read,
    closed]

end Fields

section Nested

variable {steps : Nat} {text after rest : List Char}

theorem value?_of_space {c : Char} (space : isSpace c = true) : value? steps (c :: text) = value? steps text := by
  cases steps with
  | zero => rfl
  | succ steps => rw [value?, value?, dropSpace_of_space space]

theorem items?_of_space {c : Char} (space : isSpace c = true) : items? steps (c :: text) = items? steps text := by
  cases steps with
  | zero => rfl
  | succ steps => rw [items?, items?, value?_of_space space]

theorem value?_record {fields : List (String × Data)} (begins : dropSpace text = '{' :: after)
    (nonempty : (dropSpace after).head? ≠ some '}') (read : fields? steps after = some (fields, rest)) :
    value? (steps + 1) text = some (.record fields, rest) := by
  rw [value?, begins]
  simp only [read, Option.map_some]
  split
  · rename_i closed
    simp [closed] at nonempty
  · rfl

theorem value?_list {items : List Data} (begins : dropSpace text = '[' :: after)
    (nonempty : (dropSpace after).head? ≠ some ']') (read : items? steps after = some (items, rest)) :
    value? (steps + 1) text = some (.list items, rest) := by
  rw [value?, begins]
  simp only [read, Option.map_some]
  split
  · rename_i closed
    simp [closed] at nonempty
  · rfl

variable {item : Data} {tail : List Char}

theorem items?_more {items : List Data} (read : value? steps text = some (item, ',' :: tail))
    (others : items? steps tail = some (items, rest)) :
    items? (steps + 1) text = some (item :: items, rest) := by
  simp only [items?, read, Option.bind_eq_bind, Option.bind_some, dropSpace_of_solid (c := ',') rfl, others]

theorem items?_last (read : value? steps text = some (item, tail)) (closed : dropSpace tail = ']' :: rest) :
    items? (steps + 1) text = some ([item], rest) := by
  simp only [items?, read, Option.bind_eq_bind, Option.bind_some, closed]

end Nested

example : read? r#" { "\u0041\n" : [ -1.5e3 , true,null,[] ], "b":{ } } "# =
    some (.record [("A\n", .list [.number "-1.5e3", .flag true, .null, .list []]), ("b", .record [])]) := by
  cbv

end Json

end TableScript
