import TableScript.Proofs.Text.Json
import TableScript.Toml.Written

/-! A document in its plainest form is read back as the record of its parts. -/
namespace TableScript.Toml

open Text (jsonChar jsonString)

/-! ### Values -/

theorem basic?_jsonChar {c : Char} (kept : c ≠ '\x7f') (rest : List Char) :
    basic? (jsonChar c ++ rest) = prepend c (basic? rest) := by
  by_cases control : c.toNat < 32
  · obtain ⟨number, low, rfl⟩ : ∃ number, number < 32 ∧ c = Char.ofNat number :=
      ⟨c.toNat, control, (Char.ofNat_toNat c).symm⟩
    interval_cases number <;> rfl
  · by_cases quote : c = '"'
    · subst quote
      rfl
    · by_cases slash : c = '\\'
      · subst slash
        rfl
      · have printable : isPrintable c = true := by
          have late : ' ' ≤ c := Nat.le_of_not_lt control
          simp [isPrintable, late, kept]
        rw [Text.jsonChar_of_plain control quote slash, List.singleton_append, basic?.eq_def]
        simp [quote, slash, printable]

theorem basic?_flatMap_jsonChar {text : List Char} (kept : '\x7f' ∉ text) (rest : List Char) :
    basic? (text.flatMap jsonChar ++ '"' :: rest) = some (text, rest) := by
  induction text with
  | nil => simp [basic?.eq_def]
  | cons c text ih =>
    simp only [List.mem_cons, not_or] at kept
    rw [List.flatMap_cons, List.append_assoc, basic?_jsonChar (Ne.symm kept.1), ih kept.2]
    rfl

theorem string?_written {text : List Char} (kept : '\x7f' ∉ text) (rest : List Char) :
    string? ('"' :: (text.flatMap jsonChar ++ '"' :: '\n' :: rest)) = some (text, '\n' :: rest) := by
  have read := basic?_flatMap_jsonChar kept ('\n' :: rest)
  cases text with
  | nil => simpa [string?] using read
  | cons c text =>
    obtain ⟨first, others, escaped, solid⟩ : ∃ first others, jsonChar c = first :: others ∧ first ≠ '"' := by
      by_cases quote : c = '"'
      · exact ⟨'\\', ['"'], by simp [jsonChar, quote], by decide⟩
      · unfold jsonChar
        repeat' split
        all_goals first | exact ⟨_, _, rfl, by decide⟩ | exact ⟨c, [], rfl, quote⟩
    rw [List.flatMap_cons, escaped, List.cons_append, List.cons_append] at read ⊢
    rw [string?, read]
    all_goals simp [solid]

theorem value?_write {setting : Setting} (formed : setting.WellFormed) (depth : Nat) (rest : List Char) :
    value? (depth + 1) (setting.write ++ '\n' :: rest) = some (setting.data, '\n' :: rest) := by
  cases setting with
  | flag value => cases value <;> rfl
  | text value =>
    have opened : (Setting.text value).write ++ '\n' :: rest =
        '"' :: (value.toList.flatMap jsonChar ++ '"' :: '\n' :: rest) := by
      simp [Setting.write, jsonString]
    rw [opened, value?, scalarValue?, if_pos (.inl rfl), string?_written formed]
    · simp [Setting.data]
    all_goals simp

theorem Setting.dropGap_write (setting : Setting) (rest : List Char) :
    dropGap (' ' :: (setting.write ++ rest)) = setting.write ++ rest := by
  cases setting with
  | flag value => cases value <;> rfl
  | text value => simp [write, jsonString, dropGap, isGapChar]

/-! ### Keys -/

namespace IsBareKey

variable {key : String} (bare : IsBareKey key)

include bare

theorem exists_cons : ∃ c others, key.toList = c :: others ∧ isBareChar c = true := by
  obtain ⟨c, others, whole⟩ := List.exists_cons_of_ne_nil bare.1
  exact ⟨c, others, whole, bare.2 c (by simp [whole])⟩

theorem keyPart? {next : List Char} (ends : ∀ c ∈ next.head?, isBareChar c = false) :
    keyPart? (key.toList ++ next) = some (key, next) := by
  obtain ⟨taken, left⟩ := Text.takeWhile_dropWhile_iff.mpr ⟨rfl, bare.2, ends⟩
  obtain ⟨c, others, whole, first⟩ := bare.exists_cons
  have unquoted : c ≠ '"' ∧ c ≠ '\'' := by
    constructor <;> rintro rfl <;> exact absurd first (by decide)
  rw [Toml.keyPart?.eq_def, taken, left, if_neg bare.1, String.ofList_toList]
  rw [whole, List.cons_append]
  simp [unquoted.1, unquoted.2]

theorem dropGap_append (next : List Char) : dropGap (key.toList ++ next) = key.toList ++ next := by
  obtain ⟨c, others, whole, first⟩ := bare.exists_cons
  have solid : isGapChar c = false := by
    by_contra gap
    rw [Bool.not_eq_false, isGapChar, Bool.or_eq_true, beq_iff_eq, beq_iff_eq] at gap
    rcases gap with rfl | rfl <;> exact absurd first (by decide)
  simp [whole, dropGap, solid]

/-- A bare key alone is a key of one part. -/
theorem key? {next : List Char} (ends : ∀ c ∈ next.head?, isBareChar c = false)
    (undotted : (dropGap next).head? ≠ some '.') :
    key? (key.toList ++ next) = some ([], key, dropGap next) := by
  rw [Toml.key?, show depthLimit - 1 = 78 + 1 from rfl, keyParts?, bare.dropGap_append, bare.keyPart? ends]
  simp only [Option.bind_eq_bind, Option.bind_some]
  split
  · rename_i dotted
    simp [dotted] at undotted
  · rfl

/-- A line that begins with a key does not end there. -/
theorem lineEnd? (next : List Char) : lineEnd? (key.toList ++ next) = none := by
  obtain ⟨c, others, whole, first⟩ := bare.exists_cons
  have solid : c ≠ '#' ∧ c ≠ '\n' ∧ c ≠ '\r' := by
    refine ⟨?_, ?_, ?_⟩ <;> rintro rfl <;> exact absurd first (by decide)
  rw [Toml.lineEnd?, bare.dropGap_append, whole, List.cons_append]
  simp [dropComment, lineBreak?, solid]

end IsBareKey

/-! ### Lines -/

section Lines

variable {front entries fields : Entries} {name key : String} {header : List String}

theorem change_openTable (absent : name ∉ entries.map Prod.fst) :
    Document.change ⟨entries, header⟩ [] (openTable name) =
      some ⟨entries ++ [(name, .table .defined [])], header⟩ := by
  have added := Keyed.put_append absent [] (Node.table .defined [])
  rw [List.append_nil] at added
  simp only [Document.change, descend, openTable, Keyed.lookup_of_absent absent, added, Keyed.put,
    Option.map_some]

theorem change_putDotted (apart : name ∉ front.map Prod.fst) (absent : key ∉ fields.map Prod.fst)
    (data : Data) :
    Document.change ⟨front ++ [(name, .table .defined fields)], header⟩ [name] (putDotted [] key data) =
      some ⟨front ++ [(name, .table .defined (fields ++ [(key, .value data)]))], header⟩ := by
  have found : (front ++ [(name, Node.table .defined fields)]).lookup name = some (.table .defined fields) := by
    simp [List.lookup_append, Keyed.lookup_of_absent apart]
  have added := Keyed.put_append absent [] (Node.value data)
  have changed := Keyed.put_append apart [(name, Node.table .defined fields)]
    (.table .defined (fields ++ [(key, .value data)]))
  rw [List.append_nil] at added
  simp [Document.change, descend, putDotted, putValue, found, Keyed.lookup_of_absent absent, added, changed,
    Keyed.put]

theorem readLines_header (bare : IsBareKey name) (absent : name ∉ entries.map Prod.fst) (steps : Nat)
    (rest : List Char) :
    readLines (steps + 1) ⟨entries, header⟩ (writeHeader name ++ rest) =
      readLines steps ⟨entries ++ [(name, .table .defined [])], [name]⟩ rest := by
  have line : writeHeader name ++ rest = '[' :: (name.toList ++ ']' :: '\n' :: rest) := by
    simp [writeHeader]
  have read : key? (name.toList ++ ']' :: '\n' :: rest) = some ([], name, ']' :: '\n' :: rest) :=
    bare.key? (by simp; decide) (by simp [dropGap, isGapChar])
  have opened : header? ⟨entries, header⟩ ('[' :: (name.toList ++ ']' :: '\n' :: rest)) =
      some (⟨entries ++ [(name, .table .defined [])], [name]⟩, rest) := by
    obtain ⟨c, others, whole, first⟩ := bare.exists_cons
    have single : c ≠ '[' := by
      rintro rfl
      exact absurd first (by decide)
    rw [header?]
    · simp only [read, change_openTable absent, Option.bind_eq_bind, Option.bind_some]
      rfl
    · intro tail same
      rw [whole] at same
      exact single (List.cons.inj same).1
  rw [line, readLines, show dropGap ('[' :: _) = '[' :: _ from rfl]
  simp only [opened, Option.bind_eq_bind, Option.bind_some]

theorem readLines_field (bare : IsBareKey key) {setting : Setting} (formed : setting.WellFormed)
    (apart : name ∉ front.map Prod.fst) (absent : key ∉ fields.map Prod.fst) (steps : Nat)
    (rest : List Char) :
    readLines (steps + 1) ⟨front ++ [(name, .table .defined fields)], [name]⟩
        (writeField (key, setting) ++ rest) =
      readLines steps ⟨front ++ [(name, .table .defined (fields ++ [(key, .value setting.data)]))], [name]⟩
        rest := by
  have line : writeField (key, setting) ++ rest =
      key.toList ++ ' ' :: '=' :: ' ' :: (setting.write ++ '\n' :: rest) := by
    simp [writeField]
  have value : keyValue? ⟨front ++ [(name, .table .defined fields)], [name]⟩
      (key.toList ++ ' ' :: '=' :: ' ' :: (setting.write ++ '\n' :: rest)) =
      some (⟨front ++ [(name, .table .defined (fields ++ [(key, .value setting.data)]))], [name]⟩, rest) := by
    have read : key? (key.toList ++ ' ' :: '=' :: ' ' :: (setting.write ++ '\n' :: rest)) =
        some ([], key, '=' :: ' ' :: (setting.write ++ '\n' :: rest)) :=
      bare.key? (by simp; decide) (by simp [dropGap, isGapChar])
    have ends : lineEnd? ('\n' :: rest) = some rest := rfl
    simp only [keyValue?, read, setting.dropGap_write, value?_write formed 78, change_putDotted apart absent,
      ends, depthLimit, Option.bind_eq_bind, Option.bind_some]
  have unended := bare.lineEnd? (' ' :: '=' :: ' ' :: (setting.write ++ '\n' :: rest))
  obtain ⟨c, others, whole, first⟩ := bare.exists_cons
  have noHeader : c ≠ '[' := by
    rintro rfl
    exact absurd first (by decide)
  rw [line, readLines, bare.dropGap_append]
  rw [whole, List.cons_append] at value unended ⊢
  simp only [unended, value, Option.bind_eq_bind, Option.bind_some]

end Lines

/-! ### Documents -/

def nodeOf (field : String × Setting) : String × Node := (field.1, .value field.2.data)

theorem readLines_fields {front : Entries} {name : String} (apart : name ∉ front.map Prod.fst)
    (fields : Entries) {part : Part} (bare : ∀ field ∈ part, IsBareKey field.1)
    (formed : ∀ field ∈ part, field.2.WellFormed) (distinct : (fields.map Prod.fst ++ part.map Prod.fst).Nodup)
    (steps : Nat) (rest : List Char) :
    readLines (part.length + steps) ⟨front ++ [(name, .table .defined fields)], [name]⟩
        (part.flatMap writeField ++ rest) =
      readLines steps ⟨front ++ [(name, .table .defined (fields ++ part.map nodeOf))], [name]⟩ rest := by
  induction part generalizing fields with
  | nil => simp
  | cons field part ih =>
    have absent : field.1 ∉ fields.map Prod.fst := by
      intro member
      exact (List.nodup_append.mp distinct).2.2 _ member _ List.mem_cons_self rfl
    have others : ((fields ++ [nodeOf field]).map Prod.fst ++ part.map Prod.fst).Nodup := by
      simpa [nodeOf] using distinct
    have count : (field :: part).length + steps = part.length + steps + 1 := by
      rw [List.length_cons]
      omega
    rw [List.flatMap_cons, List.append_assoc, count,
      readLines_field (bare field List.mem_cons_self) (formed field List.mem_cons_self) apart absent]
    have later := ih (fields ++ [nodeOf field]) (fun other member => bare other (List.mem_cons_of_mem _ member))
      (fun other member => formed other (List.mem_cons_of_mem _ member)) others
    rw [List.append_assoc, List.singleton_append, ← List.map_cons] at later
    exact later

namespace Written

def lineCount (written : Written) : Nat := (written.map fun part => part.2.length + 1).sum

def entries (written : Written) : Entries :=
  written.map fun part => (part.1, .table .defined (part.2.map nodeOf))

theorem readLines_parts {written : Written} (names : ∀ part ∈ written, IsBareKey part.1)
    (parts : ∀ part ∈ written, part.2.WellFormed) (front : Entries)
    (distinct : (front.map Prod.fst ++ written.map Prod.fst).Nodup) (header : List String) (steps : Nat) :
    (readLines (written.lineCount + steps) ⟨front, header⟩
      (written.flatMap fun part => writeHeader part.1 ++ part.2.flatMap writeField)).map Document.entries =
      some (front ++ written.entries) := by
  induction written generalizing front header with
  | nil =>
    have none_left : lineCount [] + steps = steps := Nat.zero_add steps
    rw [none_left]
    cases steps <;> simp [readLines, dropGap, entries]
  | cons part written ih =>
    have absent : part.1 ∉ front.map Prod.fst := by
      intro member
      exact (List.nodup_append.mp distinct).2.2 _ member _ List.mem_cons_self rfl
    have formed := parts part List.mem_cons_self
    have count : lineCount (part :: written) + steps = part.2.length + (lineCount written + steps) + 1 := by
      simp only [lineCount, List.map_cons, List.sum_cons]
      omega
    have others : ((front ++ entries [part]).map Prod.fst ++ written.map Prod.fst).Nodup := by
      simpa [entries] using distinct
    have later := ih (fun other member => names other (List.mem_cons_of_mem _ member))
      (fun other member => parts other (List.mem_cons_of_mem _ member)) (front ++ entries [part]) others [part.1]
    rw [List.flatMap_cons, List.append_assoc, count, readLines_header (names part List.mem_cons_self) absent,
      readLines_fields absent [] formed.keys formed.settings formed.distinct]
    rw [List.append_assoc, entries, entries, ← List.map_append, List.singleton_append] at later
    exact later

theorem length_le_length_fields (part : Part) : part.length ≤ (part.flatMap writeField).length := by
  induction part with
  | nil => simp
  | cons field part ih =>
    rw [List.flatMap_cons, List.length_append, List.length_cons]
    have line : 1 ≤ (writeField field).length := by
      simp [writeField]
      omega
    omega

theorem lineCount_le (written : Written) : written.lineCount ≤ written.write.toList.length := by
  rw [write, String.toList_ofList]
  induction written with
  | nil => simp [lineCount]
  | cons part written ih =>
    rw [List.flatMap_cons, List.length_append, List.length_append, lineCount, List.map_cons, List.sum_cons]
    have header : 1 ≤ (writeHeader part.1).length := by simp [writeHeader]
    have fields := length_le_length_fields part.2
    rw [lineCount] at ih
    omega

theorem fieldsOf_eq_map (entries : Entries) :
    fieldsOf entries = entries.map fun (key, node) => (key, node.toData) := by
  induction entries with
  | nil => simp [fieldsOf]
  | cons entry entries ih => simp [fieldsOf, ih]

/-- A document of parts with flags and texts is read as a record of records. -/
theorem read?_write {written : Written} (formed : written.WellFormed) :
    read? written.write = some (.record (written.map fun part =>
      (part.1, .record (part.2.map fun field => (field.1, field.2.data))))) := by
  obtain ⟨spare, enough⟩ := Nat.exists_eq_add_of_le written.lineCount_le
  have run := readLines_parts formed.names formed.parts [] (by simpa using formed.distinct) [] spare
  rw [← enough, List.nil_append] at run
  unfold read?
  dsimp only
  split
  · rename_i rest marked
    cases written <;> simp [write, writeHeader] at marked
  · obtain ⟨document, read, entries⟩ := Option.map_eq_some_iff.mp run
    rw [write, String.toList_ofList] at read ⊢
    rw [read, Option.map_some, entries, fieldsOf_eq_map]
    simp [Written.entries, Node.toData, fieldsOf_eq_map, nodeOf]

end Written

end TableScript.Toml
