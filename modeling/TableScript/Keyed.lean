/-! Lists of keys and what they stand for. The first entry of a key counts, as in `List.lookup`. -/
namespace TableScript.Keyed

variable {κ α : Type} [BEq κ]

def put : List (κ × α) → κ → α → List (κ × α)
  | [], key, value => [(key, value)]
  | (other, old) :: rest, key, value =>
    if other == key then (key, value) :: rest else (other, old) :: put rest key value

theorem lookup_map {β : Type} (entries : List (κ × α)) (f : α → β) (key : κ) :
    (entries.map fun entry => (entry.1, f entry.2)).lookup key = (entries.lookup key).map f := by
  induction entries with
  | nil => rfl
  | cons entry entries ih =>
    rw [List.map_cons, List.lookup_cons, List.lookup_cons, ih]
    split <;> rfl

variable [LawfulBEq κ]

theorem lookup_put_self (entries : List (κ × α)) (key : κ) (value : α) :
    (put entries key value).lookup key = some value := by
  induction entries with
  | nil => simp [put]
  | cons entry rest ih =>
    obtain ⟨other, old⟩ := entry
    by_cases same : other = key
    · simp [put, same]
    · have apart : (key == other) = false := beq_eq_false_iff_ne.mpr (Ne.symm same)
      simp [put, same, List.lookup_cons, apart, ih]

theorem lookup_put_of_ne (entries : List (κ × α)) {key wanted : κ} (apart : wanted ≠ key) (value : α) :
    (put entries key value).lookup wanted = entries.lookup wanted := by
  have unlike : (wanted == key) = false := beq_eq_false_iff_ne.mpr apart
  induction entries with
  | nil => simp [put, List.lookup_cons, unlike]
  | cons entry rest ih =>
    obtain ⟨other, old⟩ := entry
    by_cases same : other = key
    · simp [put, same, List.lookup_cons, unlike]
    · simp [put, same, List.lookup_cons, ih]

theorem put_append {front : List (κ × α)} {key : κ} (absent : key ∉ front.map Prod.fst)
    (rest : List (κ × α)) (value : α) : put (front ++ rest) key value = front ++ put rest key value := by
  induction front with
  | nil => rfl
  | cons entry front ih =>
    simp only [List.map_cons, List.mem_cons, not_or] at absent
    simp [put, Ne.symm absent.1, ih absent.2]

theorem lookup_of_absent {entries : List (κ × α)} {key : κ} (absent : key ∉ entries.map Prod.fst) :
    entries.lookup key = none := by
  rw [List.lookup_eq_none_iff]
  intro entry member
  rw [bne_iff_ne]
  rintro rfl
  exact absent (List.mem_map_of_mem member)

end TableScript.Keyed
