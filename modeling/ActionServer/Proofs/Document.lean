import ActionServer.Store.Identity

/-!
# Reading and writing documents

What a key reads after a field was written or erased. None of this needs the keys of a document to
stand in order: a key is looked up at its first place, and that is the place that is written.
-/

namespace ActionServer

namespace Document

private theorem find?_insertField (key k : String) (value : Json) (fields : List (String × Json)) :
    ((insertField key value fields).find? (·.1 == k)).map (·.2) =
      if key = k then some value else (fields.find? (·.1 == k)).map (·.2) := by
  induction fields with
  | nil => by_cases same : key = k <;> simp [insertField, same]
  | cons field rest ih =>
    obtain ⟨first, old⟩ := field
    simp only [insertField]
    split
    · rename_i place
      subst place
      by_cases same : key = k <;> simp [same]
    · rename_i other
      split
      · by_cases same : key = k <;> simp [same]
      · by_cases here : first = k
        · subst here
          simp [other]
        · simpa [here] using ih

theorem get?_insert (d : Document) (key k : String) (value : Json) :
    (d.insert key value).get? k = if key = k then some value else d.get? k :=
  find?_insertField key k value d.fields

@[simp] theorem get?_insert_self (d : Document) (key : String) (value : Json) :
    (d.insert key value).get? key = some value := by
  simp [get?_insert]

private theorem find?_erase (key k : String) (fields : List (String × Json)) :
    ((fields.filter (·.1 != key)).find? (·.1 == k)).map (·.2) =
      if key = k then none else (fields.find? (·.1 == k)).map (·.2) := by
  induction fields with
  | nil => simp
  | cons field rest ih =>
    by_cases erased : field.1 = key
    · rw [List.filter_cons_of_neg (by simp [erased]), ih]
      by_cases same : key = k <;> simp [same, erased]
    · rw [List.filter_cons_of_pos (by simp [erased])]
      by_cases here : field.1 = k
      · subst here
        simp [Ne.symm erased]
      · simpa [here] using ih

theorem get?_erase (d : Document) (key k : String) :
    (d.erase key).get? k = if key = k then none else d.get? k :=
  find?_erase key k d.fields

/-- A key is absent from the fields exactly when it reads nothing. -/
theorem get?_eq_none_iff (d : Document) (key : String) :
    d.get? key = none ↔ ∀ field ∈ d.fields, field.1 ≠ key := by
  simp [get?]

/-- Writing fields one after the other leaves under a key what they write there, or else what was
there before. -/
theorem get?_insertAll (d : Document) (fields : List (String × Json)) (k : String) :
    (d.insertAll fields).get? k = ((ofFields fields).get? k).or (d.get? k) := by
  induction fields generalizing d with
  | nil => simp [insertAll, ofFields, empty, get?]
  | cons field rest ih =>
    have head := ih (d.insert field.1 field.2)
    have fresh := ih (empty.insert field.1 field.2)
    simp only [insertAll, ofFields, List.foldl_cons] at head fresh ⊢
    rw [head, fresh, get?_insert, get?_insert, Option.or_assoc]
    split <;> rfl

theorem get?_ofFields_cons (field : String × Json) (rest : List (String × Json)) (k : String) :
    (ofFields (field :: rest)).get? k =
      ((ofFields rest).get? k).or (if field.1 = k then some field.2 else none) := by
  have first := get?_insertAll (empty.insert field.1 field.2) rest k
  rw [get?_insert] at first
  exact first

/-- Leaving out the fields of some keys changes nothing for the others. -/
theorem get?_ofFields_filter (keep : String → Bool) (fields : List (String × Json)) (k : String) :
    (ofFields (fields.filter fun field => keep field.1)).get? k =
      if keep k then (ofFields fields).get? k else none := by
  induction fields with
  | nil => simp [ofFields, insertAll, empty, get?]
  | cons field rest ih =>
    rw [get?_ofFields_cons, List.filter_cons]
    split
    · rw [get?_ofFields_cons, ih]
      by_cases same : field.1 = k
      · subst same; simp [*]
      · simp [same]
    · rw [ih]
      by_cases same : field.1 = k
      · subst same; simp [*]
      · simp [same]

end Document

end ActionServer
