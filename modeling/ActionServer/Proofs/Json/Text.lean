import ActionServer.Proofs.Json.Parts
import ActionServer.Proofs.Json.Token

/-!
# Compact text taken apart

The compact text of a value without doubles is taken apart into the parts that it was printed from,
with the fields in the order of the value. The text that follows is left, as long as it could follow
a value. Reading takes one unit of fuel for each value and one for each item or field; twice the
length of the text is enough for both.
-/

namespace ActionServer.Raw

theorem skipSpaces_cons {c : Char} (solid : isSpace c = false) (cs : List Char) :
    skipSpaces (c :: cs) = c :: cs := by
  simp [skipSpaces, solid]

/-- A text that begins a value: its first character is no blank and closes no array. -/
def Opens (cs : List Char) : Prop :=
  ∃ c rest, cs = c :: rest ∧ isSpace c = false ∧ c ≠ ']'

theorem Opens.append {cs : List Char} (opens : Opens cs) (rest : List Char) :
    Opens (cs ++ rest) := by
  obtain ⟨c, cs, rfl, solid⟩ := opens
  exact ⟨c, cs ++ rest, rfl, solid⟩

/-- The text of an integer begins with a sign or a digit. -/
theorem intChars_eq_cons (i : Int) :
    ∃ c cs, Json.intChars i = c :: cs ∧ (c = '-' ∨ c.isDigit = true) := by
  simp only [Json.intChars]
  split
  · exact ⟨'-', _, rfl, .inl rfl⟩
  · obtain ⟨c, cs, written, digit⟩ := Raw.toDigits_eq_digit_cons i.toNat
    exact ⟨c, cs, written, .inr digit⟩

private theorem ne_of_numeric {c d : Char} (numeric : c = '-' ∨ c.isDigit = true)
    (other : d ≠ '-' ∧ d.isDigit = false) : c ≠ d := by
  rintro rfl
  exact numeric.elim other.1 (by simp [other.2])

theorem opens_chars {v : Json} (whole : v.all Json.isWhole = true) : Opens v.chars := by
  cases v with
  | null => exact ⟨'n', _, rfl, by decide, by decide⟩
  | bool b => cases b <;> exact ⟨_, _, rfl, by decide, by decide⟩
  | number n =>
    cases n with
    | integer i =>
      obtain ⟨c, cs, written, numeric⟩ := intChars_eq_cons i.val
      refine ⟨c, cs, written, ?_, ne_of_numeric numeric (by decide)⟩
      simp only [isSpace, Bool.or_eq_false_iff, beq_eq_false_iff_ne]
      exact ⟨⟨⟨ne_of_numeric numeric (by decide), ne_of_numeric numeric (by decide)⟩,
        ne_of_numeric numeric (by decide)⟩, ne_of_numeric numeric (by decide)⟩
    | double x => cases whole
  | string s => exact ⟨'"', _, rfl, by decide, by decide⟩
  | array items => exact ⟨'[', _, rfl, by decide, by decide⟩
  | object fields => exact ⟨'\x7b', _, rfl, by decide, by decide⟩

/-! ### One value -/

section

variable {fuel : Nat} {rest : List Char}

theorem readValue_integer (i : WideInt) (follows : Follows rest) :
    readValue (fuel + 1) (Json.intChars i.val ++ rest) =
      some (number (some (.integer i)), rest) := by
  have read := readNumber_intChars i follows
  obtain ⟨c, cs, written, numeric⟩ := intChars_eq_cons i.val
  have other (d : Char) (different : d ≠ '-' ∧ d.isDigit = false) : c ≠ d :=
    ne_of_numeric numeric different
  have solid : isSpace c = false := by
    simp [isSpace, other ' ', other '\t', other '\n', other '\r']
  rw [written, List.cons_append] at read ⊢
  simp only [readValue, skipSpaces_cons solid, if_neg (other '"' (by decide)),
    if_neg (other '[' (by decide)), if_neg (other '\x7b' (by decide)),
    if_neg (other 'n' (by decide)), if_neg (other 't' (by decide)), if_neg (other 'f' (by decide)),
    read, Option.map_some]

theorem readValue_string (s : String) :
    readValue (fuel + 1) (Json.quoteChars s ++ rest) = some (string (some s), rest) := by
  obtain ⟨body, written, read⟩ := readString_quoteChars s rest
  have solid : isSpace '"' = false := by decide
  simp only [written, readValue, skipSpaces_cons solid, if_true, read, Option.map_some]

theorem readValue_array {cs : List Char} (opens : Opens cs) :
    readValue (fuel + 1) ('[' :: cs) = readItems fuel [] cs := by
  obtain ⟨c, cs, rfl, solid, inside⟩ := opens
  have bracket : isSpace '[' = false := by decide
  simp only [readValue, skipSpaces_cons bracket, skipSpaces_cons solid]
  rw [if_neg (by decide), if_pos trivial]
  split
  · rename_i closing
    exact absurd (List.cons.inj closing).1 inside
  · rfl

theorem readValue_object (s : String) (cs : List Char) :
    readValue (fuel + 1) ('\x7b' :: (Json.quoteChars s ++ cs)) =
      readFields fuel [] (Json.quoteChars s ++ cs) := by
  have brace : isSpace '\x7b' = false := by decide
  have quote : isSpace '"' = false := by decide
  simp only [readValue, Json.quoteChars, List.cons_append, skipSpaces_cons brace,
    skipSpaces_cons quote]
  rw [if_neg (by decide), if_neg (by decide), if_pos trivial]
  rfl

/-! ### Items and fields -/

/-- An item with more behind it. -/
theorem readItems_more {sofar : List Raw} {cs more : List Char} {x : Raw}
    (read : readValue fuel cs = some (x, ',' :: more)) :
    readItems (fuel + 1) sofar cs = readItems fuel (x :: sofar) more := by
  have comma : isSpace ',' = false := by decide
  simp only [readItems, read, skipSpaces_cons comma]

/-- The last item. -/
theorem readItems_last {sofar : List Raw} {cs : List Char} {x : Raw}
    (read : readValue fuel cs = some (x, ']' :: rest)) :
    readItems (fuel + 1) sofar cs = some (array (sofar.reverse ++ [x]), rest) := by
  have bracket : isSpace ']' = false := by decide
  simp only [readItems, read, skipSpaces_cons bracket, List.reverse_cons]

/-- A field with more behind it. -/
theorem readFields_more {sofar : List (Option String × Raw)} {cs more : List Char} {x : Raw}
    (key : String) (read : readValue fuel cs = some (x, ',' :: more)) :
    readFields (fuel + 1) sofar (Json.quoteChars key ++ ':' :: cs) =
      readFields fuel ((some key, x) :: sofar) more := by
  obtain ⟨body, written, name⟩ := readString_quoteChars key (':' :: cs)
  have quote : isSpace '"' = false := by decide
  have colon : isSpace ':' = false := by decide
  have comma : isSpace ',' = false := by decide
  simp only [written, readFields, skipSpaces_cons quote, name, skipSpaces_cons colon, read,
    skipSpaces_cons comma]

/-- The last field. -/
theorem readFields_last {sofar : List (Option String × Raw)} {cs : List Char} {x : Raw}
    (key : String) (read : readValue fuel cs = some (x, '\x7d' :: rest)) :
    readFields (fuel + 1) sofar (Json.quoteChars key ++ ':' :: cs) =
      some (object (sofar.reverse ++ [(some key, x)]), rest) := by
  obtain ⟨body, written, name⟩ := readString_quoteChars key (':' :: cs)
  have quote : isSpace '"' = false := by decide
  have colon : isSpace ':' = false := by decide
  have brace : isSpace '\x7d' = false := by decide
  simp only [written, readFields, skipSpaces_cons quote, name, skipSpaces_cons colon, read,
    skipSpaces_cons brace, List.reverse_cons]

end

/-! ### Whole texts -/

theorem opens_itemsChars {x : Json} (whole : x.all Json.isWhole = true) (xs : List Json) :
    Opens (Json.itemsChars (x :: xs)) := by
  cases xs with
  | nil => exact opens_chars whole
  | cons y ys => exact (opens_chars whole).append _

theorem fieldsChars_eq (k : String) (x : Json) (others : List (String × Json)) :
    ∃ cs, Json.fieldsChars ((k, x) :: others) = Json.quoteChars k ++ cs := by
  cases others with
  | nil => exact ⟨_, rfl⟩
  | cons f rest => exact ⟨':' :: x.chars ++ ',' :: Json.fieldsChars (f :: rest), by
      simp only [Json.fieldsChars, List.append_assoc, List.cons_append]⟩

-- By the structure of the value. The bound on the fuel is kept: a bracket pays for the step into an
-- array or object, and each item for the step to the next one.
mutual

/-- The text of a value is taken apart into that value. -/
theorem readValue_chars (v : Json) (whole : v.all Json.isWhole = true) {rest : List Char}
    (follows : Follows rest) {fuel : Nat} (enough : 2 * v.chars.length ≤ fuel) :
    readValue fuel (v.chars ++ rest) = some (ofJson v, rest) := by
  -- No text of a value is empty, so there is fuel for the value itself.
  obtain ⟨first, others, written, -⟩ := opens_chars whole
  obtain ⟨fuel, rfl⟩ : ∃ less, fuel = less + 1 := by
    rw [written, List.length_cons] at enough
    exact ⟨fuel - 1, by omega⟩
  cases v with
  | null => rfl
  | bool b => cases b <;> rfl
  | number n =>
    cases n with
    | integer i => exact readValue_integer i follows
    | double x => cases whole
  | string s => exact readValue_string s
  | array items =>
    rw [Json.all, Bool.and_eq_true] at whole
    cases items with
    | nil => rfl
    | cons x xs =>
      have start : x.all Json.isWhole = true := (Bool.and_eq_true _ _ ▸ whole.2).1
      rw [Json.chars, List.append_assoc, List.cons_append, List.singleton_append,
        readValue_array ((opens_itemsChars start xs).append _)]
      simp only [Json.chars, List.length_cons, List.length_append, List.length_nil] at enough
      exact readItems_chars (x :: xs) whole.2 (List.cons_ne_nil x xs) [] rest (by omega)
  | object fields =>
    rw [Json.all, Bool.and_eq_true] at whole
    cases fields with
    | nil => rfl
    | cons field others =>
      obtain ⟨cs, named⟩ := fieldsChars_eq field.1 field.2 others
      simp only [Json.chars, List.length_cons, List.length_append, List.length_nil] at enough
      have read : readFields fuel [] (Json.fieldsChars (field :: others) ++ '\x7d' :: rest) =
          some (object (ofFields (field :: others)), rest) :=
        readFields_chars (field :: others) whole.2 (List.cons_ne_nil field others) [] rest (by omega)
      rw [Json.chars, List.append_assoc, List.cons_append, List.singleton_append]
      rw [named, List.append_assoc] at read ⊢
      rwa [readValue_object]

theorem readItems_chars (items : List Json) (whole : Json.allItems Json.isWhole items = true)
    (present : items ≠ []) (sofar : List Raw) (rest : List Char) {fuel : Nat}
    (enough : 2 * (Json.itemsChars items).length + 1 ≤ fuel) :
    readItems fuel sofar (Json.itemsChars items ++ ']' :: rest) =
      some (array (sofar.reverse ++ ofItems items), rest) := by
  obtain ⟨fuel, rfl⟩ : ∃ less, fuel = less + 1 := ⟨fuel - 1, by omega⟩
  cases items with
  | nil => exact absurd rfl present
  | cons x xs =>
    rw [Json.allItems, Bool.and_eq_true] at whole
    cases xs with
    | nil =>
      have closing : Follows (']' :: rest) := follows_cons (.inr (.inl rfl)) rest
      rw [Json.itemsChars] at enough ⊢
      exact readItems_last (readValue_chars x whole.1 closing (by omega))
    | cons y ys =>
      simp only [Json.itemsChars, List.length_append, List.length_cons] at enough
      -- What follows the first item is a comma, and behind it the text of the others.
      have comma : Follows (',' :: (Json.itemsChars (y :: ys) ++ ']' :: rest)) :=
        follows_cons (.inl rfl) _
      rw [Json.itemsChars, List.append_assoc, List.cons_append,
        readItems_more (readValue_chars x whole.1 comma (by omega)),
        readItems_chars (y :: ys) whole.2 (List.cons_ne_nil y ys) _ rest (by omega)]
      simp [ofItems]

theorem readFields_chars (fields : List (String × Json))
    (whole : Json.allFields Json.isWhole fields = true) (present : fields ≠ [])
    (sofar : List (Option String × Raw)) (rest : List Char) {fuel : Nat}
    (enough : 2 * (Json.fieldsChars fields).length + 1 ≤ fuel) :
    readFields fuel sofar (Json.fieldsChars fields ++ '\x7d' :: rest) =
      some (object (sofar.reverse ++ ofFields fields), rest) := by
  obtain ⟨fuel, rfl⟩ : ∃ less, fuel = less + 1 := ⟨fuel - 1, by omega⟩
  cases fields with
  | nil => exact absurd rfl present
  | cons field others =>
    obtain ⟨key, x⟩ := field
    rw [Json.allFields, Bool.and_eq_true] at whole
    cases others with
    | nil =>
      simp only [Json.fieldsChars, List.length_append, List.length_cons] at enough
      have closing : Follows ('\x7d' :: rest) := follows_cons (.inr (.inr rfl)) rest
      rw [Json.fieldsChars, List.append_assoc, List.cons_append]
      exact readFields_last key (readValue_chars x whole.1 closing (by omega))
    | cons f fs =>
      simp only [Json.fieldsChars, List.length_append, List.length_cons] at enough
      have comma : Follows (',' :: (Json.fieldsChars (f :: fs) ++ '\x7d' :: rest)) :=
        follows_cons (.inl rfl) _
      rw [Json.fieldsChars, List.append_assoc, List.append_assoc, List.cons_append,
        List.cons_append, readFields_more key (readValue_chars x whole.1 comma (by omega)),
        readFields_chars (f :: fs) whole.2 (List.cons_ne_nil f fs) _ rest (by omega)]
      simp [ofFields]

end

/-- The compact text of a value is taken apart into that value. -/
theorem ofText?_text {v : Json} (whole : v.all Json.isWhole = true) :
    ofText? v.text = some (ofJson v) := by
  have read : readValue (2 * v.chars.length + 2) (v.chars ++ []) = some (ofJson v, []) :=
    readValue_chars v whole follows_nil (by omega)
  rw [List.append_nil] at read
  simp only [ofText?, Json.text, String.toList_ofList, ofChars?, read]
  rfl

end ActionServer.Raw
