import ActionServer.Proofs.Json.Text
import ActionServer.Proofs.Text.Utf8

/-!
# Values read back

A value with integers for numbers, with ordered keys and without an object that is marked as a
wrapping is read back from its compact text exactly if it is not nested beyond the limit. The text
taken apart is the value again up to its form; what remains is that forming the value counts the
nesting and puts the fields in their order, which they have already.
-/

namespace ActionServer

/-! ### Fields in order -/

namespace Document

/-- A key that is greater than all others goes to the end. -/
theorem insertField_of_greatest {key : String} {value : Json} {fields : List (String × Json)}
    (greatest : ∀ f ∈ fields, f.1 < key) :
    insertField key value fields = fields ++ [(key, value)] := by
  induction fields with
  | nil => rfl
  | cons f rest ih =>
    obtain ⟨k, v⟩ := f
    have above : k < key := greatest (k, v) List.mem_cons_self
    have different : key ≠ k := fun same => String.lt_irrefl k (same ▸ above)
    have behind : ¬key < k := fun below => String.lt_irrefl k (String.lt_trans above below)
    rw [insertField, if_neg different, if_neg behind,
      ih fun f member => greatest f (List.mem_cons_of_mem _ member), List.cons_append]

/-- Fields in order make the document that they are. -/
theorem insertAll_of_ordered {fields rest : List (String × Json)}
    (ordered : (fields ++ rest).Pairwise fun f g => f.1 < g.1) :
    insertAll ⟨fields⟩ rest = ⟨fields ++ rest⟩ := by
  induction rest generalizing fields with
  | nil => simp [insertAll]
  | cons f rest ih =>
    -- What is there already stands in front of the next field, so that goes to the end.
    have greatest : ∀ g ∈ fields, g.1 < f.1 := fun g member =>
      (List.pairwise_append.mp ordered).2.2 g member f List.mem_cons_self
    have placed : insert ⟨fields⟩ f.1 f.2 = ⟨fields ++ [f]⟩ :=
      congrArg Document.mk (insertField_of_greatest greatest)
    have later : insertAll ⟨fields ++ [f]⟩ rest = ⟨fields ++ [f] ++ rest⟩ :=
      ih (by rwa [List.append_assoc, List.singleton_append])
    rw [List.append_assoc, List.singleton_append] at later
    rw [← later, insertAll, List.foldl_cons, placed, insertAll]

end Document

theorem Json.ofFields_of_ordered {fields : List (String × Json)}
    (ordered : Json.isOrdered (.object fields) = true) : Json.ofFields fields = .object fields := by
  have placed : Document.ofFields fields = ⟨[] ++ fields⟩ :=
    Document.insertAll_of_ordered (of_decide_eq_true ordered)
  rw [Json.ofFields, placed, Document.toJson, List.nil_append]

theorem Json.isOrdered_pair {key other : String} (before : key < other) (x y : Json) :
    Json.isOrdered (.object [(key, x), (other, y)]) = true :=
  decide_eq_true (List.pairwise_pair.mpr before)

/-- An object of two fields in order. -/
theorem Json.ofFields_pair {key other : String} (before : key < other) (x y : Json) :
    Json.ofFields [(key, x), (other, y)] = .object [(key, x), (other, y)] :=
  Json.ofFields_of_ordered (Json.isOrdered_pair before x y)

namespace Json

mutual

/-- A value whose keys stand in order is in normal form. -/
theorem normal_of_ordered (v : Json) (ordered : v.all isOrdered = true) : v.normal = v := by
  cases v with
  | null | bool b | number n | string s => rfl
  | array items =>
    rw [all, Bool.and_eq_true] at ordered
    rw [normal, normalItems_of_ordered items ordered.2]
  | object fields =>
    rw [all, Bool.and_eq_true] at ordered
    rw [normal, normalFields_of_ordered fields ordered.2, ofFields_of_ordered ordered.1]

theorem normalItems_of_ordered (items : List Json) (ordered : allItems isOrdered items = true) :
    normalItems items = items := by
  cases items with
  | nil => rfl
  | cons x xs =>
    rw [allItems, Bool.and_eq_true] at ordered
    rw [normalItems, normal_of_ordered x ordered.1, normalItems_of_ordered xs ordered.2]

theorem normalFields_of_ordered (fields : List (String × Json))
    (ordered : allFields isOrdered fields = true) : normalFields fields = fields := by
  cases fields with
  | nil => rfl
  | cons field rest =>
    obtain ⟨key, x⟩ := field
    rw [allFields, Bool.and_eq_true] at ordered
    rw [normalFields, normal_of_ordered x ordered.1, normalFields_of_ordered rest ordered.2]

end

end Json

namespace Raw

/-! ### Forming the value -/

variable {unwrap : String → Option Json}

/-- An object that is not marked as a wrapping has the value of its fields. -/
theorem valueWith_object {fields : List (Option String × Raw)}
    (unmarked : fields.head?.bind (·.1) ≠ some wrapKey) (d : Nat) :
    valueWith unwrap d (object fields) =
      if d = 0 then none else (fieldsWith unwrap (d - 1) fields).map Json.ofFields := by
  -- A single field with a text is looked at apart, but only the reserved key makes a difference.
  by_cases single : ∃ key s, fields = [(some key, string (some s))]
  · obtain ⟨key, s, rfl⟩ := single
    have other : key ≠ wrapKey := fun marked => unmarked (by simp [marked])
    simp only [valueWith, if_neg other, fieldsWith, Option.map_some]
  · rw [valueWith, if_neg unmarked]
    exact fun key s shape => single ⟨key, s, shape⟩

/-- The first key of an object is that of the value it was printed from. -/
theorem head_ofFields (fields : List (String × Json)) :
    (ofFields fields).head?.bind (·.1) = fields.head?.map (·.1) := by
  cases fields <;> rfl

mutual

/-- The value of what was written, where its nesting is within the limit. -/
theorem valueWith_ofJson (v : Json) (unmarked : v.all Json.isUnmarked = true) (d : Nat) :
    valueWith unwrap d (ofJson v) = if v.depth ≤ d then some v.normal else none := by
  cases v with
  | null | bool b | number n | string s => simp [ofJson, valueWith, Json.depth, Json.normal]
  | array items =>
    rw [Json.all, Bool.and_eq_true] at unmarked
    rw [ofJson, valueWith, itemsWith_ofItems items unmarked.2, Json.depth, Json.normal]
    by_cases none : d = 0
    · simp [none]
    · by_cases fits : Json.depthOfItems items ≤ d - 1
      · rw [if_neg none, if_pos fits, if_pos (by omega), Option.map_some]
      · rw [if_neg none, if_neg fits, if_neg (by omega), Option.map_none]
  | object fields =>
    rw [Json.all, Bool.and_eq_true] at unmarked
    have other : (ofFields fields).head?.bind (·.1) ≠ some wrapKey := by
      rw [head_ofFields]
      exact of_decide_eq_true unmarked.1
    rw [ofJson, valueWith_object other, fieldsWith_ofFields fields unmarked.2, Json.depth,
      Json.normal]
    by_cases none : d = 0
    · simp [none]
    · by_cases fits : Json.depthOfFields fields ≤ d - 1
      · rw [if_neg none, if_pos fits, if_pos (by omega), Option.map_some]
      · rw [if_neg none, if_neg fits, if_neg (by omega), Option.map_none]

theorem itemsWith_ofItems (items : List Json)
    (unmarked : Json.allItems Json.isUnmarked items = true) (d : Nat) :
    itemsWith unwrap d (ofItems items) =
      if Json.depthOfItems items ≤ d then some (Json.normalItems items) else none := by
  cases items with
  | nil => simp [ofItems, itemsWith, Json.depthOfItems, Json.normalItems]
  | cons x xs =>
    rw [Json.allItems, Bool.and_eq_true] at unmarked
    simp only [ofItems, itemsWith, valueWith_ofJson x unmarked.1 d,
      itemsWith_ofItems xs unmarked.2 d, Json.depthOfItems, Json.normalItems, Nat.max_le]
    by_cases first : x.depth ≤ d <;> by_cases others : Json.depthOfItems xs ≤ d <;>
      simp [first, others]

theorem fieldsWith_ofFields (fields : List (String × Json))
    (unmarked : Json.allFields Json.isUnmarked fields = true) (d : Nat) :
    fieldsWith unwrap d (ofFields fields) =
      if Json.depthOfFields fields ≤ d then some (Json.normalFields fields) else none := by
  cases fields with
  | nil => simp [ofFields, fieldsWith, Json.depthOfFields, Json.normalFields]
  | cons field rest =>
    obtain ⟨key, x⟩ := field
    rw [Json.allFields, Bool.and_eq_true] at unmarked
    rw [ofFields, Json.normalFields]
    unfold fieldsWith
    simp only [valueWith_ofJson x unmarked.1 d, fieldsWith_ofFields rest unmarked.2 d,
      Json.depthOfFields, Nat.max_le]
    by_cases first : x.depth ≤ d <;> by_cases others : Json.depthOfFields rest ≤ d <;>
      simp [first, others]

end

/-! ### Sound parts -/

mutual

/-- What stands for a value has a value in every part, so only the nesting can be unsound. -/
theorem isSound_ofJson (v : Json) (d : Nat) : isSound d (ofJson v) = decide (v.depth ≤ d) := by
  cases v with
  | null | bool b | number n | string s => simp [ofJson, isSound, Json.depth]
  | array items =>
    rw [ofJson, isSound, areSound_ofItems items, Json.depth]
    by_cases none : d = 0
    · simp [none]
    · have inner : (Json.depthOfItems items ≤ d - 1) ↔ Json.depthOfItems items + 1 ≤ d := by omega
      simp [none, inner]
  | object fields =>
    rw [ofJson, isSound, haveSound_ofFields fields, Json.depth]
    by_cases none : d = 0
    · simp [none]
    · have inner : (Json.depthOfFields fields ≤ d - 1) ↔ Json.depthOfFields fields + 1 ≤ d := by
        omega
      simp [none, inner]

theorem areSound_ofItems (items : List Json) (d : Nat) :
    areSound d (ofItems items) = decide (Json.depthOfItems items ≤ d) := by
  cases items with
  | nil => simp [ofItems, areSound, Json.depthOfItems]
  | cons x xs =>
    simp only [ofItems, areSound, isSound_ofJson x, areSound_ofItems xs, Json.depthOfItems,
      Nat.max_le, Bool.decide_and]

theorem haveSound_ofFields (fields : List (String × Json)) (d : Nat) :
    haveSound d (ofFields fields) = decide (Json.depthOfFields fields ≤ d) := by
  cases fields with
  | nil => simp [ofFields, haveSound, Json.depthOfFields]
  | cons field rest =>
    obtain ⟨key, x⟩ := field
    simp only [ofFields, haveSound, isSound_ofJson x, haveSound_ofFields rest, Json.depthOfFields,
      Nat.max_le, Bool.decide_and, Option.isSome_some, Bool.true_and]

end

end Raw

/-! ### Whole texts -/

/-- A value is read back from its text if it is not nested beyond the limit; if it is, nothing is
read. -/
theorem Json.ofText?_text {v : Json} (whole : v.all isWhole = true)
    (ordered : v.all isOrdered = true) (unmarked : v.all isUnmarked = true) :
    ofText? v.text = if v.depth ≤ nestingLimit then some v else none := by
  rw [ofText?, read?, Raw.ofText?_text whole, Option.bind_some, Raw.valueWith_ofJson v unmarked,
    normal_of_ordered v ordered]

theorem Json.ofBytes?_encode_text {v : Json} (whole : v.all isWhole = true)
    (ordered : v.all isOrdered = true) (unmarked : v.all isUnmarked = true) :
    ofBytes? (Utf8.encode v.text) = if v.depth ≤ nestingLimit then some v else none := by
  rw [ofBytes?, Utf8.decode_encode]
  exact ofText?_text whole ordered unmarked

end ActionServer
