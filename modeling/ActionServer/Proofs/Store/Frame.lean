import ActionServer.Proofs.Store.Writes

/-!
# What a raw write changes

A write adds one record, changes one, or changes nothing. An element that brings no usable identity
is given one: a fresh one when it is inserted, that of the record which it replaces when it updates.
The latter is right only if every record has an identity to pass on, and so it is: an inserted
record gets a usable one, and a record that replaces another has its own or the one passed on.
-/

namespace ActionServer

theorem Json.isUsableId_iff (v : Json) : v.isUsableId = true ↔ v ≠ .null ∧ v ≠ .string "" := by
  cases v <;> simp [Json.isUsableId]

namespace Document

/-- What is stored of an element, and under which identity: the element as it is if it brings a
usable one, and otherwise the element with one that is given to it. -/
inductive StoredAs (element : Document) (given : Json) : Json → Document → Prop
  | own {id : Json} (known : element.identity? = some id) : StoredAs element given id element
  | given (unknown : element.identity? = none) :
      StoredAs element given given (element.insert idField given)

variable {element record : Document} {given id : Json}

theorem identity?_of_get? {d : Document} (read : d.get? idField = some id)
    (usable : id.isUsableId = true) : d.identity? = some id := by
  simp [identity?, read, usable]

theorem isUsableId_of_identity? {d : Document} (known : d.identity? = some id) :
    id.isUsableId = true := by
  simp only [identity?, Option.filter_eq_some_iff] at known
  exact known.2

/-- What is stored has the identity under which it is stored. -/
theorem StoredAs.get? (stored : element.StoredAs given id record) :
    record.get? idField = some id := by
  cases stored with
  | own known => exact get?_of_identity? known
  | given unknown => exact get?_insert_self _ _ _

/-- It can be identified if the identity that is given, when one is, can be used. -/
theorem StoredAs.identity? (stored : element.StoredAs given id record)
    (usable : element.identity? = none → given.isUsableId = true) : record.identity? = some id := by
  cases stored with
  | own known => exact known
  | given unknown => exact identity?_of_get? (get?_insert_self _ _ _) (usable unknown)

end Document

/-- The identity that is made for an element without one is not empty. -/
def StoreWrite.Supplied : StoreWrite → Prop
  | insert fresh element => element.identity? = none → fresh ≠ ""
  | update _ _ => True

namespace Collection

/-- Every record can be identified. -/
def Known (c : Collection) : Prop :=
  ∀ r ∈ c.records, ∃ id, r.identity? = some id

theorem identified_storedAs (fresh : String) (element : Document) :
    ∃ id, element.StoredAs (.string fresh) id (identified fresh element) := by
  cases known : element.identity? with
  | none =>
    rw [identified_of_none known]
    exact ⟨_, .given known⟩
  | some id =>
    have same : identified fresh element = element := by simp [identified, known]
    rw [same]
    exact ⟨id, .own known⟩

theorem replacement_storedAs {old : Document} {previous : Json}
    (had : old.identity? = some previous) (element : Document) :
    ∃ id, element.StoredAs previous id (replacement old element) := by
  cases known : element.identity? with
  | none =>
    have kept : replacement old element = element.insert idField previous := by
      simp [replacement, known, Document.get?_of_identity? had]
    rw [kept]
    exact ⟨previous, .given known⟩
  | some id =>
    rw [replacement_of_identity known]
    exact ⟨id, .own known⟩

/-! ### Every record can be identified -/

/-- The step: whatever is written, the record that it leaves can be identified, and so can those
that it leaves alone. -/
theorem Known.write {c : Collection} (known : c.Known) {w : StoreWrite} (supplied : w.Supplied) :
    (c.write w).2.Known := by
  cases w with
  | insert fresh element =>
    obtain ⟨id, stored⟩ := identified_storedAs fresh element
    cases taken : c.holds id with
    | true => rwa [write_insert_taken stored.get? taken]
    | false =>
      rw [write_insert_free stored.get? taken]
      intro r member
      rcases List.mem_append.mp member with old | last
      · exact known r old
      · rw [List.mem_singleton.mp last]
        refine ⟨id, stored.identity? fun unknown => ?_⟩
        have filled : fresh ≠ "" := supplied unknown
        simpa [Json.isUsableId] using filled
  | update filter element =>
    rcases fits_none_or_first filter c.records with
      absent | ⟨before, r, after, place, earlier, fits⟩
    · rwa [write_update_absent element absent]
    · rw [write_update_present element place earlier fits]
      have member : ∀ q, q ∈ before ++ r :: after → ∃ id, q.identity? = some id := place ▸ known
      -- The record that is replaced had an identity to pass on.
      obtain ⟨previous, had⟩ := member r (by simp)
      obtain ⟨id, stored⟩ := replacement_storedAs had element
      intro q inside
      rcases List.mem_append.mp inside with early | late
      · exact member q (List.mem_append_left _ early)
      rcases List.mem_cons.mp late with rfl | late
      · exact ⟨id, stored.identity? fun _ => Document.isUsableId_of_identity? had⟩
      · exact member q (by simp [late])

/-- The run: so it is after any writes. -/
theorem Known.afterWrites {c : Collection} (known : c.Known) {writes : List StoreWrite}
    (supplied : ∀ w ∈ writes, w.Supplied) : (c.afterWrites writes).Known := by
  induction writes generalizing c with
  | nil => exact known
  | cons first rest ih =>
    obtain ⟨now, later⟩ := List.forall_mem_cons.mp supplied
    exact ih (known.write now) later

/-! ### What the next write does -/

/-- What any write to a collection does and answers. -/
structure Framed (c : Collection) : Prop where
  /-- Every record has an identity, and it is neither `null` nor the empty text. -/
  usable : ∀ r ∈ c.records, ∃ id, r.get? idField = some id ∧ id ≠ .null ∧ id ≠ .string ""
  /-- An insertion is refused exactly if a record has the identity, and else appends a record. -/
  insertion : ∀ fresh element, ∃ id record, element.StoredAs (.string fresh) id record ∧
    c.write (.insert fresh element) =
      if ∃ r ∈ c.records, r.hasId id = true then
        (.error (.invalidDocument s!"Duplicate id {id.text} in '{c.name}'"), c)
      else (.ok record, { c with records := c.records ++ [record] })
  /-- An update is refused exactly if its filter fits no record. -/
  refusal : ∀ filter element,
    c.write (.update filter element) = (.error (.notFound c.name filter.text), c) ↔
      ∀ r ∈ c.records, r.satisfies filter = false
  /-- Otherwise the first record that it fits is changed in its place. -/
  update : ∀ filter element before old after, c.records = before ++ old :: after →
    (∀ q ∈ before, q.satisfies filter = false) → old.satisfies filter = true →
    ∃ previous id record, old.identity? = some previous ∧ element.StoredAs previous id record ∧
      c.write (.update filter element) =
        (.ok record, { c with records := before ++ record :: after })

theorem Known.framed {c : Collection} (known : c.Known) : c.Framed where
  usable r member := by
    obtain ⟨id, has⟩ := known r member
    have usable := Document.isUsableId_of_identity? has
    exact ⟨id, Document.get?_of_identity? has, (Json.isUsableId_iff id).mp usable⟩
  insertion fresh element := by
    obtain ⟨id, stored⟩ := identified_storedAs fresh element
    refine ⟨id, _, stored, ?_⟩
    split
    · rename_i taken
      have held : c.holds id = true := by
        rw [holds_eq]
        exact List.any_eq_true.mpr taken
      exact write_insert_taken stored.get? held
    · rename_i free
      have unheld : c.holds id = false := by
        rw [holds_eq, List.any_eq_false]
        exact fun r member has => free ⟨r, member, has⟩
      exact write_insert_free stored.get? unheld
  refusal filter element := by
    constructor
    · intro refused
      rcases fits_none_or_first filter c.records with
        absent | ⟨before, r, after, place, earlier, fits⟩
      · exact absent
      · rw [write_update_present element place earlier fits] at refused
        cases refused
    · exact write_update_absent element
  update filter element before old after place earlier fits := by
    -- Without an identity of the old record there would be none to pass on.
    obtain ⟨previous, had⟩ := known old (by simp [place])
    obtain ⟨id, stored⟩ := replacement_storedAs had element
    exact ⟨previous, id, _, had, stored, write_update_present element place earlier fits⟩

/-- **A raw write changes one record or none.** After any writes from the empty collection, with any
elements and filters and as long as no identity that is made is empty, every record has a usable
identity. The next insertion is refused exactly if a record has its identity and otherwise
appends one record; the next update is refused exactly if its filter fits no record and otherwise
changes the first that it fits, which keeps its identity unless it is given another. What is
answered is what is stored, and what is refused changes nothing. -/
theorem afterWrites_framed (name : String) {writes : List StoreWrite}
    (supplied : ∀ w ∈ writes, w.Supplied) : (afterWrites ⟨name, []⟩ writes).Framed :=
  (Known.afterWrites (c := ⟨name, []⟩) nofun supplied).framed

/-- An update with the empty filter and an empty identity goes to the first of two records, which
keeps the identity that was made for it. -/
theorem afterWrites_framed_first :
    let b : Document := ⟨[("id", .string "b")]⟩
    let element : Document := ⟨[("id", .string ""), ("n", .bool true)]⟩
    let writes := [StoreWrite.insert "x" ∅, .insert "y" b]
    let kept := element.insert idField (.string "x")
    (∀ w ∈ writes, w.Supplied) ∧
      (afterWrites ⟨"people", []⟩ writes).write (.update ∅ element) =
        (.ok kept, ⟨"people", [kept, b]⟩) := by
  intro b element writes kept
  have supplied : ∀ w ∈ writes, w.Supplied := by simp [writes, StoreWrite.Supplied]
  obtain ⟨previous, id, record, had, stored, wrote⟩ :=
    (afterWrites_framed "people" supplied).update ∅ element [] ⟨[("id", .string "x")]⟩ [b]
      rfl nofun rfl
  obtain rfl : Json.string "x" = previous := Option.some.inj had
  cases stored with
  | own known => cases known
  | given unknown => exact ⟨supplied, wrote⟩

end Collection

end ActionServer
