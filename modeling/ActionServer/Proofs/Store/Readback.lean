import ActionServer.Proofs.Json.Equality
import ActionServer.Proofs.Store.Refinement
import ActionServer.Proofs.Store.Writes

/-!
# Reading back what was stored

What counts as an identity is decided once when a document is stored and once more when a value is
looked up. The two agree on every value that a stored record can have as its identity except objects:
an object that is looked up is a filter and asks for the records with its fields.

The record that a write leaves is the first one under its identity, since an insertion looks for the
identity before it appends and an update replaces the first record that has it. `placed_of_persist`
says so for both ways of storing a document; it holds whatever was written before.
-/

namespace ActionServer

namespace Document

/-- A document has the identity that it reads. -/
theorem hasId_of_get? {d : Document} {id : Json} (read : d.get? idField = some id) :
    d.hasId id = true := by
  simp only [hasId, read, Option.any_some]
  exact Json.beq_self id

/-- Documents that have one identity share it. -/
theorem sharesId_of_hasId {a b : Document} {id : Json} (one : a.hasId id = true)
    (other : b.hasId id = true) : a.sharesId b = true := by
  simp only [hasId, Option.any_eq_true] at one other
  obtain ⟨v, readA, equalA⟩ := one
  obtain ⟨w, readB, equalB⟩ := other
  have back : (id == w) = true := by rw [Json.beq_comm]; exact equalB
  simp only [sharesId, hasId, readA, readB, Option.any_some]
  exact Json.beq_trans equalA back

/-- An identity is never `null`. -/
theorem ne_null_of_identity? {d : Document} {id : Json} (known : d.identity? = some id) :
    id ≠ .null := by
  rintro rfl
  simp only [identity?, Option.filter_eq_some_iff, Json.isUsableId] at known
  exact Bool.false_ne_true known.2

end Document

namespace Stores

variable {s s' : Stores} {name : String}

/-- Only a collection that is served is handed out. -/
theorem serves_of_access {call : StoreCall} {c : Collection}
    (reached : s.access name call = (.ok c, s')) : s.Serves name := by
  simp only [access] at reached
  split at reached
  · cases reached
  · rename_i inMemory
    split at reached
    · cases reached
    · rename_i noOutage
      exact ⟨inMemory, noOutage⟩

theorem serves_of_insert {element r : Document} (stored : s.insert name element = (.ok r, s')) :
    s.Serves name := by
  simp only [insert] at stored
  split at stored
  · cases stored
  · rename_i reached
    exact serves_of_access reached

theorem serves_of_update {filter element r : Document}
    (stored : s.update name filter element = (.ok r, s')) : s.Serves name := by
  simp only [update] at stored
  split at stored
  · cases stored
  · rename_i reached
    exact serves_of_access reached

/-- An identity that is taken is refused, also one that was just made. -/
theorem insert_taken (served : s.Serves name) {element : Document}
    (unknown : element.identity? = none)
    (taken : ∃ q ∈ s.recordsOf name, q.hasId (.string (s.fresh name)) = true) :
    ∃ e, (s.insert name element).1 = .error e := by
  have next : (s.enter (.insert name)).fresh name = s.fresh name := rfl
  have held : (⟨name, s.recordsOf name⟩ : Collection).holds (.string (s.fresh name)) = true := by
    rw [Collection.holds_eq]
    exact List.any_eq_true.mpr taken
  simp only [insert, access_eq served, append, next, Collection.insert,
    Collection.identified_of_none unknown, Document.get?_insert_self, held, if_true]
  exact ⟨_, rfl⟩

/-- A record is the first one under its identity. -/
structure Placed (s : Stores) (name : String) (r : Document) (id : Json)
    (before after : List Document) : Prop where
  served : s.Serves name
  read : r.get? idField = some id
  records : s.recordsOf name = before ++ r :: after
  earlier : ∀ q ∈ before, q.hasId id = false

/-- The first record under an identity is the one that is looked up by it. -/
theorem Placed.first {r : Document} {id : Json} {before after : List Document}
    (placed : s.Placed name r id before after) :
    s.first name (Document.identityFilter id) =
      (.ok (some r), s.enter (.first name (Document.identityFilter id))) := by
  have misses : ∀ q ∈ before, q.satisfies (Document.identityFilter id) = false := by
    intro q member
    rw [Document.satisfies_identityFilter]
    exact placed.earlier q member
  have fits : r.satisfies (Document.identityFilter id) = true := by
    rw [Document.satisfies_identityFilter]
    exact Document.hasId_of_get? placed.read
  have found : (s.recordsOf name).find? (·.satisfies (Document.identityFilter id)) = some r := by
    rw [placed.records, List.find?_append, List.find?_eq_none.mpr (by simpa using misses)]
    simp [fits]
  rw [first_eq placed.served, found]

/-- A document without identity that is stored becomes the last record, with nothing behind it. -/
theorem placed_of_insert {element r : Document} (unknown : element.identity? = none)
    (stored : s.insert name element = (.ok r, s')) :
    s'.Placed name r (.string (s.fresh name)) (s.recordsOf name) [] := by
  have served := serves_of_insert stored
  by_cases taken : ∃ q ∈ s.recordsOf name, q.hasId (.string (s.fresh name)) = true
  · obtain ⟨e, refused⟩ := insert_taken served unknown taken
    rw [stored] at refused
    cases refused
  · have unused : ∀ q ∈ s.recordsOf name, q.hasId (.string (s.fresh name)) = false := by
      simpa using taken
    rw [insert_fresh served unknown unused] at stored
    cases stored
    refine ⟨((served.enter _).issue _ _).put _, Document.get?_insert_self _ _ _, ?_, unused⟩
    rw [recordsOf_put, if_pos rfl]

/-- A document with an identity that is stored stands where the first record with it stood. -/
theorem placed_of_update {element r : Document} {id : Json} (known : element.identity? = some id)
    (stored : s.update name (Document.identityFilter id) element = (.ok r, s')) :
    ∃ before old after, s.recordsOf name = before ++ old :: after ∧ old.hasId id = true ∧
      s'.Placed name r id before after := by
  have served := serves_of_update stored
  rcases Collection.fits_none_or_first (Document.identityFilter id) (s.recordsOf name) with
    absent | ⟨before, old, after, records, earlier, fits⟩
  · rw [update_absent served element absent] at stored
    cases stored
  · rw [update_present served element records earlier fits,
      Collection.replacement_of_identity known] at stored
    cases stored
    simp only [Document.satisfies_identityFilter] at earlier fits
    refine ⟨before, old, after, records, fits, ?_⟩
    refine ⟨(served.enter _).put _, Document.get?_of_identity? known, ?_, earlier⟩
    rw [recordsOf_put, if_pos rfl]

/-- What was stored is the first record under its identity, and the only one if no two records shared
theirs before. -/
theorem placed_of_persist {action : String} {element r : Document}
    (stored : Persistence.persist ⟨action, some name⟩ element s = (.ok r, s')) :
    ∃ id before after, s'.Placed name r id before after ∧ id ≠ .null ∧
      ((⟨name, s.recordsOf name⟩ : Collection).Distinct → ∀ q ∈ after, q.hasId id = false) := by
  cases known : element.identity? with
  | none =>
    rw [Persistence.persist_of_none known] at stored
    exact ⟨_, _, _, placed_of_insert known stored, nofun, fun _ => nofun⟩
  | some id =>
    rw [Persistence.persist_of_some known] at stored
    obtain ⟨before, old, after, records, had, placed⟩ := placed_of_update known stored
    refine ⟨id, before, after, placed, Document.ne_null_of_identity? known, fun distinct => ?_⟩
    -- The records behind shared nothing with the one that was replaced, which had this identity.
    rw [Collection.Distinct, records] at distinct
    obtain ⟨-, ⟨apart, -⟩, -⟩ := by
      simpa only [List.pairwise_append, List.pairwise_cons] using distinct
    intro q member
    rw [Bool.eq_false_iff]
    intro has
    have shared := Document.sharesId_of_hasId had has
    rw [apart q member] at shared
    cases shared

end Stores

/-- A value that is neither `null` nor an object asks for the record of that identity. -/
theorem FetchQuery.ofJson_eq_id {id : Json} (present : id ≠ .null)
    (plain : ∀ fields, id ≠ .object fields) : FetchQuery.ofJson id = .id id := by
  cases id with
  | null => exact absurd rfl present
  | object fields => exact absurd rfl (plain fields)
  | bool | number | string | array => rfl

namespace Persistence

/-- **What was stored is read back under its identity, unless that is an object.** A document that is
stored becomes a record with an identity. If this is no object, looking it up at once gives exactly
that record; an object is a filter, and looking it up gives the records that have its fields. The
record is the only one with its identity if no two records shared theirs before. -/
theorem fetch_of_persist {p : Persistence} {element r : Document} {s s' : Stores}
    (stored : p.persist element s = (.ok r, s')) :
    ∃ name id, p.collection = some name ∧ r.get? idField = some id ∧
      ((∀ fields, id ≠ .object fields) →
        (p.fetch (.ofJson id) s').1 = .ok (.one (some r))) ∧
      (∀ fields, id = .object fields → (p.fetch (.ofJson id) s').1 =
        .ok (.many ((s'.recordsOf name).filter (·.satisfies ⟨fields⟩)))) ∧
      ((⟨name, s.recordsOf name⟩ : Collection).Distinct →
        (s'.recordsOf name).filter (·.hasId id) = [r]) := by
  obtain ⟨action, collection⟩ := p
  cases collection with
  | none => cases stored
  | some name =>
    obtain ⟨id, before, after, placed, present, alone⟩ := Stores.placed_of_persist stored
    refine ⟨name, id, rfl, placed.read, ?_, ?_, ?_⟩
    · intro plain
      rw [FetchQuery.ofJson_eq_id present plain]
      simp only [fetch, placed.first, Except.map]
    · rintro fields rfl
      simp only [FetchQuery.ofJson, fetch, Stores.find_eq placed.served, Collection.find, Except.map]
    · intro distinct
      have none_of {part : List Document} (misses : ∀ q ∈ part, q.hasId id = false) :
          part.filter (·.hasId id) = [] :=
        List.filter_eq_nil_iff.mpr fun q member => by simp [misses q member]
      rw [placed.records, List.filter_append, none_of placed.earlier, List.filter_cons,
        if_pos (Document.hasId_of_get? placed.read), none_of (alone distinct)]
      rfl

/-- A record whose identity is an array, among others, is replaced and read back. -/
theorem fetch_of_persist_array :
    let p : Persistence := ⟨"act", some "c"⟩
    let id : Json := .array [.null, .object [("k", .bool true)]]
    let r : Document := ⟨[("id", id), ("n", .bool true)]⟩
    let s₀ := Stores.new (fun _ _ => "x") .memory {}
    let s₁ := (s₀.insert "c" ⟨[("id", .bool false)]⟩).2
    let s := (s₁.insert "c" ⟨[("id", id)]⟩).2
    (p.persist r s).1 = .ok r ∧
      (p.fetch (.ofJson id) (p.persist r s).2).1 = .ok (.one (some r)) ∧
      ((p.persist r s).2.recordsOf "c").filter (·.hasId id) = [r] := by
  intro p id r s₀ s₁ s
  have stored : p.persist r s = (.ok r, (p.persist r s).2) := rfl
  obtain ⟨name, found, bound, read, plain, -, only⟩ := fetch_of_persist stored
  obtain rfl : "c" = name := Option.some.inj bound
  obtain rfl : id = found := Option.some.inj read
  have distinct : (⟨"c", s.recordsOf "c"⟩ : Collection).Distinct := by decide +kernel
  exact ⟨rfl, plain nofun, only distinct⟩

/-- A record whose identity is an object is stored, and looking its identity up finds nothing. -/
theorem fetch_object_finds_nothing :
    let p : Persistence := ⟨"act", some "c"⟩
    let id : Json := .object [("k", .bool true)]
    let r : Document := ⟨[("id", id)]⟩
    let s := ((Stores.new (fun _ _ => "x") .memory {}).insert "c" r).2
    (⟨"c", s.recordsOf "c"⟩ : Collection).Distinct ∧ ∃ s', p.persist r s = (.ok r, s') ∧
      r.get? idField = some id ∧ s'.recordsOf "c" = [r] ∧
      (p.fetch (.ofJson id) s').1 = .ok (.many []) := by
  intro p id r s
  have distinct : (⟨"c", s.recordsOf "c"⟩ : Collection).Distinct := by decide +kernel
  exact ⟨distinct, _, rfl, rfl, rfl, rfl⟩

end Persistence

end ActionServer
