import ActionServer.Proofs.Store.Collection
import ActionServer.Store.Stores

/-!
# Collections among the stores of a server

A collection that is kept in memory and meets no outage is read and written through the journal.
For such a collection each access is an operation on its records: `recordsOf` is what is read before
it, and what a write leaves behind is read off by the lemmas on `put`. The other collections keep
their records.
-/

namespace ActionServer

namespace Stores

/-- The records under a name; a collection that was never opened has none. -/
def recordsOf (s : Stores) (name : String) : List Document :=
  (s.records? name).getD []

/-- The collection is kept in memory and every access reaches it. -/
structure Serves (s : Stores) (name : String) : Prop where
  inMemory : s.medium = .memory
  noOutage : s.outages.access.lookup name = none

/-- How many identities a collection was given. -/
def drawn (s : Stores) (name : String) : Nat :=
  (s.issued.filter (·.1 == name)).length

/-- Enters an access in the journal. -/
def enter (s : Stores) (call : StoreCall) : Stores :=
  { s with journal := call :: s.journal }

theorem fresh_eq (s : Stores) (name : String) : s.fresh name = s.supply name (s.drawn name) := rfl

/-! ### What a write leaves behind -/

private theorem find?_put_go (c : Collection) (name : String) (open_ : List Collection) :
    (put.go c open_).find? (·.name == name) =
      if c.name = name then some c else open_.find? (·.name == name) := by
  induction open_ with
  | nil => by_cases same : c.name = name <;> simp [put.go, same]
  | cons old rest ih =>
    simp only [put.go]
    split
    · rename_i place
      have place : old.name = c.name := by simpa using place
      by_cases same : c.name = name <;> simp [place, same]
    · rename_i other
      have other : old.name ≠ c.name := by simpa using other
      by_cases here : old.name = name
      · subst here
        simp [Ne.symm other]
      · simpa [here] using ih

theorem get?_put (s : Stores) (c : Collection) (name : String) :
    (s.put c).get? name = if c.name = name then some c else s.get? name :=
  find?_put_go c name s.collections

theorem recordsOf_put (s : Stores) (c : Collection) (name : String) :
    (s.put c).recordsOf name = if c.name = name then c.records else s.recordsOf name := by
  simp only [recordsOf, records?, get?_put]
  split <;> rfl

@[simp] theorem recordsOf_enter (s : Stores) (call : StoreCall) (name : String) :
    (s.enter call).recordsOf name = s.recordsOf name := rfl

@[simp] theorem drawn_put (s : Stores) (c : Collection) (name : String) :
    (s.put c).drawn name = s.drawn name := rfl

@[simp] theorem drawn_enter (s : Stores) (call : StoreCall) (name : String) :
    (s.enter call).drawn name = s.drawn name := rfl

theorem drawn_issue_self (s : Stores) (name id : String) :
    (s.issue name id).drawn name = s.drawn name + 1 := by
  simp [drawn, issue]

namespace Serves

variable {s : Stores} {name : String}

theorem put (served : s.Serves name) (c : Collection) : (s.put c).Serves name :=
  ⟨served.inMemory, served.noOutage⟩

theorem enter (served : s.Serves name) (call : StoreCall) : (s.enter call).Serves name :=
  ⟨served.inMemory, served.noOutage⟩

theorem issue (served : s.Serves name) (other id : String) : (s.issue other id).Serves name :=
  ⟨served.inMemory, served.noOutage⟩

end Serves

/-! ### Accesses to a collection that is served -/

variable {s : Stores} {name : String}

theorem get?_getD_eq (s : Stores) (name : String) :
    (s.get? name).getD ⟨name, []⟩ = ⟨name, s.recordsOf name⟩ := by
  simp only [recordsOf, records?, get?]
  cases found : s.collections.find? (·.name == name) with
  | none => rfl
  | some c =>
    have named : c.name = name := by simpa using List.find?_some found
    subst named
    rfl

theorem access_eq (served : s.Serves name) (call : StoreCall) :
    s.access name call = (.ok ⟨name, s.recordsOf name⟩, s.enter call) := by
  have given := get?_getD_eq (s.enter call) name
  rw [recordsOf_enter] at given
  unfold access
  split
  · rename_i closed
    simp [served.inMemory] at closed
  · dsimp only
    split
    · rename_i failed
      exact absurd (failed.symm.trans served.noOutage) nofun
    · exact congrArg (fun c => (Except.ok c, s.enter call)) given

/-- An element without identity becomes the last record, under the next identity of the supply. -/
theorem insert_fresh (served : s.Serves name) {element : Document}
    (unknown : element.identity? = none)
    (unused : ∀ r ∈ s.recordsOf name, r.hasId (.string (s.fresh name)) = false) :
    s.insert name element =
      (.ok (element.insert idField (.string (s.fresh name))),
        ((s.enter (.insert name)).issue name (s.fresh name)).put
          ⟨name, s.recordsOf name ++ [element.insert idField (.string (s.fresh name))]⟩) := by
  have inserted := Collection.insert_fresh (c := ⟨name, s.recordsOf name⟩) unknown unused
  have next : (s.enter (.insert name)).fresh name = s.fresh name := rfl
  simp only [insert, access_eq served, append, next, unknown, Option.isNone_none, if_true, inserted]

/-- An update of a record that is not there leaves the records as they are. -/
theorem update_absent (served : s.Serves name) {filter : Document} (element : Document)
    (absent : ∀ r ∈ s.recordsOf name, r.satisfies filter = false) :
    s.update name filter element =
      (.error (.notFound name filter.text), s.enter (.update name filter)) := by
  simp only [update, access_eq served, Collection.update, Collection.replaceFirst_eq_none absent]

/-- An update puts the new record where the first fitting one was. -/
theorem update_present (served : s.Serves name) {filter r : Document} {before after : List Document}
    (element : Document) (records : s.recordsOf name = before ++ r :: after)
    (earlier : ∀ q ∈ before, q.satisfies filter = false) (fits : r.satisfies filter = true) :
    s.update name filter element =
      (.ok (Collection.replacement r element),
        (s.enter (.update name filter)).put
          ⟨name, before ++ Collection.replacement r element :: after⟩) := by
  simp only [update, access_eq served, Collection.update, records,
    Collection.replaceFirst_append earlier fits]

theorem find_eq (served : s.Serves name) (filter : Option Document) :
    s.find name filter =
      (.ok (Collection.find ⟨name, s.recordsOf name⟩ filter), s.enter (.find name filter)) := by
  simp only [find, access_eq served]

theorem first_eq (served : s.Serves name) (filter : Document) :
    s.first name filter =
      (.ok ((s.recordsOf name).find? (·.satisfies filter)), s.enter (.first name filter)) := by
  simp only [first, access_eq served, Collection.first]

end Stores

end ActionServer
