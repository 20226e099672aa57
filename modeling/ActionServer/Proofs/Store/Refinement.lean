import ActionServer.Proofs.Store.RecordMap
import ActionServer.Proofs.Store.Stores
import ActionServer.Store.Persistence

/-!
# A collection behind its access is a map

Actions write a collection through `Persistence` only: an element without identity is inserted, one
with an identity updates the record that has it. So every record carries an identity that the
collection was given, no two carry the same one, and the list of records that is searched for a first
match behaves like a map from identities to documents.

`Refines` relates the stores to that map. It holds at the start, each call keeps it, and a call
answers what the map says.
-/

namespace ActionServer

/-- A call of an action to its store. -/
inductive StoreRequest where
  | persist (element : Document)
  | fetch (query : FetchQuery)

/-- The stores after a call. -/
def StoreRequest.apply (p : Persistence) (s : Stores) : StoreRequest → Stores
  | persist element => (p.persist element s).2
  | fetch query => (p.fetch query s).2

theorem Persistence.persist_of_none {element : Document} (unknown : element.identity? = none)
    (action name : String) (s : Stores) :
    Persistence.persist ⟨action, some name⟩ element s = s.insert name element := by
  simp only [Persistence.persist, unknown]

theorem Persistence.persist_of_some {element : Document} {id : Json}
    (known : element.identity? = some id) (action name : String) (s : Stores) :
    Persistence.persist ⟨action, some name⟩ element s =
      s.update name (Document.identityFilter id) element := by
  simp only [Persistence.persist, known]

namespace Stores

/-- The stores after calls to one collection, each made by the action of a name. -/
def afterCalls (s : Stores) (name : String) (calls : List (String × StoreRequest)) : Stores :=
  calls.foldl (fun s call => call.2.apply ⟨call.1, some name⟩ s) s

/-- The records of a collection are those of a map, under identities that the collection was given. -/
structure Refines (s : Stores) (name : String) (m : RecordMap) : Prop where
  served : s.Serves name
  records : s.recordsOf name = m.documents
  keyed : ∀ e ∈ m.entries, e.2.get? idField = some (.string e.1)
  given : ∀ key ∈ m.keys, ∃ n < s.drawn name, s.supply name n = key
  usable : ∀ n, s.supply name n ≠ ""
  unrepeated : Function.Injective (s.supply name)

namespace Refines

variable {s : Stores} {name : String} {m : RecordMap}

/-- The next identity is no key yet. -/
theorem fresh_not_mem (r : s.Refines name m) : s.fresh name ∉ m.keys := by
  intro member
  obtain ⟨n, below, same⟩ := r.given _ member
  rw [fresh_eq] at same
  exact Nat.ne_of_lt below (r.unrepeated same)

theorem hasId_iff (r : s.Refines name m) {e : String × Document} (member : e ∈ m.entries)
    (id : Json) : e.2.hasId id = true ↔ id = .string e.1 :=
  Document.hasId_iff_of_string (r.keyed e member) id

theorem hasId_of_get? (r : s.Refines name m) (id : Json) :
    (m.get? id).isSome ↔ ∃ d ∈ s.recordsOf name, d.hasId id = true := by
  rw [r.records]
  simp only [RecordMap.get?, RecordMap.documents, Option.isSome_map, List.find?_isSome,
    List.mem_map, exists_exists_and_eq_and, Json.string_beq_iff]
  constructor
  · rintro ⟨e, member, named⟩
    exact ⟨e, member, (r.hasId_iff member id).mpr named⟩
  · rintro ⟨e, member, named⟩
    exact ⟨e, member, (r.hasId_iff member id).mp named⟩

/-- A question changes nothing but the journal. -/
theorem enter (r : s.Refines name m) (call : StoreCall) : (s.enter call).Refines name m :=
  { r with served := r.served.enter call }

/-- A document without identity is added under the next identity. -/
theorem persist_new (r : s.Refines name m) (action : String) {element : Document}
    (unknown : element.identity? = none) :
    ∃ s', Persistence.persist ⟨action, some name⟩ element s =
        (.ok (element.insert idField (.string (s.fresh name))), s') ∧
      s'.Refines name (m.add (s.fresh name)
        (element.insert idField (.string (s.fresh name))) r.fresh_not_mem) := by
  -- A record with the next identity would have got it from the same supply before.
  have unused : ∀ d ∈ s.recordsOf name, d.hasId (.string (s.fresh name)) = false := by
    rw [r.records]
    intro d member
    obtain ⟨e, own, rfl⟩ := List.mem_map.mp member
    rw [Bool.eq_false_iff]
    intro taken
    have same := Json.string.inj ((r.hasId_iff own _).mp taken)
    exact r.fresh_not_mem (List.mem_map.mpr ⟨e, own, same.symm⟩)
  refine ⟨_, (Persistence.persist_of_none unknown action name s).trans
    (insert_fresh r.served unknown unused), ?_⟩
  have drawn : (((s.enter (.insert name)).issue name (s.fresh name)).put
      ⟨name, s.recordsOf name ++ [element.insert idField (.string (s.fresh name))]⟩).drawn name =
      s.drawn name + 1 := by
    rw [drawn_put, drawn_issue_self, drawn_enter]
  refine
    { served := ((r.served.enter _).issue _ _).put _
      records := ?_, keyed := ?_, given := ?_, usable := r.usable, unrepeated := r.unrepeated }
  · rw [recordsOf_put, if_pos rfl, RecordMap.documents_add, r.records]
  · intro e member
    rcases List.mem_append.mp member with old | last
    · exact r.keyed e old
    · rw [List.mem_singleton.mp last]
      exact Document.get?_insert_self _ _ _
  · intro key member
    rw [drawn]
    simp only [RecordMap.keys, RecordMap.add, List.map_append, List.mem_append, List.map_cons,
      List.map_nil, List.mem_singleton] at member
    rcases member with old | rfl
    · obtain ⟨n, below, same⟩ := r.given key old
      exact ⟨n, Nat.lt_succ_of_lt below, same⟩
    · exact ⟨s.drawn name, Nat.lt_succ_self _, rfl⟩

/-- The record of an identity stands at one place, and replacing it in the map writes that place. -/
theorem place (r : s.Refines name m) {id : Json} {old : Document} (present : m.get? id = some old)
    (new : Document) :
    ∃ before after, s.recordsOf name = before ++ old :: after ∧
      (m.replace id new).documents = before ++ new :: after ∧ old.hasId id = true ∧
      (∀ d ∈ before, d.hasId id = false) ∧ ∀ d ∈ after, d.hasId id = false := by
  obtain ⟨key, before, after, rfl, entries, earlier, later⟩ := RecordMap.entries_of_get? present
  have others (part : List (String × Document)) (within : ∀ e ∈ part, e ∈ m.entries)
      (different : ∀ e ∈ part, e.1 ≠ key) :
      ∀ d ∈ part.map (·.2), d.hasId (.string key) = false := by
    intro d member
    obtain ⟨e, own, rfl⟩ := List.mem_map.mp member
    rw [Bool.eq_false_iff]
    intro fits
    exact different e own (Json.string.inj ((r.hasId_iff (within e own) _).mp fits)).symm
  refine ⟨before.map (·.2), after.map (·.2), ?_, ?_, ?_, ?_, ?_⟩
  · rw [r.records, RecordMap.documents, entries, List.map_append, List.map_cons]
  · rw [RecordMap.documents, m.entries_replace new entries earlier later, List.map_append,
      List.map_cons]
  · have within : (key, old) ∈ m.entries := by simp [entries]
    exact (r.hasId_iff within _).mpr rfl
  · exact others before (fun e own => entries ▸ List.mem_append_left _ own) earlier
  · exact others after
      (fun e own => entries ▸ List.mem_append_right _ (List.mem_cons_of_mem _ own)) later

/-- A document with the identity of a record takes its place. -/
theorem persist_known (r : s.Refines name m) (action : String) {element old : Document} {id : Json}
    (known : element.identity? = some id) (present : m.get? id = some old) :
    ∃ s', Persistence.persist ⟨action, some name⟩ element s = (.ok element, s') ∧
      s'.Refines name (m.replace id element) := by
  obtain ⟨before, after, records, replaced, fits, earlier, -⟩ := r.place present element
  have updated := update_present r.served element records
    (fun q member => (q.satisfies_identityFilter id).trans (earlier q member))
    ((old.satisfies_identityFilter id).trans fits)
  rw [Collection.replacement_of_identity known] at updated
  refine ⟨_, (Persistence.persist_of_some known action name s).trans updated, ?_⟩
  refine
    { served := (r.served.enter _).put _
      records := ?_, keyed := ?_, given := ?_, usable := r.usable, unrepeated := r.unrepeated }
  · rw [recordsOf_put, if_pos rfl, replaced]
  · -- One entry gets the new document, which carries the identity it is looked up by.
    intro e member
    obtain ⟨e₀, own, rfl⟩ := List.mem_map.mp member
    split
    · rename_i named
      rw [(Json.string_beq_iff _ _).mp named] at known
      exact Document.get?_of_identity? known
    · exact r.keyed e₀ own
  · rw [RecordMap.keys_replace]
    exact r.given

/-- A document with an identity that no record has is refused. -/
theorem persist_absent (r : s.Refines name m) (action : String) {element : Document} {id : Json}
    (known : element.identity? = some id) (absent : m.get? id = none) :
    ∃ s', Persistence.persist ⟨action, some name⟩ element s =
        (.error (.notFound name (Document.identityFilter id).text), s') ∧ s'.Refines name m := by
  have nobody : ∀ d ∈ s.recordsOf name, d.satisfies (Document.identityFilter id) = false := by
    intro d member
    rw [Document.satisfies_identityFilter, Bool.eq_false_iff]
    intro fits
    have found := (r.hasId_of_get? id).mpr ⟨d, member, fits⟩
    rw [absent] at found
    cases found
  exact ⟨_, (Persistence.persist_of_some known action name s).trans
    (update_absent r.served element nobody), r.enter _⟩

/-- At most one record has an identity, so asking for it by a filter finds the same. -/
theorem filter_identity (r : s.Refines name m) (id : Json) :
    m.documents.filter (·.satisfies (Document.identityFilter id)) = (m.get? id).toList := by
  simp only [Document.satisfies_identityFilter, ← r.records]
  cases found : m.get? id with
  | none =>
    rw [Option.toList_none, List.filter_eq_nil_iff]
    intro d member fits
    have present := (r.hasId_of_get? id).mpr ⟨d, member, fits⟩
    rw [found] at present
    cases present
  | some old =>
    obtain ⟨before, after, records, -, fits, earlier, later⟩ := r.place found old
    -- Neither side of the one place has another record that fits.
    have none_of {part : List Document} (misses : ∀ d ∈ part, d.hasId id = false) :
        part.filter (·.hasId id) = [] :=
      List.filter_eq_nil_iff.mpr fun d member => by simp [misses d member]
    rw [records, List.filter_append, none_of earlier,
      List.filter_cons, if_pos fits, none_of later]
    rfl

/-- A fetch answers from the documents of the map, and leaves them as they are. -/
theorem fetch_all (r : s.Refines name m) (action : String) :
    ∃ s', Persistence.fetch ⟨action, some name⟩ .all s = (.ok (.many m.documents), s') ∧
      s'.Refines name m := by
  refine ⟨_, ?_, r.enter (.find name none)⟩
  simp only [Persistence.fetch, find_eq r.served, Collection.find, r.records, Except.map]

theorem fetch_filter (r : s.Refines name m) (action : String) (filter : Document) :
    ∃ s', Persistence.fetch ⟨action, some name⟩ (.filter filter) s =
        (.ok (.many (m.documents.filter (·.satisfies filter))), s') ∧ s'.Refines name m := by
  refine ⟨_, ?_, r.enter (.find name (some filter))⟩
  simp only [Persistence.fetch, find_eq r.served, Collection.find, r.records, Except.map]

theorem fetch_id (r : s.Refines name m) (action : String) (id : Json) :
    ∃ s', Persistence.fetch ⟨action, some name⟩ (.id id) s = (.ok (.one (m.get? id)), s') ∧
      s'.Refines name m := by
  -- The first record that fits is the first of all that fit, and there is one at most.
  have searched : m.documents.find? (·.satisfies (Document.identityFilter id)) = m.get? id := by
    rw [← List.head?_filter, r.filter_identity, Option.head?_toList]
  refine ⟨_, ?_, r.enter (.first name (Document.identityFilter id))⟩
  simp only [Persistence.fetch, first_eq r.served, r.records, searched, Except.map]

private theorem reaches {α : Type} {result : α × Stores} {answer : α} {s' : Stores}
    {m' : RecordMap} (done : result = (answer, s')) (refined : s'.Refines name m') :
    ∃ m' : RecordMap, result.2.Refines name m' :=
  ⟨m', done ▸ refined⟩

/-- Whatever an action asks of the collection, there is a map for what it leaves. -/
theorem call (r : s.Refines name m) (action : String) (request : StoreRequest) :
    ∃ m' : RecordMap, (request.apply ⟨action, some name⟩ s).Refines name m' := by
  cases request with
  | persist element =>
    cases known : element.identity? with
    | none =>
      obtain ⟨s', done, refined⟩ := r.persist_new action known
      exact reaches done refined
    | some id =>
      cases present : m.get? id with
      | none =>
        obtain ⟨s', done, refined⟩ := r.persist_absent action known present
        exact reaches done refined
      | some old =>
        obtain ⟨s', done, refined⟩ := r.persist_known action known present
        exact reaches done refined
  | fetch query =>
    cases query with
    | all =>
      obtain ⟨s', done, refined⟩ := r.fetch_all action
      exact reaches done refined
    | filter fields =>
      obtain ⟨s', done, refined⟩ := r.fetch_filter action fields
      exact reaches done refined
    | id value =>
      obtain ⟨s', done, refined⟩ := r.fetch_id action value
      exact reaches done refined

theorem afterCalls (r : s.Refines name m) (calls : List (String × StoreRequest)) :
    ∃ m' : RecordMap, (s.afterCalls name calls).Refines name m' := by
  induction calls generalizing s m with
  | nil => exact ⟨m, r⟩
  | cons first rest ih =>
    obtain ⟨m₁, next⟩ := r.call first.1 first.2
    exact ih next

end Refines

/-- What the calls of actions do to a collection and answer, told by a map. -/
structure ActsAs (s : Stores) (name : String) (m : RecordMap) : Prop where
  /-- A document without identity becomes the last record, under the next identity, which is new. -/
  insertion : ∀ action element, element.identity? = none →
    ∃ isNew : s.fresh name ∉ m.keys, ∃ s',
      Persistence.persist ⟨action, some name⟩ element s =
        (.ok (element.insert idField (.string (s.fresh name))), s') ∧
      s'.Refines name
        (m.add (s.fresh name) (element.insert idField (.string (s.fresh name))) isNew) ∧
      s'.recordsOf name = s.recordsOf name ++ [element.insert idField (.string (s.fresh name))]
  /-- A document with the identity of a record is put in the place of that one record. -/
  update : ∀ action element id, element.identity? = some id →
    (∃ d ∈ s.recordsOf name, d.hasId id = true) →
    ∃ s' before old after,
      Persistence.persist ⟨action, some name⟩ element s = (.ok element, s') ∧
      s'.Refines name (m.replace id element) ∧
      s.recordsOf name = before ++ old :: after ∧ old.hasId id = true ∧
      (∀ d ∈ before, d.hasId id = false) ∧ (∀ d ∈ after, d.hasId id = false) ∧
      s'.recordsOf name = before ++ element :: after
  /-- A document with the identity of no record is refused, and nothing changes. -/
  refusal : ∀ action element id, element.identity? = some id →
    (¬∃ d ∈ s.recordsOf name, d.hasId id = true) →
    ∃ s', Persistence.persist ⟨action, some name⟩ element s =
        (.error (.notFound name (Document.identityFilter id).text), s') ∧
      s'.Refines name m ∧ s'.recordsOf name = s.recordsOf name
  fetchAll : ∀ action, ∃ s',
    Persistence.fetch ⟨action, some name⟩ .all s = (.ok (.many (s.recordsOf name)), s') ∧
      s'.Refines name m
  fetchFilter : ∀ action filter, ∃ s',
    Persistence.fetch ⟨action, some name⟩ (.filter filter) s =
        (.ok (.many ((s.recordsOf name).filter (·.satisfies filter))), s') ∧ s'.Refines name m
  /-- The record of an identity, which is the only one that has it. -/
  fetchId : ∀ action id, ∃ s',
    Persistence.fetch ⟨action, some name⟩ (.id id) s = (.ok (.one (m.get? id)), s') ∧
      s'.Refines name m ∧
      ∀ d, m.get? id = some d ↔ d ∈ s.recordsOf name ∧ d.hasId id = true
  /-- The filter for an identity and the identity itself find the same record. -/
  sameRecord : ∀ action id d,
    (Persistence.fetch ⟨action, some name⟩ (.filter (Document.identityFilter id)) s).1 =
        .ok (.many [d]) ↔
      (Persistence.fetch ⟨action, some name⟩ (.id id) s).1 = .ok (.one (some d))

theorem Refines.get?_eq_some_iff {s : Stores} {name : String} {m : RecordMap}
    (r : s.Refines name m) (id : Json) (d : Document) :
    m.get? id = some d ↔ d ∈ s.recordsOf name ∧ d.hasId id = true := by
  have found := r.filter_identity id
  simp only [Document.satisfies_identityFilter] at found
  rw [← Option.mem_toList, ← found, List.mem_filter, r.records]

theorem Refines.actsAs {s : Stores} {name : String} {m : RecordMap} (r : s.Refines name m) :
    s.ActsAs name m where
  insertion action element unknown := by
    obtain ⟨s', done, refined⟩ := r.persist_new action unknown
    refine ⟨r.fresh_not_mem, s', done, refined, ?_⟩
    rw [refined.records, RecordMap.documents_add, r.records]
  update action element id known taken := by
    obtain ⟨old, present⟩ := Option.isSome_iff_exists.mp ((r.hasId_of_get? id).mpr taken)
    obtain ⟨s', done, refined⟩ := r.persist_known action known present
    obtain ⟨before, after, records, replaced, fits, earlier, later⟩ := r.place present element
    exact ⟨s', before, old, after, done, refined, records, fits, earlier, later,
      refined.records.trans replaced⟩
  refusal action element id known free := by
    have absent : m.get? id = none := by
      rw [← Option.not_isSome_iff_eq_none, r.hasId_of_get?]
      exact free
    obtain ⟨s', done, refined⟩ := r.persist_absent action known absent
    exact ⟨s', done, refined, refined.records.trans r.records.symm⟩
  fetchAll action := by
    rw [r.records]
    exact r.fetch_all action
  fetchFilter action filter := by
    rw [r.records]
    exact r.fetch_filter action filter
  fetchId action id := by
    obtain ⟨s', done, refined⟩ := r.fetch_id action id
    exact ⟨s', done, refined, r.get?_eq_some_iff id⟩
  sameRecord action id d := by
    obtain ⟨s₁, filtered, -⟩ := r.fetch_filter action (Document.identityFilter id)
    obtain ⟨s₂, looked, -⟩ := r.fetch_id action id
    rw [filtered, looked, r.filter_identity]
    cases m.get? id <;> simp

/-- **A collection behind its access is a map.** After any calls of any actions to a collection that
was empty and whose identities never repeat, the collection is a map from identities to documents in
their order of insertion, and the next call of any action does and answers what the map says. -/
theorem afterCalls_actsAs (s : Stores) (name : String) (served : s.Serves name)
    (start : s.recordsOf name = []) (usable : ∀ n, s.supply name n ≠ "")
    (unrepeated : Function.Injective (s.supply name)) (calls : List (String × StoreRequest)) :
    ∃ m : RecordMap, (s.afterCalls name calls).Refines name m ∧
      (s.afterCalls name calls).ActsAs name m := by
  have begun : s.Refines name .empty :=
    { served, records := start, keyed := by simp [RecordMap.empty]
      given := by simp [RecordMap.empty, RecordMap.keys], usable, unrepeated }
  obtain ⟨m, refined⟩ := begun.afterCalls calls
  exact ⟨m, refined, refined.actsAs⟩

/-- Two actions that share a collection, one of which corrects what the other stored. -/
theorem afterCalls_actsAs_shared :
    let s := Stores.new (fun _ n => String.ofList (List.replicate (n + 1) 'x')) .memory {}
    let calls := [("send", StoreRequest.persist ∅), ("fix", .persist ⟨[("id", .string "x")]⟩),
      ("fix", .persist ⟨[("id", .string "y")]⟩), ("list", .fetch .all)]
    s.Serves "mail" ∧ s.recordsOf "mail" = [] ∧ (∀ n, s.supply "mail" n ≠ "") ∧
      Function.Injective (s.supply "mail") ∧
      ∃ m : RecordMap, (s.afterCalls "mail" calls).Refines "mail" m ∧
        (s.afterCalls "mail" calls).ActsAs "mail" m := by
  intro s calls
  have served : s.Serves "mail" := ⟨rfl, rfl⟩
  have usable : ∀ n, s.supply "mail" n ≠ "" := by
    intro n same
    have := congrArg String.toList same
    simp [s, Stores.new] at this
  have unrepeated : Function.Injective (s.supply "mail") := by
    intro n k same
    have := congrArg List.length (String.ofList_injective same)
    simpa using this
  exact ⟨served, rfl, usable, unrepeated,
    afterCalls_actsAs s "mail" served rfl usable unrepeated calls⟩

end Stores

end ActionServer
