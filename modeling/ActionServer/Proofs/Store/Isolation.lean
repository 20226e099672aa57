import ActionServer.Proofs.Store.Stores
import ActionServer.Store.Persistence
import ActionServer.World

/-!
# What stays in one collection

A computation stays in a collection if it leaves every other one as it is and if nothing else decides
what it answers and what it makes of this one. Both are asked for at once because they are proved by
the same steps: each is kept when computations follow one another, so it is enough to look at a single
access and a single write. Identities are numbered for each collection, so that what is made for
others does not count.
-/

namespace ActionServer

namespace Stores

/-- Two stores are the same as far as one collection is concerned: the ways to it, its records and
the identities that it gets next. -/
structure SameAt (name : String) (s t : Stores) : Prop where
  medium : s.medium = t.medium
  outages : s.outages = t.outages
  supply : s.supply name = t.supply name
  drawn : s.drawn name = t.drawn name
  records : s.records? name = t.records? name

namespace SameAt

variable {name : String} {s t u : Stores}

theorem refl (name : String) (s : Stores) : SameAt name s s := ⟨rfl, rfl, rfl, rfl, rfl⟩

theorem trans (first : SameAt name s t) (second : SameAt name t u) : SameAt name s u :=
  ⟨first.medium.trans second.medium, first.outages.trans second.outages,
    first.supply.trans second.supply, first.drawn.trans second.drawn,
    first.records.trans second.records⟩

theorem symm (same : SameAt name s t) : SameAt name t s :=
  ⟨same.medium.symm, same.outages.symm, same.supply.symm, same.drawn.symm, same.records.symm⟩

/-- The journal says nothing about a collection. -/
theorem enter (same : SameAt name s t) (call other : StoreCall) :
    SameAt name (s.enter call) (t.enter other) :=
  ⟨same.medium, same.outages, same.supply, same.drawn, same.records⟩

theorem issue (same : SameAt name s t) (owner id : String) :
    SameAt name (s.issue owner id) (t.issue owner id) := by
  refine ⟨same.medium, same.outages, same.supply, ?_, same.records⟩
  have before := same.drawn
  simp only [Stores.drawn, Stores.issue, List.filter_cons] at before ⊢
  split <;> simp [before]

theorem put (same : SameAt name s t) (c : Collection) : SameAt name (s.put c) (t.put c) := by
  refine ⟨same.medium, same.outages, same.supply, same.drawn, ?_⟩
  have before := same.records
  simp only [Stores.records?, get?_put] at before ⊢
  split
  · rfl
  · exact before

/-- An identity for one collection is none for another. -/
theorem of_issue {owner : String} (other : owner ≠ name) (s : Stores) (id : String) :
    SameAt name s (s.issue owner id) := by
  refine ⟨rfl, rfl, rfl, ?_, rfl⟩
  simp [Stores.drawn, Stores.issue, other]

theorem of_put {c : Collection} (other : c.name ≠ name) (s : Stores) : SameAt name s (s.put c) := by
  refine ⟨rfl, rfl, rfl, rfl, ?_⟩
  rw [Stores.records?, Stores.records?, get?_put, if_neg other]

theorem recordsOf_eq (same : SameAt name s t) : s.recordsOf name = t.recordsOf name := by
  rw [recordsOf, recordsOf, same.records]

theorem fresh_eq (same : SameAt name s t) : s.fresh name = t.fresh name := by
  rw [Stores.fresh_eq, Stores.fresh_eq, same.supply, same.drawn]

end SameAt

end Stores

/-- A computation on a state with stores stays in the collection it is bound to, or in none. -/
structure StaysIn {σ α : Type} (stores : σ → Stores) (bound : Option String) (f : σ → α × σ) :
    Prop where
  /-- Every other collection is left as it is. -/
  others : ∀ w name, bound ≠ some name → (stores w).SameAt name (stores (f w).2)
  /-- The answer and what becomes of the collection are decided by the collection. -/
  own : ∀ w v, (∀ name, bound = some name → (stores w).SameAt name (stores v)) →
    (f w).1 = (f v).1 ∧
      ∀ name, bound = some name → (stores (f w).2).SameAt name (stores (f v).2)

namespace StaysIn

variable {σ α β : Type} {stores : σ → Stores} {bound : Option String}

theorem of_one {name : String} {f : σ → α × σ}
    (others : ∀ w other, name ≠ other → (stores w).SameAt other (stores (f w).2))
    (own : ∀ w v, (stores w).SameAt name (stores v) →
      (f w).1 = (f v).1 ∧ (stores (f w).2).SameAt name (stores (f v).2)) :
    StaysIn stores (some name) f := by
  constructor
  · exact fun w other apart => others w other fun same => apart (congrArg some same)
  · intro w v same
    obtain ⟨answer, left⟩ := own w v (same name rfl)
    exact ⟨answer, fun other bound => Option.some.inj bound ▸ left⟩

theorem pure (a : α) : StaysIn stores bound fun w => (a, w) :=
  ⟨fun w name _ => .refl name (stores w), fun _ _ same => ⟨rfl, same⟩⟩

/-- What follows on an answer may depend on it. -/
theorem bind {f : σ → α × σ} {g : α → σ → β × σ} (first : StaysIn stores bound f)
    (next : ∀ w, StaysIn stores bound (g (f w).1)) :
    StaysIn stores bound fun w => g (f w).1 (f w).2 := by
  constructor
  · intro w name other
    exact (first.others w name other).trans ((next w).others _ name other)
  · intro w v same
    obtain ⟨answer, later⟩ := first.own w v same
    rw [← answer]
    exact (next w).own _ _ later

theorem map {f : σ → α × σ} (g : α → β) (stays : StaysIn stores bound f) :
    StaysIn stores bound fun w => (g (f w).1, (f w).2) :=
  stays.bind (g := fun a w => (g a, w)) fun _ => .pure _

/-- On the stores of a world, all else in the world stands by. -/
theorem lift {f : Stores → α × Stores} (stays : StaysIn id bound f) :
    StaysIn World.stores bound fun w => ((f w.stores).1, { w with stores := (f w.stores).2 }) :=
  ⟨fun w => stays.others w.stores, fun w v => stays.own w.stores v.stores⟩

end StaysIn

namespace Stores

/-- What an access hands out, with or without an outage. -/
private theorem access_def (s : Stores) (name : String) (call : StoreCall) :
    s.access name call = match s.medium with
      | .closedDatabase => (.error (.backend closedPoolMessage), s)
      | .memory =>
        match s.outages.access.lookup name with
        | some e => (.error e, s.enter call)
        | none => (.ok ⟨name, s.recordsOf name⟩, s.enter call) := by
  have given := get?_getD_eq (s.enter call) name
  rw [recordsOf_enter] at given
  rw [← given]
  rfl

theorem access_stays (name : String) (call : StoreCall) :
    StaysIn id (some name) fun s => s.access name call := by
  refine .of_one (fun s other _ => ?_) fun s t same => ?_
  · have entered : s.SameAt other (s.enter call) := ⟨rfl, rfl, rfl, rfl, rfl⟩
    simp only [access_def, id]
    split
    · exact .refl other s
    · split <;> exact entered
  · -- The way to the collection is the same in both, and so is what lies there.
    have same : SameAt name s t := same
    have entered : SameAt name (s.enter call) (t.enter call) := same.enter call call
    simp only [access_def, id, same.medium, same.outages, same.recordsOf_eq]
    split
    · exact ⟨rfl, same⟩
    · split <;> exact ⟨rfl, entered⟩

/-- Goes on with the collection that an access handed out. -/
private def handOn {α : Type} (next : Collection → Stores → Except StoreError α × Stores) :
    Except StoreError Collection → Stores → Except StoreError α × Stores
  | .error e, s => (.error e, s)
  | .ok c, s => next c s

/-- What follows on an access gets the collection of that name, or the error. -/
private theorem access_then {α : Type} {name : String} (call : StoreCall)
    {next : Collection → Stores → Except StoreError α × Stores}
    (stays : ∀ c, c.name = name → StaysIn id (some name) (next c)) :
    StaysIn id (some name) fun s => match s.access name call with
      | (.error e, s) => (.error e, s)
      | (.ok c, s) => next c s := by
  have parts : (fun s : Stores => match s.access name call with
      | (.error e, s) => (.error e, s)
      | (.ok c, s) => next c s) =
      fun s => handOn next (s.access name call).1 (s.access name call).2 := by
    funext s
    rcases s.access name call with ⟨_ | _, _⟩ <;> rfl
  rw [parts]
  refine (access_stays name call).bind fun s => ?_
  cases reached : (s.access name call).1 with
  | error e => exact .pure _
  | ok c =>
    have named : c.name = name := by
      rw [access_def] at reached
      split at reached
      · cases reached
      · split at reached <;> cases reached
        rfl
    exact stays c named

/-- A collection that is put back is seen under its own name alone. -/
private theorem put_stays {α : Type} (a : α) (c : Collection) :
    StaysIn id (some c.name) fun s => (a, s.put c) :=
  .of_one (fun s _ apart => .of_put apart s) fun _ _ same => ⟨rfl, same.put c⟩

private theorem insert_name {c grown : Collection} {fresh : String} {element record : Document}
    (inserted : c.insert fresh element = .ok (record, grown)) : grown.name = c.name := by
  simp only [Collection.insert] at inserted
  split at inserted
  · cases inserted
    rfl
  · split at inserted <;> cases inserted
    rfl

/-- What is appended to a collection is seen in no other one. -/
theorem append_stays (c : Collection) (element : Document) :
    StaysIn id (some c.name) fun s => s.append c element := by
  refine .of_one (fun s other apart => ?_) fun s t same => ?_
  · have issued : s.SameAt other
        (if element.identity?.isNone then s.issue c.name (s.fresh c.name) else s) := by
      split
      · exact .of_issue apart s _
      · exact .refl other s
    simp only [append, id]
    split
    · exact issued
    · rename_i record grown inserted
      exact issued.trans (.of_put (insert_name inserted ▸ apart) _)
  · -- Both draw the same identity, whether or not the element is then taken.
    have same : SameAt c.name s t := same
    have issued : SameAt c.name
        (if element.identity?.isNone then s.issue c.name (t.fresh c.name) else s)
        (if element.identity?.isNone then t.issue c.name (t.fresh c.name) else t) := by
      split
      · exact same.issue _ _
      · exact same
    simp only [append, id, same.fresh_eq]
    split
    · exact ⟨rfl, issued⟩
    · exact ⟨rfl, issued.put _⟩

variable (name : String)

theorem insert_stays (element : Document) :
    StaysIn id (some name) fun s => s.insert name element :=
  access_then _ fun c own => own ▸ append_stays c element

theorem update_stays (filter element : Document) :
    StaysIn id (some name) fun s => s.update name filter element := by
  refine access_then _ fun c own => ?_
  subst own
  cases replaced : Collection.replaceFirst filter element c.records with
  | none => simpa only [Collection.update, replaced] using .pure _
  | some found =>
    simpa only [Collection.update, replaced] using
      put_stays (Except.ok found.1) ⟨c.name, found.2⟩

theorem find_stays (filter : Option Document) :
    StaysIn id (some name) fun s => s.find name filter :=
  access_then _ fun _ _ => .pure _

theorem first_stays (filter : Document) :
    StaysIn id (some name) fun s => s.first name filter :=
  access_then _ fun _ _ => .pure _

end Stores

namespace Persistence

variable (p : Persistence)

theorem persist_stays (element : Document) :
    StaysIn id p.collection fun s => p.persist element s := by
  obtain ⟨action, _ | name⟩ := p
  · exact .pure _
  · cases known : element.identity? with
    | none => simpa only [persist, known] using Stores.insert_stays name element
    | some id => simpa only [persist, known] using Stores.update_stays name _ element

theorem fetch_stays (query : FetchQuery) :
    StaysIn id p.collection fun s => p.fetch query s := by
  obtain ⟨action, _ | name⟩ := p
  · exact .pure _
  · cases query with
    | all => exact (Stores.find_stays name none).map _
    | filter fields => exact (Stores.find_stays name (some fields)).map _
    | id value => exact (Stores.first_stays name _).map _

end Persistence

end ActionServer
