import ActionServer.Proofs.Store.Readback

/-!
# The algebra of revisions

A document that brings an identity is put in the place of the first record that has it. It has that
identity itself, so whatever looked up the record that it replaces now finds it there: no revision
moves the place of any identity, in any list of records. Hence revisions of different records do not
notice each other, a revision that is made twice is made once, and of revisions of one record only
the last is left.
-/

namespace ActionServer

/-- A document with an identity, which is stored to change the record that has it. -/
structure Revision where
  document : Document
  id : Json
  known : document.identity? = some id

namespace Revision

/-- The place of the record that is changed: the first one with the identity. -/
def place? (a : Revision) (records : List Document) : Option Nat :=
  records.findIdx? (·.hasId a.id)

/-- The records after the revision. -/
def revise (records : List Document) (a : Revision) : List Document :=
  match a.place? records with
  | some n => records.set n a.document
  | none => records

/-- What the action is told. -/
def answer (a : Revision) (name : String) (records : List Document) :
    Except StoreError Document :=
  match a.place? records with
  | some _ => .ok a.document
  | none => .error (.notFound name (Document.identityFilter a.id).text)

end Revision

/-! ### Places stay -/

theorem Json.beq_congr_left {u v : Json} (same : (u == v) = true) (w : Json) :
    (u == w) = (v == w) := by
  have back : (v == u) = true := by rw [Json.beq_comm]; exact same
  rw [Bool.eq_iff_iff]
  exact ⟨Json.beq_trans back, Json.beq_trans same⟩

namespace Document

theorem hasId_congr {i j : Json} (same : (i == j) = true) (d : Document) :
    d.hasId i = d.hasId j := by
  cases read : d.get? idField with
  | none => simp [hasId, read]
  | some own =>
    simp only [hasId, read, Option.any_some]
    rw [Json.beq_comm own i, Json.beq_comm own j]
    exact Json.beq_congr_left same own

/-- Documents that share an identity are looked up by the same values. -/
theorem hasId_eq_of_hasId {d e : Document} {i : Json} (one : d.hasId i = true)
    (other : e.hasId i = true) (j : Json) : d.hasId j = e.hasId j := by
  simp only [hasId, Option.any_eq_true] at one other
  obtain ⟨v, readD, equalD⟩ := one
  obtain ⟨w, readE, equalE⟩ := other
  simp only [hasId, readD, readE, Option.any_some]
  rw [Json.beq_congr_left equalD, Json.beq_congr_left equalE]

/-- A document has one identity. -/
theorem beq_of_hasId {d : Document} {i j : Json} (one : d.hasId i = true)
    (other : d.hasId j = true) : (i == j) = true := by
  simp only [hasId, Option.any_eq_true] at one other
  obtain ⟨v, read, equal⟩ := one
  obtain ⟨w, again, equal'⟩ := other
  obtain rfl := Option.some.inj (read.symm.trans again)
  rw [← Json.beq_congr_left equal]
  exact equal'

end Document

namespace Revision

variable {a b : Revision} {records : List Document}

theorem hasId_document (a : Revision) : a.document.hasId a.id = true :=
  Document.hasId_of_get? (Document.get?_of_identity? a.known)

theorem revise_of_place {n : Nat} (place : a.place? records = some n) :
    a.revise records = records.set n a.document := by
  simp only [revise, place]

theorem revise_of_none (nowhere : a.place? records = none) : a.revise records = records := by
  simp only [revise, nowhere]

/-- At the place of a revision there is a record with its identity. -/
theorem hasId_of_place {n : Nat} (place : a.place? records = some n) :
    ∃ inside : n < records.length, records[n].hasId a.id = true := by
  obtain ⟨inside, fits, -⟩ := List.findIdx?_eq_some_iff_getElem.mp place
  exact ⟨inside, fits⟩

/-- After a revision every place is looked up by the same values as before. -/
theorem map_hasId_revise (a : Revision) (records : List Document) (id : Json) :
    (a.revise records).map (·.hasId id) = records.map (·.hasId id) := by
  cases place : a.place? records with
  | none => rw [revise_of_none place]
  | some n =>
    obtain ⟨inside, fits⟩ := hasId_of_place place
    have listed : n < (records.map (·.hasId id)).length := by simpa using inside
    -- Old and new record share an identity, so no value tells them apart.
    have same : a.document.hasId id = (records.map (·.hasId id))[n] := by
      rw [List.getElem_map]
      exact Document.hasId_eq_of_hasId a.hasId_document fits id
    rw [revise_of_place place, List.map_set, same, List.set_getElem_self]

/-- No revision moves the place of any. -/
theorem place?_revise (a b : Revision) (records : List Document) :
    b.place? (a.revise records) = b.place? records := by
  -- A place depends only on which records are looked up by the identity.
  have looked (l : List Document) : b.place? l = (l.map (·.hasId b.id)).findIdx? (· = true) := by
    rw [List.findIdx?_map]
    simp [place?, Function.comp_def]
  rw [looked, looked, map_hasId_revise]

theorem answer_revise (a b : Revision) (name : String) (records : List Document) :
    b.answer name (a.revise records) = b.answer name records := by
  simp only [answer, place?_revise]

/-- Revisions under equal identities go to one place. -/
theorem place?_congr (same : (a.id == b.id) = true) (records : List Document) :
    a.place? records = b.place? records := by
  simp only [place?, Document.hasId_congr same]

/-- Revisions under different identities never do. -/
theorem ne_of_places (apart : (a.id == b.id) = false) {n m : Nat}
    (first : a.place? records = some n) (second : b.place? records = some m) : n ≠ m := by
  rintro rfl
  obtain ⟨inside, one⟩ := hasId_of_place first
  obtain ⟨_, other⟩ := hasId_of_place second
  rw [Document.beq_of_hasId one other] at apart
  cases apart

/-- Of two revisions of one record only the second is left. -/
theorem revise_revise (same : (a.id == b.id) = true) (records : List Document) :
    b.revise (a.revise records) = b.revise records := by
  have together := place?_congr same records
  have still := place?_revise a b records
  cases place : b.place? records with
  | none =>
    rw [place] at together still
    rw [revise_of_none still, revise_of_none together, revise_of_none place]
  | some n =>
    rw [place] at together still
    rw [revise_of_place still, revise_of_place together, List.set_set, revise_of_place place]

/-- Revisions of different records can be made in either order. -/
theorem revise_comm (apart : (a.id == b.id) = false) (records : List Document) :
    b.revise (a.revise records) = a.revise (b.revise records) := by
  have first := place?_revise a b records
  have second := place?_revise b a records
  cases mine : a.place? records with
  | none =>
    rw [mine] at second
    rw [revise_of_none mine, revise_of_none second]
  | some n =>
    rw [mine] at second
    cases yours : b.place? records with
    | none =>
      rw [yours] at first
      rw [revise_of_none first, revise_of_none yours]
    | some m =>
      -- Two places that differ, so the writes commute.
      rw [yours] at first
      rw [revise_of_place first, revise_of_place mine, revise_of_place second,
        revise_of_place yours, List.set_comm _ _ (ne_of_places apart mine yours)]

/-! ### Many revisions -/

/-- Revisions one after the other. -/
def reviseAll (records : List Document) (as : List Revision) : List Document :=
  as.foldl (fun records a => a.revise records) records

theorem reviseAll_append (records : List Document) (first second : List Revision) :
    reviseAll records (first ++ second) = reviseAll (reviseAll records first) second :=
  List.foldl_append

/-- Revisions of the record of a last one leave no trace. -/
theorem reviseAll_concat {as : List Revision} (same : ∀ a ∈ as, (a.id == b.id) = true)
    (records : List Document) : reviseAll records (as ++ [b]) = b.revise records := by
  induction as generalizing records with
  | nil => rfl
  | cons a rest ih =>
    obtain ⟨first, later⟩ := List.forall_mem_cons.mp same
    exact (ih later (a.revise records)).trans (revise_revise first records)

/-- A revision can be made before any others of other records. -/
theorem reviseAll_forward {as : List Revision} (apart : ∀ b ∈ as, (b.id == a.id) = false)
    (records : List Document) :
    a.revise (reviseAll records as) = reviseAll (a.revise records) as := by
  induction as generalizing records with
  | nil => rfl
  | cons b rest ih =>
    obtain ⟨first, later⟩ := List.forall_mem_cons.mp apart
    have moved := ih later (b.revise records)
    rw [revise_comm first] at moved
    exact moved

variable {ι : Type} [DecidableEq ι]

/-- The first call of one order stands, in any other order that keeps the order of each client,
behind calls of other clients; without it the two orders still agree. -/
private theorem exists_behind_others {first : ι × Revision} {rest order : List (ι × Revision)}
    (each : ∀ i, (first :: rest).filter (·.1 = i) = order.filter (·.1 = i)) :
    ∃ before after, order = before ++ first :: after ∧
      (∀ x ∈ before, x ∈ first :: rest ∧ x.1 ≠ first.1) ∧
      ∀ i, rest.filter (·.1 = i) = (before ++ after).filter (·.1 = i) := by
  have own := (each first.1).symm
  rw [List.filter_cons_of_pos (by simp)] at own
  obtain ⟨before, after, parts, others, -, same⟩ := List.filter_eq_cons_iff.mp own
  subst parts
  have foreign : ∀ x ∈ before, x.1 ≠ first.1 := by simpa using others
  refine ⟨before, after, rfl, fun x member => ⟨?_, foreign x member⟩, fun i => ?_⟩
  · have mine : x ∈ (before ++ first :: after).filter (·.1 = x.1) := by simp [member]
    rw [← each x.1] at mine
    exact (List.mem_filter.mp mine).1
  · by_cases its : first.1 = i
    · subst its
      have none : before.filter (·.1 = first.1) = [] := by simpa using foreign
      rw [List.filter_append, none, List.nil_append, same]
    · have later := each i
      rw [List.filter_cons_of_neg (by simpa using its), List.filter_append,
        List.filter_cons_of_neg (by simpa using its)] at later
      rw [later, List.filter_append]

/-- Revisions of clients, none of which revises a record of another, leave the same records in every
order that keeps the order of each client. -/
theorem reviseAll_eq_of_filter {calls order : List (ι × Revision)}
    (apart : ∀ x ∈ calls, ∀ y ∈ calls, x.1 ≠ y.1 → (x.2.id == y.2.id) = false)
    (each : ∀ i, calls.filter (·.1 = i) = order.filter (·.1 = i)) (records : List Document) :
    reviseAll records (calls.map (·.2)) = reviseAll records (order.map (·.2)) := by
  induction calls generalizing order records with
  | nil =>
    have none : order = [] := by
      rw [List.eq_nil_iff_forall_not_mem]
      intro x member
      have mine : x ∈ order.filter (·.1 = x.1) := by simpa using member
      rw [← each x.1] at mine
      exact List.not_mem_nil mine
    rw [none]
  | cons first rest ih =>
    -- In the other order the first call is made later, and nothing before it touches its record.
    obtain ⟨before, after, rfl, others, left⟩ := exists_behind_others each
    have forward : ∀ b ∈ before.map (·.2), (b.id == first.2.id) = false := by
      intro b member
      obtain ⟨x, inside, rfl⟩ := List.mem_map.mp member
      obtain ⟨known, foreign⟩ := others x inside
      exact apart x known first List.mem_cons_self foreign
    have smaller := ih
      (fun x inX y inY => apart x (List.mem_cons_of_mem _ inX) y (List.mem_cons_of_mem _ inY))
      left (first.2.revise records)
    calc reviseAll records ((first :: rest).map (·.2))
        = reviseAll (first.2.revise records) (rest.map (·.2)) := rfl
      _ = reviseAll (first.2.revise records) ((before ++ after).map (·.2)) := smaller
      _ = reviseAll (reviseAll (first.2.revise records) (before.map (·.2))) (after.map (·.2)) := by
          rw [List.map_append, reviseAll_append]
      _ = reviseAll (first.2.revise (reviseAll records (before.map (·.2)))) (after.map (·.2)) := by
          rw [reviseAll_forward forward]
      _ = reviseAll records ((before ++ first :: after).map (·.2)) := by
          rw [List.map_append, reviseAll_append]
          rfl

end Revision

namespace Stores

variable {s : Stores} {name : String}

/-- Storing a revision answers and changes the records as the revision says. -/
theorem persist_revision (served : s.Serves name) (action : String) (a : Revision) :
    ∃ s', Persistence.persist ⟨action, some name⟩ a.document s =
        (a.answer name (s.recordsOf name), s') ∧
      s'.Serves name ∧ s'.recordsOf name = a.revise (s.recordsOf name) := by
  rw [Persistence.persist_of_some a.known]
  rcases Collection.fits_none_or_first (Document.identityFilter a.id) (s.recordsOf name) with
    absent | ⟨before, old, after, records, earlier, fits⟩
  · have nowhere : a.place? (s.recordsOf name) = none :=
      List.findIdx?_eq_none_iff.mpr fun r member => by
        rw [← Document.satisfies_identityFilter]
        exact absent r member
    refine ⟨_, ?_, served.enter (.update name (Document.identityFilter a.id)), ?_⟩
    · rw [update_absent served a.document absent, Revision.answer, nowhere]
    · rw [recordsOf_enter, Revision.revise_of_none nowhere]
  · have place : a.place? (s.recordsOf name) = some before.length := by
      simp only [Document.satisfies_identityFilter] at earlier fits
      rw [Revision.place?, records, List.findIdx?_append, List.findIdx?_eq_none_iff.mpr earlier]
      simp [List.findIdx?_cons, fits]
    have answered : a.answer name (s.recordsOf name) = .ok a.document := by
      rw [Revision.answer, place]
    rw [update_present served a.document records earlier fits,
      Collection.replacement_of_identity a.known, answered]
    refine ⟨_, rfl, (served.enter _).put _, ?_⟩
    rw [recordsOf_put, if_pos rfl, Revision.revise_of_place place, records]
    simp

/-- Clients that store revisions in turn, each through an action of its own: what each is answered,
and the stores that are left. -/
def persistAll {ι : Type} (s : Stores) (name : String) (action : ι → String) :
    List (ι × Revision) → List (ι × Except StoreError Document) × Stores
  | [] => ([], s)
  | (i, a) :: rest =>
    let (answer, s) := Persistence.persist ⟨action i, some name⟩ a.document s
    let (answers, s) := persistAll s name action rest
    ((i, answer) :: answers, s)

/-- Each revision is answered as if it were the only one. -/
theorem persistAll_eq {ι : Type} (served : s.Serves name) (action : ι → String)
    (calls : List (ι × Revision)) :
    (s.persistAll name action calls).1 =
        calls.map (fun call => (call.1, call.2.answer name (s.recordsOf name))) ∧
      (s.persistAll name action calls).2.recordsOf name =
        Revision.reviseAll (s.recordsOf name) (calls.map (·.2)) := by
  induction calls generalizing s with
  | nil => exact ⟨rfl, rfl⟩
  | cons call rest ih =>
    obtain ⟨s', done, served', records⟩ := persist_revision served (action call.1) call.2
    obtain ⟨answers, left⟩ := ih served'
    simp only [persistAll, done, List.map_cons]
    refine ⟨?_, ?_⟩
    · rw [answers, records]
      simp only [Revision.answer_revise]
    · rw [left, records]
      rfl

/-- **The algebra of revisions.** For any records of a collection and documents with identities:
storing a document twice is storing it once, with the same answer; documents with different
identities can be stored in either order, with the same answers and the same records in the end; of
two documents with one identity only the second leaves a trace. So clients that revise different
records leave the same records and get the same answers in every order in which their calls can
meet, and of any revisions of one record only the last is left. -/
theorem persist_revisions (served : s.Serves name) :
    let persist (action : String) (a : Revision) (s : Stores) :=
      Persistence.persist ⟨action, some name⟩ a.document s
    (∀ p q a,
      (persist q a (persist p a s).2).1 = (persist p a s).1 ∧
      (persist q a (persist p a s).2).2.recordsOf name = (persist p a s).2.recordsOf name) ∧
    (∀ p q a b, (a.id == b.id) = false →
      (persist p a (persist q b s).2).1 = (persist p a s).1 ∧
      (persist q b (persist p a s).2).1 = (persist q b s).1 ∧
      (persist q b (persist p a s).2).2.recordsOf name =
        (persist p a (persist q b s).2).2.recordsOf name) ∧
    (∀ p q a b, (a.id == b.id) = true →
      (persist q b (persist p a s).2).2.recordsOf name = (persist q b s).2.recordsOf name) ∧
    (∀ (ι : Type) [DecidableEq ι] (action : ι → String) (calls order : List (ι × Revision)),
      (∀ x ∈ calls, ∀ y ∈ calls, x.1 ≠ y.1 → (x.2.id == y.2.id) = false) →
      (∀ i, calls.filter (·.1 = i) = order.filter (·.1 = i)) →
      let one := s.persistAll name action calls
      let other := s.persistAll name action order
      one.2.recordsOf name = other.2.recordsOf name ∧
        ∀ i, one.1.filter (·.1 = i) = other.1.filter (·.1 = i)) ∧
    (∀ (ι : Type) (action : ι → String) (calls : List (ι × Revision)) (last : ι × Revision),
      (∀ call ∈ calls, (call.2.id == last.2.id) = true) →
      (s.persistAll name action (calls ++ [last])).2.recordsOf name =
        (s.persistAll name action [last]).2.recordsOf name) := by
  intro persist
  -- What is stored first, and what is stored after it.
  have two (p q : String) (a b : Revision) :
      (persist q b (persist p a s).2).1 = b.answer name (s.recordsOf name) ∧
      (persist q b (persist p a s).2).2.recordsOf name =
        b.revise (a.revise (s.recordsOf name)) := by
    obtain ⟨s₁, first, served₁, records₁⟩ := persist_revision served p a
    obtain ⟨s₂, second, -, records₂⟩ := persist_revision served₁ q b
    simp only [persist, first, second]
    rw [records₂, records₁, Revision.answer_revise]
    exact ⟨rfl, rfl⟩
  have single (p : String) (a : Revision) :
      (persist p a s).1 = a.answer name (s.recordsOf name) ∧
      (persist p a s).2.recordsOf name = a.revise (s.recordsOf name) := by
    obtain ⟨s₁, first, -, records₁⟩ := persist_revision served p a
    simpa only [persist, first, true_and] using records₁
  refine ⟨fun p q a => ⟨?_, ?_⟩, fun p q a b apart => ⟨?_, ?_, ?_⟩, fun p q a b same => ?_,
    fun ι _ action calls order apart each => ⟨?_, fun i => ?_⟩, fun ι action calls last same => ?_⟩
  · rw [(two p q a a).1, (single p a).1]
  · rw [(two p q a a).2, (single p a).2, Revision.revise_revise (Json.beq_self a.id)]
  · rw [(two q p b a).1, (single p a).1]
  · rw [(two p q a b).1, (single q b).1]
  · rw [(two p q a b).2, (two q p b a).2, Revision.revise_comm apart]
  · rw [(two p q a b).2, (single q b).2, Revision.revise_revise same]
  · rw [(persistAll_eq served action calls).2, (persistAll_eq served action order).2]
    exact Revision.reviseAll_eq_of_filter apart each _
  · rw [(persistAll_eq served action calls).1, (persistAll_eq served action order).1]
    simp only [List.filter_map, Function.comp_def, each i]
  · have once : ∀ a ∈ calls.map (·.2), (a.id == last.2.id) = true := by
      intro a member
      obtain ⟨call, inside, rfl⟩ := List.mem_map.mp member
      exact same call inside
    rw [(persistAll_eq served action (calls ++ [last])).2, (persistAll_eq served action [last]).2,
      List.map_append]
    exact Revision.reviseAll_concat once _

/-- Two clients, of which one revises a record twice and the other one a record behind it and one
that is not there, leave the same records in two orders. -/
theorem persist_revisions_two :
    let s₀ := Stores.new (fun _ _ => "x") .memory {}
    let s₁ := (s₀.insert "c" ⟨[("id", .bool true)]⟩).2
    let s := (s₁.insert "c" ⟨[("id", .string "b")]⟩).2
    let first : Revision := ⟨⟨[("id", .bool true), ("n", .null)]⟩, .bool true, rfl⟩
    let again : Revision := ⟨⟨[("id", .bool true), ("n", .string "2")]⟩, .bool true, rfl⟩
    let behind : Revision := ⟨⟨[("id", .string "b"), ("m", .null)]⟩, .string "b", rfl⟩
    let absent : Revision := ⟨⟨[("id", .string "z")]⟩, .string "z", rfl⟩
    let calls := [(true, first), (true, again), (false, behind), (false, absent)]
    let order := [(false, behind), (true, first), (false, absent), (true, again)]
    let action : Bool → String := fun _ => "act"
    s.Serves "c" ∧
      (s.persistAll "c" action order).2.recordsOf "c" = [again.document, behind.document] ∧
      (s.persistAll "c" action calls).2.recordsOf "c" = [again.document, behind.document] := by
  intro s₀ s₁ s first again behind absent calls order action
  have served : s.Serves "c" := ⟨rfl, rfl⟩
  have apart : ∀ x ∈ calls, ∀ y ∈ calls, x.1 ≠ y.1 → (x.2.id == y.2.id) = false := by
    decide +kernel
  have each : ∀ i, calls.filter (·.1 = i) = order.filter (·.1 = i) := by
    intro i
    cases i <;> rfl
  have records : s.recordsOf "c" = [⟨[("id", .bool true)]⟩, ⟨[("id", .string "b")]⟩] := rfl
  have ordered : (s.persistAll "c" action order).2.recordsOf "c" =
      [again.document, behind.document] := by
    rw [(persistAll_eq served action order).2, records]
    rfl
  obtain ⟨-, -, -, orders, -⟩ := persist_revisions served
  exact ⟨served, ordered, (orders Bool action calls order apart each).1.trans ordered⟩

end Stores

end ActionServer
