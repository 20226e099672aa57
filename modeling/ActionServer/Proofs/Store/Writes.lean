import ActionServer.Proofs.Json.Equality
import ActionServer.Proofs.Store.Collection
import Mathlib.Data.List.Induction

/-!
# Identities under raw writes

A collection itself takes any element and any filter. An insertion looks for its identity among the
records before it appends one. An update does not look: what it writes stands where the first
fitting record stood, under whatever identity it brings. So no two records share an identity exactly
as long as no update brings the identity of a record that it does not replace.
-/

namespace ActionServer

namespace Document

/-- Whether two documents have equal values in the field `id`. -/
def sharesId (a b : Document) : Bool :=
  (b.get? idField).any a.hasId

theorem sharesId_of_get? {b : Document} {id : Json} (read : b.get? idField = some id)
    (a : Document) : a.sharesId b = a.hasId id := by
  simp [sharesId, read]

theorem sharesId_comm (a b : Document) : a.sharesId b = b.sharesId a := by
  cases readA : a.get? idField <;> cases readB : b.get? idField <;>
    simp [sharesId, hasId, readA, readB, Json.beq_comm]

/-- Documents that read the same under `id` share it with the same documents. -/
theorem sharesId_congr {b c : Document} (same : b.get? idField = c.get? idField) (a : Document) :
    a.sharesId b = a.sharesId c := by
  simp only [sharesId, same]

end Document

/-- A write to a collection. An insertion comes with the identity that is made for an element which
has none. -/
inductive StoreWrite where
  | insert (fresh : String) (element : Document)
  | update (filter element : Document)

namespace Collection

/-- Carries out a write. One that is refused leaves the collection as it is. -/
def write (c : Collection) : StoreWrite → Except StoreError Document × Collection
  | .insert fresh element =>
    match c.insert fresh element with
    | .ok (record, after) => (.ok record, after)
    | .error e => (.error e, c)
  | .update filter element =>
    match c.update filter element with
    | .ok (record, after) => (.ok record, after)
    | .error e => (.error e, c)

def afterWrites (c : Collection) (writes : List StoreWrite) : Collection :=
  writes.foldl (fun c write => (c.write write).2) c

@[simp] theorem afterWrites_nil (c : Collection) : c.afterWrites [] = c := rfl

theorem afterWrites_concat (c : Collection) (writes : List StoreWrite) (last : StoreWrite) :
    c.afterWrites (writes ++ [last]) = ((c.afterWrites writes).write last).2 := by
  simp [afterWrites, List.foldl_append]

/-- No two records share an identity. -/
def Distinct (c : Collection) : Prop :=
  c.records.Pairwise fun a b => a.sharesId b = false

instance (c : Collection) : Decidable c.Distinct :=
  inferInstanceAs (Decidable (List.Pairwise _ _))

/-- Every record has something in the field `id`. -/
def Labelled (c : Collection) : Prop :=
  ∀ r ∈ c.records, (r.get? idField).isSome

/-- An update collides when there is a record for it to replace and it brings the identity of another
one. -/
def Collides (c : Collection) (filter element : Document) : Prop :=
  (∃ r ∈ c.records, r.satisfies filter = true) ∧
    ∃ id, element.identity? = some id ∧
      ∃ q ∈ c.records.eraseP (·.satisfies filter), q.hasId id = true

/-! ### What one write does -/

/-- What is inserted has an identity, its own or the one that is made. -/
theorem get?_identified (fresh : String) (element : Document) :
    ∃ id, (identified fresh element).get? idField = some id := by
  simp only [identified]
  split
  · rename_i id known
    exact ⟨id, Document.get?_of_identity? known⟩
  · exact ⟨_, Document.get?_insert_self _ _ _⟩

theorem write_insert_taken {c : Collection} {fresh : String} {element : Document} {id : Json}
    (read : (identified fresh element).get? idField = some id) (taken : c.holds id = true) :
    c.write (.insert fresh element) =
      (.error (.invalidDocument s!"Duplicate id {id.text} in '{c.name}'"), c) := by
  simp only [write, insert, read, taken, if_true]

theorem write_insert_free {c : Collection} {fresh : String} {element : Document} {id : Json}
    (read : (identified fresh element).get? idField = some id) (free : c.holds id = false) :
    c.write (.insert fresh element) =
      (.ok (identified fresh element),
        { c with records := c.records ++ [identified fresh element] }) := by
  simp only [write, insert, read, free, Bool.false_eq_true, if_false]

/-- A filter fits no record, or there is a first one that it fits. -/
theorem fits_none_or_first (filter : Document) (records : List Document) :
    (∀ r ∈ records, r.satisfies filter = false) ∨
      ∃ before r after, records = before ++ r :: after ∧
        (∀ q ∈ before, q.satisfies filter = false) ∧ r.satisfies filter = true := by
  cases first : records.find? (·.satisfies filter) with
  | none =>
    left
    simpa using first
  | some r =>
    obtain ⟨fits, before, after, place, earlier⟩ := List.find?_eq_some_iff_append.mp first
    exact .inr ⟨before, r, after, place, by simpa using earlier, fits⟩

theorem write_update_absent {c : Collection} {filter : Document} (element : Document)
    (absent : ∀ r ∈ c.records, r.satisfies filter = false) :
    c.write (.update filter element) = (.error (.notFound c.name filter.text), c) := by
  simp only [write, update, replaceFirst_eq_none absent]

theorem write_update_present {c : Collection} {filter r : Document} {before after : List Document}
    (element : Document) (records : c.records = before ++ r :: after)
    (earlier : ∀ q ∈ before, q.satisfies filter = false) (fits : r.satisfies filter = true) :
    c.write (.update filter element) =
      (.ok (replacement r element),
        { c with records := before ++ replacement r element :: after }) := by
  simp only [write, update, records, replaceFirst_append earlier fits]

/-- A record that is replaced passes its identity on, unless the element brings its own. -/
theorem get?_replacement {r : Document} (labelled : (r.get? idField).isSome) (element : Document) :
    (replacement r element).get? idField = (element.identity?).or (r.get? idField) := by
  obtain ⟨old, read⟩ := Option.isSome_iff_exists.mp labelled
  cases known : element.identity? with
  | none => simp [replacement, known, read]
  | some id => simpa [replacement, known] using Document.get?_of_identity? known

/-! ### What a write keeps -/

theorem Labelled.write {c : Collection} (labelled : c.Labelled) (w : StoreWrite) :
    (c.write w).2.Labelled := by
  cases w with
  | insert fresh element =>
    obtain ⟨id, read⟩ := get?_identified fresh element
    cases taken : c.holds id with
    | true => rwa [write_insert_taken read taken]
    | false =>
      rw [write_insert_free read taken]
      intro r member
      rcases List.mem_append.mp member with old | last
      · exact labelled r old
      · rw [List.mem_singleton.mp last, read]
        rfl
  | update filter element =>
    rcases fits_none_or_first filter c.records with absent | ⟨before, r, after, place, earlier, fits⟩
    · rwa [write_update_absent element absent]
    · rw [write_update_present element place earlier fits]
      have member : ∀ q, q ∈ before ++ r :: after → (q.get? idField).isSome := place ▸ labelled
      intro q inside
      rcases List.mem_append.mp inside with early | late
      · exact member q (List.mem_append_left _ early)
      rcases List.mem_cons.mp late with rfl | late
      · have own := member r (by simp)
        rw [get?_replacement own, Option.isSome_or, own, Bool.or_true]
      · exact member q (by simp [late])

/-- An insertion keeps identities apart. -/
theorem Distinct.insert {c : Collection} (distinct : c.Distinct) (fresh : String)
    (element : Document) : (c.write (.insert fresh element)).2.Distinct := by
  obtain ⟨id, read⟩ := get?_identified fresh element
  cases taken : c.holds id with
  | true => rwa [write_insert_taken read taken]
  | false =>
    rw [write_insert_free read taken]
    rw [holds_eq, List.any_eq_false] at taken
    refine List.pairwise_append.mpr ⟨distinct, List.pairwise_singleton _ _, ?_⟩
    intro old member new last
    rw [List.mem_singleton.mp last, Document.sharesId_of_get? read]
    simpa using taken old member

/-- Putting a record in the place of another keeps identities apart exactly when it shares its own
with none of the others. -/
private theorem pairwise_replace_iff {before after : List Document} {r new : Document}
    (distinct : (before ++ r :: after).Pairwise fun a b => a.sharesId b = false) :
    ((before ++ new :: after).Pairwise fun a b => a.sharesId b = false) ↔
      ∀ q ∈ before ++ after, q.sharesId new = false := by
  rw [List.pairwise_append, List.pairwise_cons] at distinct ⊢
  obtain ⟨early, ⟨-, late⟩, across⟩ := distinct
  constructor
  · rintro ⟨-, ⟨following, -⟩, preceding⟩ q member
    rcases List.mem_append.mp member with inside | inside
    · exact preceding q inside new List.mem_cons_self
    · rw [Document.sharesId_comm]
      exact following q inside
  · intro apart
    refine ⟨early, ⟨fun q inside => ?_, late⟩, fun p inside q other => ?_⟩
    · rw [Document.sharesId_comm]
      exact apart q (List.mem_append_right _ inside)
    · rcases List.mem_cons.mp other with rfl | other
      · exact apart p (List.mem_append_left _ inside)
      · exact across p inside q (List.mem_cons_of_mem _ other)

/-- An update keeps identities apart exactly when it does not collide. -/
theorem Distinct.update_iff {c : Collection} (distinct : c.Distinct) (labelled : c.Labelled)
    (filter element : Document) :
    (c.write (.update filter element)).2.Distinct ↔ ¬c.Collides filter element := by
  rcases fits_none_or_first filter c.records with absent | ⟨before, r, after, place, earlier, fits⟩
  · rw [write_update_absent element absent]
    refine iff_of_true distinct ?_
    rintro ⟨⟨r, member, fits⟩, -⟩
    rw [absent r member] at fits
    cases fits
  rw [write_update_present element place earlier fits]
  rw [Distinct, place] at distinct
  have own : (r.get? idField).isSome := labelled r (by simp [place])
  have kept := get?_replacement own element
  have others : c.records.eraseP (·.satisfies filter) = before ++ after := by
    rw [place, List.eraseP_append_right _ (by simpa using earlier)]
    simp [fits]
  have found : ∃ q ∈ c.records, q.satisfies filter = true := ⟨r, by simp [place], fits⟩
  refine (pairwise_replace_iff distinct).trans ?_
  simp only [Collides, others, found, true_and]
  cases known : element.identity? with
  | none =>
    -- The identity stays, and the record that had it shared it with no other.
    rw [known, Option.none_or] at kept
    refine iff_of_true (fun q member => ?_) nofun
    rw [Document.sharesId_congr kept]
    exact (pairwise_replace_iff distinct).mp distinct q member
  | some id =>
    rw [known, Option.some_or] at kept
    simp [Document.sharesId_of_get? kept]

/-! ### Runs -/

theorem Labelled.afterWrites {c : Collection} (labelled : c.Labelled) (writes : List StoreWrite) :
    (c.afterWrites writes).Labelled := by
  induction writes generalizing c with
  | nil => exact labelled
  | cons first rest ih => exact ih (labelled.write first)

/-- **Identities stay apart unless an update collides.** An insertion with an identity that a record
has is refused and changes nothing. In a run from the empty collection no two records ever share an
identity if and only if none of its updates brings the identity of a record that it does not
replace: such an update is carried out. -/
theorem afterWrites_distinct_iff (name : String) (writes : List StoreWrite) :
    (∀ (c : Collection) (fresh : String) (element : Document) (id : Json),
      (identified fresh element).get? idField = some id → c.holds id = true →
        (∃ e, (c.write (.insert fresh element)).1 = .error e) ∧
          (c.write (.insert fresh element)).2 = c) ∧
    ((∀ earlier, earlier <+: writes → (afterWrites ⟨name, []⟩ earlier).Distinct) ↔
      ∀ earlier filter element, earlier ++ [.update filter element] <+: writes →
        ¬(afterWrites ⟨name, []⟩ earlier).Collides filter element) := by
  have labelled (earlier : List StoreWrite) : (afterWrites ⟨name, []⟩ earlier).Labelled :=
    Labelled.afterWrites (c := ⟨name, []⟩) nofun earlier
  refine ⟨fun c fresh element id read taken => ?_, fun apart earlier filter element within => ?_,
    fun apart earlier within => ?_⟩
  · rw [write_insert_taken read taken]
    exact ⟨⟨_, rfl⟩, rfl⟩
  · have before := apart earlier ((List.prefix_append _ _).trans within)
    have after := apart _ within
    rw [afterWrites_concat] at after
    exact (before.update_iff (labelled earlier) filter element).mp after
  · induction earlier using List.reverseRecOn with
    | nil => exact List.Pairwise.nil
    | append_singleton earlier last ih =>
      have before := ih ((List.prefix_append _ _).trans within)
      rw [afterWrites_concat]
      cases last with
      | insert fresh element => exact before.insert fresh element
      | update filter element =>
        exact (before.update_iff (labelled earlier) filter element).mpr
          (apart earlier filter element within)

/-- An update that moves the identity of one record onto another is carried out. -/
theorem afterWrites_update_duplicates :
    let a : Document := ⟨[("id", .string "a")]⟩
    let b : Document := ⟨[("id", .string "b")]⟩
    let c := afterWrites ⟨"people", []⟩ [.insert "x" a, .insert "y" b]
    c.Distinct ∧ (∃ record, (c.write (.update a b)).1 = .ok record) ∧
      ¬(c.write (.update a b)).2.Distinct := by
  refine ⟨by decide +kernel, ⟨⟨[("id", .string "b")]⟩, rfl⟩, by decide +kernel⟩

end Collection

end ActionServer
