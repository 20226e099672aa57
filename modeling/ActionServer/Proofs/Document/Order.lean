import ActionServer.Proofs.Document
import Mathlib.Data.List.Nodup

/-!
# Documents with their keys in order

Reading a text and writing a field both leave the keys of a document in increasing order. Such a
document is the only one that reads as it does: two of them that have the same under every key are
the same.
-/

namespace ActionServer.Document

/-- The keys increase, so each stands once. -/
def Ordered (d : Document) : Prop :=
  d.fields.Pairwise fun f g => f.1 < g.1

instance (d : Document) : Decidable d.Ordered :=
  inferInstanceAs (Decidable (List.Pairwise _ _))

/-! ### Writing keeps the order -/

private theorem mem_insertField {key : String} {value : Json} {fields : List (String × Json)}
    {f : String × Json} (member : f ∈ insertField key value fields) :
    f = (key, value) ∨ f ∈ fields := by
  induction fields with
  | nil => exact .inl (List.mem_singleton.mp member)
  | cons first rest ih =>
    simp only [insertField] at member
    split at member
    · exact (List.mem_cons.mp member).imp_right (List.mem_cons_of_mem _)
    split at member
    · exact List.mem_cons.mp member
    · rcases List.mem_cons.mp member with rfl | later
      · exact .inr List.mem_cons_self
      · exact (ih later).imp_right (List.mem_cons_of_mem _)

private theorem pairwise_insertField (key : String) (value : Json) {fields : List (String × Json)}
    (ordered : fields.Pairwise fun f g => f.1 < g.1) :
    (insertField key value fields).Pairwise fun f g => f.1 < g.1 := by
  induction ordered with
  | nil => exact List.pairwise_singleton _ _
  | @cons first rest least ordered ih =>
    simp only [insertField]
    split
    · rename_i same
      exact .cons (same ▸ least) ordered
    · rename_i other
      split
      · rename_i before
        refine .cons (List.forall_mem_cons.mpr ⟨before, fun f member => ?_⟩) (.cons least ordered)
        exact String.lt_trans before (least f member)
      · rename_i behind
        -- What is first stays first: the new key is neither it nor before it.
        refine .cons (fun f member => ?_) ih
        rcases mem_insertField member with rfl | old
        · exact Std.lt_of_le_of_ne (Std.not_lt.mp behind) (Ne.symm other)
        · exact least f old

variable {d e : Document}

theorem Ordered.insert (ordered : d.Ordered) (key : String) (value : Json) :
    (d.insert key value).Ordered :=
  pairwise_insertField key value ordered

theorem Ordered.insertAll (ordered : d.Ordered) (fields : List (String × Json)) :
    (d.insertAll fields).Ordered := by
  induction fields generalizing d with
  | nil => exact ordered
  | cons field rest ih => exact ih (ordered.insert field.1 field.2)

theorem Ordered.erase (ordered : d.Ordered) (key : String) : (d.erase key).Ordered :=
  List.Pairwise.filter _ ordered

/-! ### Reading determines -/

/-- In order, a field is there exactly if its key reads its value. -/
theorem Ordered.mem_fields_iff (ordered : d.Ordered) {k : String} {v : Json} :
    (k, v) ∈ d.fields ↔ d.get? k = some v := by
  obtain ⟨fields⟩ := d
  induction fields with
  | nil => simp [get?]
  | cons first rest ih =>
    obtain ⟨key, value⟩ := first
    obtain ⟨least, others⟩ := List.pairwise_cons.mp ordered
    by_cases same : key = k
    · subst same
      -- No later field has the key of the first one.
      have later : (key, v) ∉ rest := fun member => String.lt_irrefl key (least _ member)
      simp [get?, later, eq_comm]
    · have elsewhere : (⟨(key, value) :: rest⟩ : Document).get? k = (⟨rest⟩ : Document).get? k := by
        simp [get?, same]
      rw [elsewhere, ← ih others]
      simp [Ne.symm same]

/-- Documents in order that read the same under every key are the same. -/
theorem Ordered.ext (one : d.Ordered) (other : e.Ordered) (same : ∀ k, d.get? k = e.get? k) :
    d = e := by
  have distinct {fields : List (String × Json)} (ordered : (⟨fields⟩ : Document).Ordered) :
      fields.Nodup := by
    refine List.Pairwise.imp ?_ ordered
    rintro f _ less rfl
    exact String.lt_irrefl f.1 less
  have shared : d.fields.Perm e.fields :=
    (List.perm_ext_iff_of_nodup (distinct one) (distinct other)).mpr fun (k, v) => by
      rw [one.mem_fields_iff, other.mem_fields_iff, same]
  exact congrArg Document.mk <|
    shared.eq_of_pairwise (fun _ _ _ _ less more => absurd more (String.lt_asymm less)) one other

/-! ### What was written, one field after the other -/

theorem insertAll_append (d : Document) (first second : List (String × Json)) :
    d.insertAll (first ++ second) = (d.insertAll first).insertAll second :=
  List.foldl_append

/-- What a document holds was written. -/
theorem mem_of_get?_ofFields {fields : List (String × Json)} {k : String} {v : Json}
    (found : (ofFields fields).get? k = some v) : (k, v) ∈ fields := by
  induction fields with
  | nil => cases found
  | cons field rest ih =>
    rw [get?_ofFields_cons, Option.or_eq_some_iff] at found
    rcases found with later | ⟨-, first⟩
    · exact List.mem_cons_of_mem _ (ih later)
    · obtain ⟨rfl, same⟩ := Option.ite_none_right_eq_some.mp first
      obtain rfl := Option.some.inj same
      exact List.mem_cons_self

theorem get?_ofFields_eq_none_iff (fields : List (String × Json)) (k : String) :
    (ofFields fields).get? k = none ↔ ∀ field ∈ fields, field.1 ≠ k := by
  induction fields with
  | nil => simp [ofFields, insertAll, empty, get?]
  | cons field rest ih => simp [get?_ofFields_cons, ih, and_comm]

theorem ordered_ofFields (fields : List (String × Json)) : (ofFields fields).Ordered :=
  have fresh : empty.Ordered := .nil
  fresh.insertAll fields

/-- A document is empty only if nothing was written. -/
theorem fields_ofFields_eq_nil_iff (fields : List (String × Json)) :
    (ofFields fields).fields = [] ↔ fields = [] := by
  refine ⟨fun none_held => ?_, by rintro rfl; rfl⟩
  refine List.eq_nil_iff_forall_not_mem.mpr fun field member => ?_
  have absent : (ofFields fields).get? field.1 = none := by simp [get?, none_held]
  exact (get?_ofFields_eq_none_iff fields field.1).mp absent field member rfl

/-- Of the fields that were written under a key, the last one counts. -/
theorem get?_ofFields_of_last {k : String} (before : List (String × Json)) (v : Json)
    {after : List (String × Json)} (last : ∀ field ∈ after, field.1 ≠ k) :
    (ofFields (before ++ (k, v) :: after)).get? k = some v := by
  have none_later := (get?_ofFields_eq_none_iff after k).mpr last
  rw [ofFields, insertAll_append, get?_insertAll, get?_ofFields_cons, none_later]
  simp

end ActionServer.Document
