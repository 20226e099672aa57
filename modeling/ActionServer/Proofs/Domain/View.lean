import ActionServer.Proofs.Document
import ActionServer.Proofs.Domain.Use

/-!
# What is in the view

Three ways lead into the view and each treats a hidden key in its own way: setting lifts the mark,
merging passes the key over, a raw write does not look at it. `touches` lists, from the log of a run
alone, what happened to a key: that it was taken out, or that a value was written. The view holds
what the last touch left. `Reflects` is the invariant that ties marks and view to the log.
-/

namespace ActionServer.Domain

/-- What a use does to the mark of a key: hides it, lifts it, or leaves it. -/
def Use.mark? (k : String) : Use → Option Bool
  | hide key => if key = k then some true else none
  | set key _ => if key = k then some false else none
  | _ => none

/-- The last use of the key's mark in a log was to hide it. -/
def Marked (k : String) (log : List Use) : Prop :=
  (log.filterMap (Use.mark? k)).getLast? = some true

instance (k : String) (log : List Use) : Decidable (Marked k log) :=
  inferInstanceAs (Decidable ((log.filterMap (Use.mark? k)).getLast? = some true))

/-- What a use that comes after others leaves under a key: a value, nothing, or what was there. A
merge writes the fields of its document, the last of a key counting, unless the key is hidden. -/
def Use.touch? (k : String) (before : List Use) : Use → Option (Option Json)
  | hide key => if key = k then some none else none
  | set key v | insertRaw key v => if key = k then some (some v) else none
  | merge incoming =>
    if Marked k before then none else ((Document.ofFields incoming.fields).get? k).map some
  | _ => none

/-- What the uses of a log leave under a key, one after the other; the log follows on other uses. -/
def touchesFrom (k : String) : (before : List Use) → List Use → List (Option Json)
  | _, [] => []
  | before, u :: rest => (u.touch? k before).toList ++ touchesFrom k (before ++ [u]) rest

/-- All that a log did to a key. -/
def touches (k : String) (log : List Use) : List (Option Json) :=
  touchesFrom k [] log

theorem touchesFrom_append (k : String) (before log more : List Use) :
    touchesFrom k before (log ++ more) =
      touchesFrom k before log ++ touchesFrom k (before ++ log) more := by
  induction log generalizing before with
  | nil => simp [touchesFrom]
  | cons u rest ih => simp [touchesFrom, ih]

theorem touches_concat (k : String) (log : List Use) (u : Use) :
    touches k (log ++ [u]) = touches k log ++ (u.touch? k log).toList := by
  simp [touches, touchesFrom_append, touchesFrom]

/-- The last touch of a log that goes on with one more use. -/
theorem getLast?_touches_concat (k : String) (log : List Use) (u : Use) :
    (touches k (log ++ [u])).getLast? = (u.touch? k log).or (touches k log).getLast? := by
  rw [touches_concat]
  cases u.touch? k log <;> simp

theorem marked_concat (k : String) (log : List Use) (u : Use) :
    Marked k (log ++ [u]) ↔ match u.mark? k with
      | some hidden => hidden = true
      | none => Marked k log := by
  simp only [Marked, List.filterMap_append, List.filterMap_cons, List.filterMap_nil]
  cases u.mark? k <;> simp

/-- Marks and view of a domain are what a log makes of the data it started with. -/
structure Reflects (d : Domain) (start : Document) (log : List Use) : Prop where
  hidden : ∀ k, d.isHidden k = true ↔ Marked k log
  view : ∀ k, d.data.get? k = ((touches k log).getLast?).getD (start.get? k)

/-! ### What each writing use does to marks and view -/

theorem isHidden_hide (d : Domain) (key k : String) :
    (d.hide key).isHidden k = (d.isHidden k || key == k) := by
  have marks : (d.hide key).hidden =
      if d.hidden.contains key then d.hidden else key :: d.hidden := rfl
  simp only [isHidden, marks]
  cases already : d.hidden.contains key with
  | true =>
    by_cases same : key = k
    · subst same
      simpa using already
    · simp [same]
  | false =>
    by_cases same : key = k
    · simp [same]
    · simp [same, Ne.symm same]

theorem isHidden_set (d : Domain) (key k : String) (v : Json) :
    (d.set key v).isHidden k = (d.isHidden k && key != k) := by
  simp only [isHidden, set]
  by_cases same : key = k
  · subst same
    simp
  · simp [same, Ne.symm same]

theorem get?_merge (d : Domain) (incoming : Document) (k : String) :
    (d.merge incoming).data.get? k =
      (if d.isHidden k then none else (Document.ofFields incoming.fields).get? k).or
        (d.data.get? k) := by
  have kept := Document.get?_ofFields_filter (fun key => !d.isHidden key) incoming.fields k
  simp only [merge, Document.get?_insertAll, kept]
  cases d.isHidden k <;> simp

/-- Uses that write no field leave marks and view as they are. -/
theorem use_frame (d : Domain) (w : World) {u : Use} (quiet : u.writes = false) :
    (d.use w u).1.data = d.data ∧ (d.use w u).1.hidden = d.hidden := by
  cases u with
  | hide | set | merge | insertRaw => simp [Use.writes] at quiet
  | errorIf condition key value => cases condition <;> exact ⟨rfl, rfl⟩
  | errorUnless condition key value => cases condition <;> exact ⟨rfl, rfl⟩
  | error | data | store | fetch | require | call => exact ⟨rfl, rfl⟩

/-! ### The invariant of a run -/

namespace Reflects

variable {d : Domain} {start : Document} {log : List Use}

/-- Marks and view follow the log when they do so for each key. -/
private theorem next {e : Domain} {u : Use} (now : Reflects d start log)
    (hidden : ∀ k, e.isHidden k = (u.mark? k).getD (d.isHidden k))
    (view : ∀ k, e.data.get? k = (u.touch? k log).getD (d.data.get? k)) :
    Reflects e start (log ++ [u]) where
  hidden k := by
    rw [hidden, marked_concat]
    cases u.mark? k with
    | some mark => simp
    | none => simpa using now.hidden k
  view k := by
    rw [view, getLast?_touches_concat]
    cases u.touch? k log with
    | some left => simp
    | none => simpa using now.view k

private theorem frame {u : Use} (now : Reflects d start log) (w : World)
    (quiet : u.writes = false) : Reflects (d.use w u).1 start (log ++ [u]) := by
  obtain ⟨data, hidden⟩ := d.use_frame w quiet
  refine now.next (fun k => ?_) (fun k => ?_)
  · simp only [isHidden, hidden]
    cases u <;> first | rfl | simp [Use.writes] at quiet
  · simp only [data]
    cases u <;> first | rfl | simp [Use.writes] at quiet

/-- The step: one more use, one more entry of the log. -/
theorem use (now : Reflects d start log) (w : World) (u : Use) :
    Reflects (d.use w u).1 start (log ++ [u]) := by
  cases u with
  | hide key =>
    refine now.next (fun k => ?_) (fun k => ?_)
    · simp only [Domain.use, isHidden_hide, Use.mark?]
      by_cases same : key = k <;> simp [same]
    · simp only [Domain.use, hide, Document.get?_erase, Use.touch?]
      by_cases same : key = k <;> simp [same]
  | set key value =>
    refine now.next (fun k => ?_) (fun k => ?_)
    · simp only [Domain.use, isHidden_set, Use.mark?]
      by_cases same : key = k <;> simp [same]
    · simp only [Domain.use, set, Document.get?_insert, Use.touch?]
      by_cases same : key = k <;> simp [same]
  | merge incoming =>
    refine now.next (fun k => rfl) (fun k => ?_)
    simp only [Domain.use, get?_merge, Use.touch?]
    -- The domain asks its marks and the log asks itself; the invariant says that they agree.
    by_cases marked : Marked k log
    · simp [marked, (now.hidden k).mpr marked]
    · have shown : d.isHidden k = false := by
        simpa using mt (now.hidden k).mp marked
      simp only [marked, shown]
      cases (Document.ofFields incoming.fields).get? k <;> simp
  | insertRaw key value =>
    refine now.next (fun k => rfl) (fun k => ?_)
    simp only [Domain.use, insertRaw, Document.get?_insert, Use.touch?]
    by_cases same : key = k <;> simp [same]
  | error | errorIf | errorUnless | data | store | fetch | require | call =>
    exact now.frame w rfl

theorem run (now : Reflects d start log) (w : World) (more : List Use) :
    Reflects (d.after w more) start (log ++ more) := by
  induction more generalizing d w log with
  | nil => simpa only [after, List.append_nil] using now
  | cons u rest ih =>
    rw [after]
    simpa using ih (now.use w u) (d.use w u).2

/-- A fresh domain has no marks, and its view is the data that it starts with. -/
theorem new (action : String) (start : Document) (persistence : Persistence) (library : Library)
    (client : Option InternalClient) :
    Reflects (Domain.new action start persistence library client) start [] where
  hidden k := by simp [Domain.new, isHidden, Marked]
  view k := rfl

end Reflects

/-! ### Hidden keys -/

/-- No hidden key is in the view. -/
def Veiled (d : Domain) : Prop :=
  ∀ k, d.isHidden k = true → d.data.get? k = none

namespace Veiled

private theorem frame {d : Domain} {u : Use} (now : d.Veiled) (w : World)
    (quiet : u.writes = false) : (d.use w u).1.Veiled := by
  obtain ⟨data, hidden⟩ := d.use_frame w quiet
  intro k marked
  rw [data]
  exact now k (by simpa only [isHidden, hidden] using marked)

/-- Only a raw write can put a hidden key into the view. -/
theorem use {d : Domain} (now : d.Veiled) (w : World) {u : Use} (plain : u.isRaw = false) :
    (d.use w u).1.Veiled := by
  intro k marked
  cases u with
  | hide key =>
    simp only [Domain.use, isHidden_hide, Bool.or_eq_true, beq_iff_eq] at marked
    simp only [Domain.use, hide, Document.get?_erase]
    split
    · rfl
    · rename_i other
      exact now k (marked.resolve_right other)
  | set key value =>
    simp only [Domain.use, isHidden_set, Bool.and_eq_true, bne_iff_ne, ne_eq] at marked
    simp only [Domain.use, set, Document.get?_insert, if_neg marked.2]
    exact now k marked.1
  | merge incoming =>
    have before : d.isHidden k = true := marked
    simp only [Domain.use, get?_merge, before, if_true, Option.none_or]
    exact now k before
  | insertRaw key value => cases plain
  | error | errorIf | errorUnless | data | store | fetch | require | call =>
    exact now.frame w rfl k marked

theorem run {d : Domain} (now : d.Veiled) (w : World) {log : List Use}
    (plain : ∀ u ∈ log, u.isRaw = false) : (d.after w log).Veiled := by
  induction log generalizing d w with
  | nil => exact now
  | cons u rest ih =>
    obtain ⟨first, later⟩ := List.forall_mem_cons.mp plain
    rw [after]
    exact ih (now.use w first) (d.use w u).2 later

theorem new (action : String) (start : Document) (persistence : Persistence) (library : Library)
    (client : Option InternalClient) :
    (Domain.new action start persistence library client).Veiled := by
  intro k marked
  simp [Domain.new, isHidden] at marked

end Veiled

end ActionServer.Domain
