import ActionServer.Json.Value

/-!
# Equality of values

Values are compared structurally; only the two zeros are told apart by their form and still equal.
The comparison is an equivalence: a value equals itself, the order of the sides does not matter, and
values that equal a third one equal each other.
-/

namespace ActionServer

theorem Double.same_comm (x y : Double) : x.same y = y.same x := by
  simp only [Double.same, Bool.and_comm, Bool.beq_comm]

theorem Number.same_comm (m n : Number) : m.same n = n.same m := by
  cases m <;> cases n <;> simp only [Number.same]
  · exact Bool.beq_comm
  · exact Double.same_comm _ _

mutual

theorem Json.same_comm (v w : Json) : v.same w = w.same v := by
  cases v with
  | null | bool | number | string => cases w <;> simp only [Json.same, Number.same_comm, Bool.beq_comm]
  | array xs =>
    cases w with
    | array ys => exact Json.sameItems_comm xs ys
    | _ => rfl
  | object xs =>
    cases w with
    | object ys => exact Json.sameFields_comm xs ys
    | _ => rfl

theorem Json.sameItems_comm (xs ys : List Json) :
    Json.sameItems xs ys = Json.sameItems ys xs := by
  cases xs with
  | nil => cases ys <;> rfl
  | cons x xs =>
    cases ys with
    | nil => rfl
    | cons y ys =>
      simp only [Json.sameItems]
      rw [Json.same_comm x y, Json.sameItems_comm xs ys]

theorem Json.sameFields_comm (xs ys : List (String × Json)) :
    Json.sameFields xs ys = Json.sameFields ys xs := by
  cases xs with
  | nil => cases ys <;> rfl
  | cons x xs =>
    cases ys with
    | nil => rfl
    | cons y ys =>
      simp only [Json.sameFields]
      rw [Json.same_comm x.2 y.2, Json.sameFields_comm xs ys, Bool.beq_comm (a := x.1)]

end

theorem Json.beq_comm (v w : Json) : (v == w) = (w == v) :=
  Json.same_comm v w

theorem Number.same_self (n : Number) : n.same n = true := by
  cases n with
  | integer i => simp only [Number.same, beq_self_eq_true]
  | double x => simp only [Number.same, Double.same, beq_self_eq_true, Bool.true_or]

mutual

theorem Json.same_self (v : Json) : v.same v = true := by
  cases v with
  | null => rfl
  | bool | string => simp only [Json.same, beq_self_eq_true]
  | number n => exact Number.same_self n
  | array items => exact Json.sameItems_self items
  | object fields => exact Json.sameFields_self fields

theorem Json.sameItems_self (xs : List Json) : Json.sameItems xs xs = true := by
  cases xs with
  | nil => rfl
  | cons x xs => simp only [Json.sameItems, Json.same_self x, Json.sameItems_self xs, Bool.and_self]

theorem Json.sameFields_self (xs : List (String × Json)) : Json.sameFields xs xs = true := by
  cases xs with
  | nil => rfl
  | cons x xs =>
    simp only [Json.sameFields, beq_self_eq_true, Json.same_self x.2, Json.sameFields_self xs,
      Bool.and_self]

end

theorem Json.beq_self (v : Json) : (v == v) = true :=
  Json.same_self v

theorem Double.same_trans {x y z : Double} (first : x.same y = true) (second : y.same z = true) :
    x.same z = true := by
  simp only [Double.same, Bool.or_eq_true, beq_iff_eq, Bool.and_eq_true] at first second ⊢
  rcases first with rfl | ⟨zero, middle⟩
  · exact second
  · -- A zero equals the other zero as well as itself.
    rcases second with rfl | ⟨-, last⟩
    · exact .inr ⟨zero, middle⟩
    · exact .inr ⟨zero, last⟩

theorem Number.same_trans {l m n : Number} (first : l.same m = true) (second : m.same n = true) :
    l.same n = true := by
  cases m with
  | integer j =>
    cases l with
    | double => cases first
    | integer i =>
      obtain rfl : i = j := eq_of_beq first
      exact second
  | double y =>
    cases l with
    | integer => cases first
    | double x =>
      cases n with
      | integer => cases second
      | double z => exact Double.same_trans first second

mutual

theorem Json.same_trans {u v w : Json} (first : u.same v = true) (second : v.same w = true) :
    u.same w = true := by
  cases u with
  | null | bool | string => cases v <;> cases w <;> simp_all [Json.same]
  | number m =>
    cases v <;> cases w <;> simp only [Json.same, Bool.false_eq_true] at first second ⊢
    exact Number.same_trans first second
  | array xs =>
    cases v <;> cases w <;> simp only [Json.same, Bool.false_eq_true] at first second ⊢
    exact Json.sameItems_trans first second
  | object xs =>
    cases v <;> cases w <;> simp only [Json.same, Bool.false_eq_true] at first second ⊢
    exact Json.sameFields_trans first second
termination_by structural u

theorem Json.sameItems_trans {xs ys zs : List Json} (first : Json.sameItems xs ys = true)
    (second : Json.sameItems ys zs = true) : Json.sameItems xs zs = true := by
  cases xs with
  | nil =>
    cases ys with
    | nil => exact second
    | cons => cases first
  | cons x xs =>
    cases ys <;> cases zs <;>
      simp only [Json.sameItems, Bool.false_eq_true, Bool.and_eq_true] at first second ⊢
    exact ⟨Json.same_trans first.1 second.1, Json.sameItems_trans first.2 second.2⟩
termination_by structural xs

theorem Json.sameFields_trans {xs ys zs : List (String × Json)}
    (first : Json.sameFields xs ys = true) (second : Json.sameFields ys zs = true) :
    Json.sameFields xs zs = true := by
  cases xs with
  | nil =>
    cases ys with
    | nil => exact second
    | cons => cases first
  | cons x xs =>
    cases ys <;> cases zs <;>
      simp only [Json.sameFields, Bool.false_eq_true, Bool.and_eq_true, beq_iff_eq] at first second ⊢
    exact ⟨⟨first.1.1.trans second.1.1, Json.same_trans first.1.2 second.1.2⟩,
      Json.sameFields_trans first.2 second.2⟩
termination_by structural xs

end

theorem Json.beq_trans {u v w : Json} (first : (u == v) = true) (second : (v == w) = true) :
    (u == w) = true :=
  Json.same_trans first second

end ActionServer
