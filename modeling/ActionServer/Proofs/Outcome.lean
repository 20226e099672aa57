/-!
# Outcomes

Steps that may fail, one after the other, end well when each of them does.
-/

namespace ActionServer

theorem eq_ok_of_bind {ε α β : Type} {r : Except ε α} {next : α → Except ε β} {b : β}
    (done : (r >>= next) = .ok b) : ∃ a, r = .ok a ∧ next a = .ok b := by
  cases r with
  | error e => cases done
  | ok a => exact ⟨a, rfl, done⟩

theorem map_eq_ok_iff {ε α β : Type} {r : Except ε α} {f : α → β} {b : β} :
    r.map f = .ok b ↔ ∃ a, r = .ok a ∧ f a = b := by
  cases r <;> simp [Except.map]

theorem exists_map_eq_ok_iff {ε α β : Type} {r : Except ε α} {f : α → β} :
    (∃ b, r.map f = .ok b) ↔ ∃ a, r = .ok a := by
  cases r <;> simp [Except.map]

theorem eq_ok_of_toOption {ε α : Type} {r : Except ε α} {a : α} (present : r.toOption = some a) :
    r = .ok a := by
  cases r with
  | error e => cases present
  | ok b => exact congrArg Except.ok (Option.some.inj present)

/-- Two steps that are seen to end well have results. -/
theorem exists_ok_of_isSome {ε δ α β : Type} {r : Except ε α} {f : α → Except δ β}
    (present : (r.toOption.bind fun a => (f a).toOption).isSome) :
    ∃ a b, r = .ok a ∧ f a = .ok b := by
  obtain ⟨b, found⟩ := Option.isSome_iff_exists.mp present
  obtain ⟨a, first, second⟩ := Option.bind_eq_some_iff.mp found
  exact ⟨a, b, eq_ok_of_toOption first, eq_ok_of_toOption second⟩

/-- A step that is seen to end well, and with what, has a result. -/
theorem exists_ok_of_any {ε α : Type} {r : Except ε α} {p : α → Bool}
    (present : r.toOption.any p = true) : ∃ a, r = .ok a ∧ p a = true := by
  cases r with
  | error e => cases present
  | ok a => exact ⟨a, rfl, present⟩

end ActionServer
