import ActionServer.Proofs.Action.Registry
import ActionServer.Proofs.Store.Isolation

/-!
# Opening collections

Setting up a registry opens collections one after the other. Each opening adds an empty collection or
nothing, so however many are opened and in whatever order, stores that began alike are the same at
every collection that is open in both or in neither.
-/

namespace ActionServer

namespace Stores

/-- Some collections have been opened since, and nothing else has happened. -/
structure OpenedSince (s t : Stores) : Prop where
  medium : t.medium = s.medium
  outages : t.outages = s.outages
  supply : t.supply = s.supply
  issued : t.issued = s.issued
  records : ∀ name, t.records? name = s.records? name ∨
    s.records? name = none ∧ t.records? name = some []

namespace OpenedSince

variable {s t u : Stores}

theorem refl (s : Stores) : OpenedSince s s :=
  ⟨rfl, rfl, rfl, rfl, fun _ => .inl rfl⟩

theorem trans (first : OpenedSince s t) (second : OpenedSince t u) : OpenedSince s u := by
  refine ⟨second.medium.trans first.medium, second.outages.trans first.outages,
    second.supply.trans first.supply, second.issued.trans first.issued, fun name => ?_⟩
  rcases second.records name with still | ⟨closed, opened⟩
  · rw [still]
    exact first.records name
  · -- What was opened only now had not been opened before.
    rcases first.records name with still | ⟨-, before⟩
    · exact .inr ⟨still ▸ closed, opened⟩
    · exact nomatch before.symm.trans closed

theorem of_openCollection {name : String} (opened : s.openCollection name = .ok t) :
    OpenedSince s t := by
  simp only [openCollection] at opened
  split at opened
  · split at opened <;> cases opened
    exact .refl s
  · split at opened
    · cases opened
    split at opened
    · cases opened
      exact .refl s
    · rename_i closed
      cases opened
      refine ⟨rfl, rfl, rfl, rfl, fun other => ?_⟩
      by_cases same : name = other
      · subst same
        have none : s.collections.find? (·.name == name) = none := by simpa [get?] using closed
        exact .inr ⟨by rw [records?, get?, none]; rfl, by simp [records?, get?, none]⟩
      · left
        simp [records?, get?, List.find?_append, same]

theorem of_openResource {resource : Option String}
    (opened : Registry.openResource resource s = .ok t) : OpenedSince s t := by
  cases resource with
  | none =>
    cases opened
    exact .refl s
  | some name =>
    simp only [Registry.openResource] at opened
    split at opened
    · cases opened
      exact of_openCollection ‹_›
    · cases opened

/-- What is open in both or in neither is the same in both. -/
theorem sameAt (one : OpenedSince s t) (other : OpenedSince s u) {name : String}
    (alike : (t.get? name).isSome ↔ (u.get? name).isSome) : SameAt name t u := by
  refine ⟨one.medium.trans other.medium.symm, one.outages.trans other.outages.symm,
    congrFun (one.supply.trans other.supply.symm) name, ?_, ?_⟩
  · rw [drawn, drawn, one.issued, other.issued]
  · have shown : (t.records? name).isSome ↔ (u.records? name).isSome := by simpa [records?] using alike
    rcases one.records name with same | ⟨closed, opened⟩ <;>
      rcases other.records name with same' | ⟨closed', opened'⟩ <;> simp_all

end OpenedSince

end Stores

namespace Registry

variable {settings : RegistrySettings} {extension : String}

theorem openedSince_of_registerAll {configs : List ActionConfig} {actions actions' : List Action}
    {s t : Stores}
    (done : registerAll settings extension configs actions s = .ok (actions', t)) :
    s.OpenedSince t := by
  induction configs generalizing actions s with
  | nil =>
    cases done
    exact .refl _
  | cons c rest ih =>
    obtain ⟨⟨next, after⟩, first, later⟩ := eq_ok_of_bind done
    obtain ⟨-, -, opened, -⟩ := register_eq_ok_iff.mp first
    exact (Stores.OpenedSince.of_openResource opened).trans (ih later)

theorem openedSince_of_build {configs : List ActionConfig} {g : Registry} {s t : Stores}
    (built : build settings extension configs s = .ok (g, t)) : s.OpenedSince t := by
  obtain ⟨⟨actions, after⟩, done, built⟩ := eq_ok_of_bind built
  cases built
  exact openedSince_of_registerAll done

end Registry

end ActionServer
