import ActionServer.Proofs.Domain.Use
import ActionServer.Proofs.Store.Isolation
import ActionServer.Script.Executable

/-!
# Actions that only use their domain

What such an action does next depends on its context, on its domain and on what it was told; there is
no other way for it to learn of the world or to change it. So it is a tree: a look at the domain, a
change of the view, a use of the domain, each followed by a tree for whatever the action then knows.
Without a client no use leads out of the collection that the domain is bound to, and no use changes
that bond, so no tree does.
-/

namespace ActionServer

namespace Domain

/-- What a use tells the action. -/
inductive Told where
  | nothing
  | stored (result : Except StoreError Document)
  | fetched (result : Except StoreError Fetched)
  | library (result : Except LibraryError String)
  | called (result : Except ClientError Json)

def told (d : Domain) (w : World) : Use → Told
  | .store element => .stored (d.store element w).1
  | .fetch query => .fetched (d.fetch query w).1
  | .require name => .library (d.require name)
  | .call method path body => .called (d.call method path body w).1
  | _ => .nothing

/-- What is done with a domain until there is a result. -/
inductive Behaviour (α : Type) where
  | finish (result : α)
  /-- Looks at the domain. -/
  | look (next : Domain → Behaviour α)
  /-- Changes the view at will. -/
  | edit (change : Document → Document) (next : Behaviour α)
  | use (u : Use) (next : Told → Behaviour α)

namespace Behaviour

variable {α β : Type}

def run : Behaviour α → Domain → World → α × Domain × World
  | finish result, d, w => (result, d, w)
  | look next, d, w => run (next d) d w
  | edit change next, d, w => run next { d with data := change d.data } w
  | use u next, d, w => run (next (d.told w u)) (d.use w u).1 (d.use w u).2

/-- One behaviour and then another, which may depend on the result. -/
def bind : Behaviour α → (α → Behaviour β) → Behaviour β
  | finish result, next => next result
  | look first, next => look fun d => bind (first d) next
  | edit change first, next => edit change (bind first next)
  | use u first, next => use u fun answer => bind (first answer) next

theorem run_bind (b : Behaviour α) (next : α → Behaviour β) (d : Domain) (w : World) :
    (b.bind next).run d w = (next (b.run d w).1).run (b.run d w).2.1 (b.run d w).2.2 := by
  induction b generalizing d w with
  | finish result => rfl
  | look first ih => exact ih d d w
  | edit change first ih => exact ih _ w
  | use u first ih => exact ih _ _ _

end Behaviour

end Domain

/-- The effects of an executable are those of a behaviour. -/
def Executable.OnlyUsesDomain (executable : Executable) : Prop :=
  ∀ context, ∃ behaviour : Domain.Behaviour Ending,
    ∀ d w, executable.run context d w = behaviour.run d w

namespace Domain

/-- No use changes what the domain is bound to. -/
theorem bond_use (d : Domain) (w : World) (u : Use) :
    (d.use w u).1.persistence = d.persistence ∧ (d.use w u).1.client = d.client := by
  cases u with
  | errorIf condition | errorUnless condition => cases condition <;> exact ⟨rfl, rfl⟩
  | _ => exact ⟨rfl, rfl⟩

/-- Without a client, a use stays in the collection of the domain. -/
theorem use_stays {d : Domain} (offline : d.client = none) (u : Use) :
    StaysIn World.stores d.persistence.collection fun w =>
      ((d.told w u, (d.use w u).1), (d.use w u).2) := by
  cases u with
  | store element =>
    exact (d.persistence.persist_stays element).lift.map fun answer => (Told.stored answer, d)
  | fetch query =>
    exact (d.persistence.fetch_stays query).lift.map fun answer => (Told.fetched answer, d)
  | call method path body =>
    have alone : ∀ w, d.call method path body w = (.error .notConfigured, w) := by
      simp [Domain.call, offline]
    simpa only [told, use, alone] using .pure (Told.called (.error .notConfigured), d)
  | error | errorIf | errorUnless | hide | set | merge | insertRaw | data | require =>
    -- The world is not asked, so both parts are plain.
    exact ⟨fun w name _ => .refl name w.stores, fun _ _ same => ⟨rfl, same⟩⟩

/-- Result and domain of a run, apart from the world. -/
def Behaviour.apart {α : Type} (b : Behaviour α) (d : Domain) (w : World) :
    (α × Domain) × World :=
  (((b.run d w).1, (b.run d w).2.1), (b.run d w).2.2)

/-- Without a client, a behaviour stays in the collection of the domain. -/
theorem Behaviour.apart_stays {α : Type} (b : Behaviour α) {d : Domain}
    (offline : d.client = none) :
    StaysIn World.stores d.persistence.collection (b.apart d) := by
  induction b generalizing d with
  | finish result =>
    exact StaysIn.pure (result, d)
  | look next ih => exact ih d offline
  | edit change next ih => exact @ih { d with data := change d.data } offline
  | use u next ih =>
    have follows : (use u next).apart d = fun w =>
      (next (d.told w u)).apart (d.use w u).1 (d.use w u).2 := rfl
    rw [follows]
    refine (use_stays offline u).bind (g := fun known => (next known.1).apart known.2) fun w => ?_
    -- The next tree is over a domain with the same bond.
    obtain ⟨bond, client⟩ := d.bond_use w u
    rw [← bond]
    exact ih _ (client.trans offline)

end Domain

end ActionServer
