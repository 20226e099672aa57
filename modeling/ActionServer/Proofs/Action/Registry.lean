import ActionServer.Action.Registry
import ActionServer.Proofs.Outcome

/-!
# Registries of fewer actions

A registry takes up its configurations one by one: each is checked, its name has to be free, its
collection is opened. None of this can go wrong because a configuration is missing, and the order of
the actions is that of their names. So what is configured without some actions is what is configured
with them, less those actions.
-/

namespace ActionServer

namespace Stores

/-- Collections open in one as in the other. -/
def OpensLike (s t : Stores) : Prop :=
  s.medium = t.medium ∧ s.outages = t.outages

theorem OpensLike.trans {s t u : Stores} (first : s.OpensLike t) (second : t.OpensLike u) :
    s.OpensLike u :=
  ⟨first.1.trans second.1, first.2.trans second.2⟩

theorem OpensLike.symm {s t : Stores} (alike : s.OpensLike t) : t.OpensLike s :=
  ⟨alike.1.symm, alike.2.symm⟩

/-- Opening a collection changes nothing of how others open. -/
theorem opensLike_of_openCollection {s s' : Stores} {name : String}
    (opened : s.openCollection name = .ok s') : s'.OpensLike s := by
  simp only [openCollection] at opened
  split at opened
  · split at opened <;> cases opened
    exact ⟨rfl, rfl⟩
  · split at opened
    · cases opened
    · split at opened <;> cases opened <;> exact ⟨rfl, rfl⟩

theorem OpensLike.openCollection {s s' t : Stores} (alike : s.OpensLike t) {name : String}
    (opened : s.openCollection name = .ok s') : ∃ t', t.openCollection name = .ok t' := by
  simp only [Stores.openCollection] at opened ⊢
  rw [← alike.1, ← alike.2]
  cases medium : s.medium with
  | closedDatabase =>
    rw [medium] at opened
    dsimp only at opened ⊢
    split at opened
    · cases opened
    · rename_i named
      exact ⟨t, if_neg named⟩
  | memory =>
    rw [medium] at opened
    dsimp only at opened ⊢
    split at opened
    · cases opened
    · split <;> exact ⟨_, rfl⟩

end Stores

namespace Registry

/-- The registry with other results of the loads. -/
def withStates (g : Registry) (state : Action → LoadState) : Registry :=
  { g with actions := g.actions.map fun a => { a with state := state a } }

theorem get?_withStates (g : Registry) (state : Action → LoadState) (name : String) :
    (g.withStates state).get? name =
      (g.get? name).map fun a => { a with state := state a } := by
  simp only [get?, withStates, List.find?_map]
  rfl

/-- The actions stand in the order of their names, each name once. -/
def Ordered (actions : List Action) : Prop :=
  actions.Pairwise fun a b => a.name < b.name

theorem mem_insertAction {a b : Action} {actions : List Action} :
    b ∈ insertAction a actions ↔ b = a ∨ b ∈ actions := by
  induction actions with
  | nil => simp [insertAction]
  | cons first rest ih =>
    simp only [insertAction]
    split
    · simp
    · simp only [List.mem_cons, ih]
      exact or_left_comm

theorem Ordered.insertAction {a : Action} {actions : List Action} (ordered : Ordered actions)
    (free : ∀ b ∈ actions, b.name ≠ a.name) : Ordered (insertAction a actions) := by
  induction actions with
  | nil => exact List.pairwise_singleton _ _
  | cons first rest ih =>
    obtain ⟨least, others⟩ := List.pairwise_cons.mp ordered
    simp only [Registry.insertAction]
    split
    · rename_i before
      refine List.pairwise_cons.mpr ⟨fun b member => ?_, ordered⟩
      rcases List.mem_cons.mp member with rfl | member
      · exact before
      · exact String.lt_trans before (least b member)
    · rename_i behind
      have above : first.name < a.name :=
        ((Std.lt_trichotomy a.name first.name).resolve_left behind).resolve_left
          (Ne.symm (free first List.mem_cons_self))
      refine List.pairwise_cons.mpr
        ⟨fun b member => ?_, ih others fun b member => free b (List.mem_cons_of_mem _ member)⟩
      rcases mem_insertAction.mp member with rfl | member
      · exact above
      · exact least b member

theorem insertAction_of_least {a : Action} {actions : List Action}
    (least : ∀ b ∈ actions, a.name < b.name) : insertAction a actions = a :: actions := by
  cases actions with
  | nil => rfl
  | cons first rest => simp only [insertAction, if_pos (least first List.mem_cons_self)]

/-- Whether actions are left out before or after one is put in its place makes no difference. -/
theorem filter_insertAction (keep : Action → Bool) (a : Action) {actions : List Action}
    (ordered : Ordered actions) :
    (insertAction a actions).filter keep =
      if keep a then insertAction a (actions.filter keep) else actions.filter keep := by
  induction actions with
  | nil => simp [insertAction, List.filter_cons]
  | cons first rest ih =>
    obtain ⟨least, others⟩ := List.pairwise_cons.mp ordered
    simp only [insertAction]
    split
    · rename_i before
      have all : ∀ b ∈ (first :: rest).filter keep, a.name < b.name := by
        intro b member
        rcases List.mem_cons.mp (List.mem_filter.mp member).1 with rfl | later
        · exact before
        · exact String.lt_trans before (least b later)
      rw [insertAction_of_least all, List.filter_cons]
    · rename_i behind
      rw [List.filter_cons, List.filter_cons, ih others]
      split
      · split
        · simp only [insertAction, if_neg behind]
        · rfl
      · rfl

section

variable {settings : RegistrySettings} {extension : String}

theorem register_eq_ok_iff {c : ActionConfig} {actions actions' : List Action} {s s' : Stores} :
    register settings extension c actions s = .ok (actions', s') ↔
      c.check = .ok () ∧ (∀ b ∈ actions, b.name ≠ (actionOf settings extension c).name) ∧
        openResource c.resource s = .ok s' ∧
        actions' = insertAction (actionOf settings extension c) actions := by
  have unique : (actions.any fun b => b.name == (actionOf settings extension c).name) = false ↔
      ∀ b ∈ actions, b.name ≠ (actionOf settings extension c).name := by
    simp [List.any_eq_false]
  constructor
  · intro done
    obtain ⟨⟨⟩, checked, done⟩ := eq_ok_of_bind done
    dsimp only at done
    split at done
    · cases done
    · rename_i free
      obtain ⟨opened, isOpen, done⟩ := eq_ok_of_bind done
      cases done
      exact ⟨checked, unique.mp (Bool.eq_false_iff.mpr free), isOpen, rfl⟩
  · rintro ⟨checked, free, opened, rfl⟩
    simp only [register, checked, bind, Except.bind, unique.mpr free, Bool.false_eq_true, if_false,
      opened]
    rfl

/-- The collection of an action opens again where others were opened or left closed. -/
theorem openResource_again {resource : Option String} {s s' t : Stores} (alike : s.OpensLike t)
    (opened : openResource resource s = .ok s') :
    s'.OpensLike t ∧ ∃ t', openResource resource t = .ok t' ∧ s'.OpensLike t' := by
  cases resource with
  | none =>
    cases opened
    exact ⟨alike, t, rfl, alike⟩
  | some name =>
    simp only [openResource] at opened ⊢
    cases result : s.openCollection name with
    | error e =>
      rw [result] at opened
      cases opened
    | ok after =>
      rw [result] at opened
      cases opened
      have kept := (Stores.opensLike_of_openCollection result).trans alike
      obtain ⟨t', again⟩ := alike.openCollection result
      exact ⟨kept, t', by rw [again],
        kept.trans (Stores.opensLike_of_openCollection again).symm⟩

/-- Registering fewer configurations gives the same actions less those that are missing. -/
theorem registerAll_filter (keep : Action → Bool) {configs : List ActionConfig}
    {actions actions' : List Action} {s s' t : Stores} (ordered : Ordered actions)
    (alike : s.OpensLike t)
    (done : registerAll settings extension configs actions s = .ok (actions', s')) :
    ∃ t', registerAll settings extension
        (configs.filter fun c => keep (actionOf settings extension c)) (actions.filter keep) t =
      .ok (actions'.filter keep, t') := by
  induction configs generalizing actions s t with
  | nil =>
    cases done
    exact ⟨t, rfl⟩
  | cons c rest ih =>
    obtain ⟨⟨next, after⟩, first, later⟩ := eq_ok_of_bind done
    obtain ⟨checked, free, opened, rfl⟩ := register_eq_ok_iff.mp first
    obtain ⟨untouched, t₁, again, remains⟩ := openResource_again alike opened
    have grown := ordered.insertAction free
    have placed := filter_insertAction keep (actionOf settings extension c) ordered
    rw [List.filter_cons]
    split
    · rename_i kept
      -- The configuration is there in both; its collection is opened in both.
      rw [if_pos kept] at placed
      obtain ⟨t', rest'⟩ := ih grown remains later
      refine ⟨t', ?_⟩
      have registered : register settings extension c (actions.filter keep) t =
          .ok (insertAction (actionOf settings extension c) (actions.filter keep), t₁) :=
        register_eq_ok_iff.mpr ⟨checked, fun b member => free b (List.mem_filter.mp member).1,
          again, rfl⟩
      rw [placed] at rest'
      simp only [registerAll, registered]
      exact rest'
    · rename_i missing
      rw [if_neg missing] at placed
      obtain ⟨t', rest'⟩ := ih grown untouched later
      rw [placed] at rest'
      exact ⟨t', rest'⟩

end

end Registry

end ActionServer
