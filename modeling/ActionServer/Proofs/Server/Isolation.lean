import ActionServer.Proofs.Script.Confinement
import ActionServer.Proofs.Server.Dispatch

/-!
# Collections of different actions

A request reaches the collection of its action and no other, since the action gets no other from the
dispatcher and has no way to one. So requests to the actions of one collection do not notice those to
the actions of others: leaving these out changes neither an answer nor a record. It takes no order
between the requests and nothing about how they end.
-/

namespace ActionServer

namespace Dispatcher

/-- Actions that only use their domain, and no way for them to call the server. -/
structure Confined (d : Dispatcher) : Prop where
  offline : d.client = none
  actions : ∀ a ∈ d.registry.actions, ∀ executable, a.executable = .ok executable →
    executable.OnlyUsesDomain

/-- The collection that a request can reach: that of its action. -/
def reach (d : Dispatcher) (r : ActionRequest) : Option String :=
  (d.actionAt? r.path).bind (·.resource)

/-- Whether a request is for no action or for one that is bound to a collection. -/
def concerns (d : Dispatcher) (name : String) (r : ActionRequest) : Bool :=
  match d.actionAt? r.path with
  | none => true
  | some a => a.resource == some name

/-- Requests one after the other, with what each was answered. -/
def answers (d : Dispatcher) (w : World) :
    List ActionRequest → List (ActionRequest × Dispatch) × World
  | [] => ([], w)
  | r :: rest =>
    ((r, (d.handle r w).1) :: (answers d (d.handle r w).2 rest).1,
      (answers d (d.handle r w).2 rest).2)

/-- A request that no action is there for is answered without the world. -/
theorem handle_of_unknown {d : Dispatcher} {r : ActionRequest} (unknown : d.actionAt? r.path = none)
    (w : World) :
    d.handle r w = (if actionName? d.routePrefix r.path = none then .declined
      else .completed (.error (.notFound r.path)), w) := by
  simp only [actionAt?, Option.bind_eq_none_iff] at unknown
  cases named : actionName? d.routePrefix r.path with
  | none => simp only [handle, named, if_true]
  | some name => simp [handle, named, invoke, unknown name named]

/-- One run of an action that only uses its domain stays in the collection of the action. -/
theorem runOnce_stays {d : Dispatcher} (offline : d.client = none) (a : Action)
    {executable : Executable} (uses : executable.OnlyUsesDomain) (r : ActionRequest) :
    StaysIn World.stores a.resource fun w =>
      (outcome a.name (d.runOnce a executable r w).1 (d.runOnce a executable r w).2.1,
        (d.runOnce a executable r w).2.2) := by
  obtain ⟨behaviour, acts⟩ := uses (contextOf a r)
  have ran : ∀ w, d.runOnce a executable r w = behaviour.run (d.domainFor a r) w := fun w => acts _ w
  simp only [ran]
  have alone : (d.domainFor a r).client = none := offline
  exact (behaviour.apart_stays alone).map fun left => outcome a.name left.1 left.2

section

variable {d : Dispatcher} (confined : d.Confined)
include confined

/-- The step: a request stays in the collection of its action, however it ends. -/
theorem Confined.handle_stays (r : ActionRequest) :
    StaysIn World.stores (d.reach r) fun w => d.handle r w := by
  cases found : d.actionAt? r.path with
  | none => simpa only [handle_of_unknown found] using .pure _
  | some a =>
    have bond : d.reach r = a.resource := by rw [reach, found, Option.bind_some]
    have handled := fun w => (handle_of_actionAt? found w).2
    have known : d.registry.get? a.name = some a :=
      (handle_of_actionAt? found (.ofStores (.new (fun _ _ => "") .memory {}))).1
    have invoked : StaysIn World.stores a.resource fun w => d.invoke a.name r w := by
      by_cases permitted : a.internal = true → r.internal = true
      · cases state : a.executable with
        | error cause => simpa only [invoke_unloaded known permitted state] using .pure _
        | ok executable =>
          have member : a ∈ d.registry.actions := List.mem_of_find?_eq_some known
          simpa only [invoke_loaded known permitted state] using
            runOnce_stays confined.offline a (confined.actions a member executable state) r
      · have closed : a.internal = true ∧ r.internal = false := by simpa using permitted
        simpa only [invoke_forbidden known closed] using .pure _
    rw [bond]
    simpa only [handled] using invoked.map Dispatch.completed

/-- A request that does not concern a collection leaves it as it is. -/
theorem Confined.handle_elsewhere {name : String} {r : ActionRequest}
    (apart : d.concerns name r = false) (w : World) :
    w.stores.SameAt name (d.handle r w).2.stores := by
  refine (confined.handle_stays r).others w name fun same => ?_
  cases found : d.actionAt? r.path with
  | none => simp [concerns, found] at apart
  | some a => simp_all [concerns, reach]

/-- A request that concerns a collection does the same in worlds that agree on it. -/
theorem Confined.handle_alike {name : String} {r : ActionRequest}
    (concerned : d.concerns name r = true) {w v : World} (same : w.stores.SameAt name v.stores) :
    (d.handle r w).1 = (d.handle r v).1 ∧
      (d.handle r w).2.stores.SameAt name (d.handle r v).2.stores := by
  cases found : d.actionAt? r.path with
  | none =>
    rw [handle_of_unknown found, handle_of_unknown found]
    exact ⟨rfl, same⟩
  | some a =>
    have bond : d.reach r = some name := by simpa [concerns, reach, found] using concerned
    obtain ⟨answer, left⟩ := (confined.handle_stays r).own w v fun other bound => by
      rw [bond] at bound
      exact Option.some.inj bound ▸ same
    exact ⟨answer, left name bond⟩

/-- The run: requests that do not concern a collection are not noticed by those that do. -/
theorem Confined.answers_filter (name : String) (requests : List ActionRequest) {w v : World}
    (same : w.stores.SameAt name v.stores) :
    (d.answers w requests).1.filter (fun entry => d.concerns name entry.1) =
        (d.answers v (requests.filter (d.concerns name))).1 ∧
      (d.answers w requests).2.stores.SameAt name
        (d.answers v (requests.filter (d.concerns name))).2.stores := by
  induction requests generalizing w v with
  | nil => exact ⟨rfl, same⟩
  | cons r rest ih =>
    cases concerned : d.concerns name r with
    | true =>
      obtain ⟨answer, left⟩ := confined.handle_alike concerned same
      obtain ⟨later, final⟩ := ih left
      rw [List.filter_cons_of_pos concerned]
      simp only [answers, List.filter_cons, concerned, if_true, later, answer]
      exact ⟨trivial, final⟩
    | false =>
      -- Only the longer run takes this step, and it leaves the collection as it is.
      have untouched := (confined.handle_elsewhere concerned w).symm.trans same
      obtain ⟨later, final⟩ := ih untouched
      rw [List.filter_cons_of_neg (by simp [concerned])]
      simp only [answers, List.filter_cons, concerned, Bool.false_eq_true, if_false, later]
      exact ⟨trivial, final⟩

/-- **Collections are isolated from each other.** A request to an action that is not bound to a
collection leaves its records as they are, whether the action succeeds, fails or breaks down. Without
all such requests, the others get the same answers and leave the same records, also in a world that
is the same in nothing but this collection and its next identities. And all actions that are bound to
the collection get the same from it and make the same of it. -/
theorem collections_isolated (name : String) :
    (∀ r a w, d.actionAt? r.path = some a → a.resource ≠ some name →
      (d.handle r w).2.stores.records? name = w.stores.records? name) ∧
    (∀ requests w v, w.stores.SameAt name v.stores →
      (d.answers w requests).1.filter (fun entry => d.concerns name entry.1) =
          (d.answers v (requests.filter (d.concerns name))).1 ∧
        (d.answers w requests).2.stores.records? name =
          (d.answers v (requests.filter (d.concerns name))).2.stores.records? name) ∧
    ∀ a b, a.resource = some name → b.resource = some name → ∀ r q w,
      (∀ element, (d.domainFor a r).store element w = (d.domainFor b q).store element w) ∧
      (∀ query, (d.domainFor a r).fetch query w = (d.domainFor b q).fetch query w) ∧
      (w.stores.Serves name →
        ((d.domainFor a r).fetch .all w).1 = .ok (.many (w.stores.recordsOf name))) := by
  refine ⟨fun r a w found apart => ?_, fun requests w v same => ?_, fun a b own other r q w => ?_⟩
  · have elsewhere : d.concerns name r = false := by simpa [concerns, found] using apart
    exact (confined.handle_elsewhere elsewhere w).records.symm
  · obtain ⟨answers, left⟩ := confined.answers_filter name requests same
    exact ⟨answers, left.records⟩
  · have bond : (d.domainFor a r).persistence = ⟨a.name, some name⟩ := by
      rw [← own]
      rfl
    have bond' : (d.domainFor b q).persistence = ⟨b.name, some name⟩ := by
      rw [← other]
      rfl
    refine ⟨fun element => ?_, fun query => ?_, fun served => ?_⟩
    · simp only [Domain.store, bond, bond']
      rfl
    · simp only [Domain.fetch, bond, bond']
      rfl
    · simp only [Domain.fetch, bond, Persistence.fetch, Stores.find_eq served]
      rfl

end

/-- Two actions that share a collection, one of which breaks down after it has stored, and one with a
collection of its own. -/
theorem collections_isolated_mail :
    let storing (ending : Ending) : Executable :=
      ⟨fun _ => (Domain.Behaviour.use (.store ∅) fun _ => .finish ending).run⟩
    let script : Executable := (ProcessSettings.shell .empty).executable "/srv/count.sh"
    let actions : List Action := [
      ⟨"audit", none, false, some "log", "audit.sh", .ready (storing .finished)⟩,
      ⟨"count", none, false, some "mail", "count.sh", .ready script⟩,
      ⟨"send", none, false, some "mail", "send.sh", .ready (storing (.panicked none))⟩]
    let d : Dispatcher := ⟨"/action", ⟨"action-resource::action", actions⟩, .disabled, none⟩
    let w := World.ofStores (.new (fun _ _ => "x") .memory {})
    let ask (path : String) : ActionRequest := ⟨"POST", path, ∅, ∅, false⟩
    let requests := [ask "/action/audit", ask "/action/send", ask "/elsewhere", ask "/action/audit"]
    d.Confined ∧
      requests.filter (d.concerns "mail") = [ask "/action/send", ask "/elsewhere"] ∧
      (d.answers w requests).2.stores.records? "mail" =
        (d.answers w [ask "/action/send", ask "/elsewhere"]).2.stores.records? "mail" ∧
      ((d.answers w requests).2.stores.recordsOf "mail").length = 1 := by
  intro storing script actions d w ask requests
  have confined : d.Confined := by
    refine ⟨rfl, fun a member executable ready => ?_⟩
    have simple : ∀ ending, (storing ending).OnlyUsesDomain := fun ending context =>
      ⟨_, fun _ _ => rfl⟩
    simp only [d, actions, List.mem_cons, List.not_mem_nil, or_false] at member
    rcases member with rfl | rfl | rfl <;> cases ready
    · exact simple _
    · exact ProcessSettings.executable_onlyUsesDomain _ _
    · exact simple _
  have kept : requests.filter (d.concerns "mail") = [ask "/action/send", ask "/elsewhere"] := by
    have audit : d.concerns "mail" (ask "/action/audit") = false := by decide +kernel
    have send : d.concerns "mail" (ask "/action/send") = true := by decide +kernel
    have elsewhere : d.concerns "mail" (ask "/elsewhere") = true := by decide +kernel
    simp only [requests, List.filter, audit, send, elsewhere]
  have same := ((collections_isolated confined "mail").2.1 requests w w (.refl _ _)).2
  rw [kept] at same
  exact ⟨confined, kept, same, by decide +kernel⟩

end Dispatcher

end ActionServer
