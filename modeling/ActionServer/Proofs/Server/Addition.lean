import ActionServer.Proofs.Action.Construction
import ActionServer.Proofs.Server.Closure
import ActionServer.Proofs.Server.Isolation
import ActionServer.Proofs.Server.Reach
import ActionServer.Proofs.Store.Opening

/-!
# One action more

A request is answered with the one action that its path names, so two registries that have the same
action under that name answer it alike. A registry with one more configuration has the same actions
under all other names, wherever the configuration stands in the list and whatever becomes of its
script. What the construction leaves behind is different: it may have opened one more collection. An
action that only uses its domain cannot tell, since it reaches no collection but its own.

A script that could not be loaded is recorded with its reason, and that is all an invocation comes to:
it is told the reason before anything is run.
-/

namespace ActionServer

/-- Why a load left no executable behind, if it did not. -/
def LoadOutcome.fault? : LoadOutcome → Option LoadError
  | ready _ => none
  | refused cause => some cause
  | died => some loadEnded

namespace Dispatcher

variable {d : Dispatcher} {g : Registry}

/-- The step: with the same action under its name a request is handled alike. -/
theorem handle_registry {r : ActionRequest}
    (same : ∀ name, actionName? d.routePrefix r.path = some name →
      g.get? name = d.registry.get? name) (w : World) :
    { d with registry := g }.handle r w = d.handle r w := by
  cases named : actionName? d.routePrefix r.path with
  | none => simp only [handle, named]
  | some name =>
    simp only [handle, named, invoke, same name named]
    rfl

/-- The run: requests one after the other are. -/
theorem answers_registry {requests : List ActionRequest}
    (same : ∀ r ∈ requests, ∀ name, actionName? d.routePrefix r.path = some name →
      g.get? name = d.registry.get? name) (w : World) :
    { d with registry := g }.answers w requests = d.answers w requests := by
  induction requests generalizing w with
  | nil => rfl
  | cons r rest ih =>
    obtain ⟨first, later⟩ := List.forall_mem_cons.mp same
    simp only [answers, handle_registry first, ih later]

section

variable (confined : d.Confined) {known : String → Prop}
  (bound : ∀ a ∈ d.registry.actions, ∀ name, a.resource = some name → known name)
include confined bound

/-- The step: worlds that agree on the collections of all actions are answered in alike, and agree
afterwards. -/
theorem Confined.handle_agree (r : ActionRequest) {w v : World}
    (same : ∀ name, known name → w.stores.SameAt name v.stores) :
    (d.handle r w).1 = (d.handle r v).1 ∧
      ∀ name, known name → (d.handle r w).2.stores.SameAt name (d.handle r v).2.stores := by
  have stays := confined.handle_stays r
  have reached : ∀ name, d.reach r = some name → known name := by
    intro name reach
    obtain ⟨a, found, own⟩ := Option.bind_eq_some_iff.mp reach
    obtain ⟨key, -, present⟩ := Option.bind_eq_some_iff.mp found
    exact bound a (List.mem_of_find?_eq_some present) name own
  obtain ⟨answer, left⟩ := stays.own w v fun name reach => same name (reached name reach)
  refine ⟨answer, fun name member => ?_⟩
  by_cases reach : d.reach r = some name
  · exact left name reach
  · exact ((stays.others w name reach).symm.trans (same name member)).trans
      (stays.others v name reach)

theorem Confined.answers_agree (requests : List ActionRequest) {w v : World}
    (same : ∀ name, known name → w.stores.SameAt name v.stores) :
    (d.answers w requests).1 = (d.answers v requests).1 ∧
      ∀ name, known name → (d.answers w requests).2.stores.SameAt name
        (d.answers v requests).2.stores := by
  induction requests generalizing w v with
  | nil => exact ⟨rfl, same⟩
  | cons r rest ih =>
    obtain ⟨answer, left⟩ := confined.handle_agree bound r same
    obtain ⟨answers, final⟩ := ih left
    exact ⟨by simp only [Dispatcher.answers, answer, answers], final⟩

end

end Dispatcher

namespace Registry

variable {settings : RegistrySettings} {extension : String} {s t t' : Stores} {g g' : Registry}
  {before after : List ActionConfig} {c : ActionConfig}

/-! ### The registry with one more configuration -/

section

variable (built : build settings extension (before ++ after) s = .ok (g, t))
  (added : build settings extension (before ++ c :: after) s = .ok (g', t'))
include built added

theorem mem_added {a : Action} :
    a ∈ g'.actions ↔ a = actionOf settings extension c ∨ a ∈ g.actions := by
  obtain ⟨less, -⟩ := build_represents built
  obtain ⟨more, -⟩ := build_represents added
  rw [more.one_each.mem_iff, less.one_each.mem_iff]
  simp [or_left_comm, eq_comm (a := a)]

/-- Under every other name it has the same action. -/
theorem get?_added {key : String} (other : key ≠ keyOf settings c) : g'.get? key = g.get? key := by
  obtain ⟨less, -⟩ := build_represents built
  obtain ⟨more, -⟩ := build_represents added
  ext a
  rw [get?_eq_some_iff more.listed, get?_eq_some_iff less.listed, mem_added built added]
  constructor
  · rintro ⟨rfl | member, named⟩
    · exact absurd named.symm other
    · exact ⟨member, named⟩
  · rintro ⟨member, named⟩
    exact ⟨.inr member, named⟩

theorem get?_withStates_added {state state' : Action → LoadState}
    (agree : ∀ a ∈ g.actions, state a = state' a) {key : String} (other : key ≠ keyOf settings c) :
    (g'.withStates state').get? key = (g.withStates state).get? key := by
  rw [get?_withStates, get?_withStates, get?_added built added other]
  cases found : g.get? key with
  | none => rfl
  | some a => simp only [Option.map_some, agree a (List.mem_of_find?_eq_some found)]

/-- The collections that are open in both are the same, and so are those that are open in neither. -/
theorem sameAt_added {name : String} (known : (t'.get? name).isSome → (t.get? name).isSome) :
    t.SameAt name t' := by
  refine (openedSince_of_build built).sameAt (openedSince_of_build added) ⟨fun opened => ?_, known⟩
  obtain ⟨-, less⟩ := build_represents built
  obtain ⟨-, more⟩ := build_represents added
  refine (more name).mpr (((less name).mp opened).imp_right ?_)
  rintro ⟨memory, d, member, own⟩
  have later : d ∈ before ++ c :: after := by
    rcases List.mem_append.mp member with early | late <;> simp [*]
  exact ⟨memory, d, later, own⟩

/-- The collections of the actions that were there before are open in both. -/
theorem known_of_resource {a : Action} (member : a ∈ g.actions) {name : String}
    (own : a.resource = some name) : (t'.get? name).isSome → (t.get? name).isSome := by
  obtain ⟨represents, less⟩ := build_represents built
  obtain ⟨-, more⟩ := build_represents added
  obtain ⟨d, configured, rfl⟩ := List.mem_map.mp (represents.one_each.mem_iff.mp member)
  intro opened
  rw [less]
  exact ((more name).mp opened).imp_right fun ⟨memory, _⟩ => ⟨memory, d, configured, own⟩

end

/-! ### Scripts that could not be loaded -/

theorem executable_of_fault {a : Action} {loader : Loader} {cause : LoadError}
    (failed : (loader.load a.scriptPath).fault? = some cause) :
    (loadedBy loader a).executable = .error cause := by
  simp only [loadedBy, Action.executable]
  cases outcome : loader.load a.scriptPath with
  | ready executable =>
    rw [outcome] at failed
    cases failed
  | refused cause' | died =>
    rw [outcome] at failed
    cases failed
    rfl

/-- What is reported when all loads are over: the scripts that failed, each with its reason. -/
theorem failures_settle (g : Registry) (loader : Loader) :
    (g.settle loader).failures =
      g.actions.filterMap fun a => (loader.load a.scriptPath).fault?.map (a.name, ·) := by
  simp only [failures, settle, List.filterMap_map]
  congr 1
  funext a
  simp only [Function.comp_apply, Action.executable]
  cases loader.load a.scriptPath <;> rfl

theorem failures_pairwise {g : Registry} (ordered : Ordered g.actions) (loader : Loader) :
    (g.settle loader).failures.Pairwise fun x y => x.1 < y.1 := by
  rw [failures_settle]
  refine List.pairwise_filterMap.mpr (ordered.imp fun less x found y found' => ?_)
  obtain ⟨-, -, rfl⟩ := Option.map_eq_some_iff.mp found
  obtain ⟨-, -, rfl⟩ := Option.map_eq_some_iff.mp found'
  exact less

theorem mem_failures_iff {configs : List ActionConfig}
    (represents : Represents settings extension configs g) (loader : Loader) {name : String}
    {cause : LoadError} :
    (name, cause) ∈ (g.settle loader).failures ↔ ∃ c ∈ configs, keyOf settings c = name ∧
      (loader.load (actionOf settings extension c).scriptPath).fault? = some cause := by
  have known (a : Action) :
      a ∈ g.actions ↔ ∃ c ∈ configs, actionOf settings extension c = a := by
    rw [represents.one_each.mem_iff, List.mem_map]
  simp only [failures_settle, List.mem_filterMap, Option.map_eq_some_iff, Prod.mk.injEq, known]
  constructor
  · rintro ⟨a, ⟨c, member, rfl⟩, _, failed, rfl, rfl⟩
    exact ⟨c, member, rfl, failed⟩
  · rintro ⟨c, member, rfl, failed⟩
    exact ⟨_, ⟨c, member, rfl⟩, cause, failed, rfl, rfl⟩

/-- **One action more leaves the others alone, and a script that failed leaves everything alone.**
Put a further configuration anywhere into a list, such that a registry still comes of it, and let the
same dispatcher serve this registry instead, with its library and its client. Requests whose paths do
not name the new action are then answered as before, in any world and with the same world left,
whatever has become of the new script. Actions that only use their domain do not even notice in which
stores they run: in those that the longer construction leaves they give the same answers, and make
the same of every collection that the shorter one knows.

In any registry, a permitted invocation of an action whose script was not loaded is told the reason
that was recorded and leaves the world as it is, and exactly these actions and reasons are reported,
in the strict order of the names. -/
theorem addition_undisturbed (settings : RegistrySettings) (extension : String) (s : Stores) :
    (∀ before c after g t g' t',
      start .running settings extension (before ++ after) s = .ok (g, t) →
      start .running settings extension (before ++ c :: after) s = .ok (g', t') →
      ∀ (d : Dispatcher) (state state' : Action → LoadState), d.registry = g.withStates state →
      (∀ a ∈ g.actions, state a = state' a) →
      ∀ requests : List ActionRequest,
      (∀ r ∈ requests, Dispatcher.actionName? d.routePrefix r.path ≠ some (keyOf settings c)) →
      let d' := { d with registry := g'.withStates state' }
      (∀ w, d'.answers w requests = d.answers w requests) ∧
      (d.Confined → ∀ w w' : World, w.stores = t → w'.stores = t' →
        (d.answers w requests).1 = (d'.answers w' requests).1 ∧
        ∀ name, ((t'.get? name).isSome → (t.get? name).isSome) →
          (d.answers w requests).2.stores.SameAt name (d'.answers w' requests).2.stores)) ∧
    ∀ configs g t, start .running settings extension configs s = .ok (g, t) →
      ∀ (loader : Loader) (d : Dispatcher), d.registry = g.settle loader →
      (∀ a ∈ g.actions, ∀ cause, (loader.load a.scriptPath).fault? = some cause →
        ∀ (r : ActionRequest) (w : World), (a.internal = true → r.internal = true) →
        d.invoke a.name r w = (.error (.load a.name cause), w)) ∧
      d.registry.failures.Pairwise (fun x y => x.1 < y.1) ∧
      ∀ name cause, (name, cause) ∈ d.registry.failures ↔
        ∃ c ∈ configs, keyOf settings c = name ∧
          (loader.load (actionOf settings extension c).scriptPath).fault? = some cause := by
  constructor
  · intro before c after g t g' t' built added d state state' served agree requests elsewhere d'
    -- Nothing but the registry is different, so each request comes down to one lookup.
    have alike : ∀ w, d'.answers w requests = d.answers w requests :=
      Dispatcher.answers_registry fun r member name named => by
        have other : name ≠ keyOf settings c := fun same => elsewhere r member (same ▸ named)
        rw [served]
        exact get?_withStates_added built added agree other
    refine ⟨alike, fun confined w w' shorter longer => ?_⟩
    -- With the same answers in every world, one dispatcher is left, in the two worlds.
    rw [alike]
    refine confined.answers_agree (fun a member name own => ?_) requests fun name known => ?_
    · rw [served] at member
      obtain ⟨b, there, rfl⟩ := List.mem_map.mp member
      exact known_of_resource built added there own
    · rw [shorter, longer]
      exact sameAt_added built added known
  · intro configs g t built loader d served
    obtain ⟨represents, -⟩ := build_represents built
    rw [served]
    refine ⟨fun a member cause failed r w permitted => ?_,
      failures_pairwise represents.listed loader, fun name cause => mem_failures_iff represents loader⟩
    have known : d.registry.get? a.name = some (loadedBy loader a) :=
      served ▸ get?_settle represents.listed member loader
    exact Dispatcher.invoke_unloaded (a := loadedBy loader a) known permitted
      (executable_of_fault failed)

/-- Before an action that stores comes one whose script is missing, with a collection of its own. -/
theorem addition_undisturbed_audit :
    let settings : RegistrySettings := ⟨"action", "/srv", .firstSpace⟩
    let s := Stores.new (fun _ _ => "x") .memory {}
    let greet : ActionConfig := ⟨"greet", none, false, some "log"⟩
    let audit : ActionConfig := ⟨"Audit", none, true, some "mail"⟩
    let storing : Executable :=
      ⟨fun _ => (Domain.Behaviour.use (.store ∅) fun _ => .finish .finished).run⟩
    let loader : Loader := ⟨"sh", fun path =>
      if path = "/srv/audit.sh" then .refused (.notFound path) else .ready storing⟩
    let ask (path : String) : ActionRequest := ⟨"POST", path, ∅, ∅, true⟩
    let requests := [ask "/action/greet", ask "/action/audits", ask "/elsewhere"]
    ∃ less more, start .running settings "sh" [greet] s = .ok less ∧
      start .running settings "sh" [audit, greet] s = .ok more ∧
      let d : Dispatcher := ⟨"/action", less.1.settle loader, .disabled, none⟩
      let d' : Dispatcher := { d with registry := more.1.settle loader }
      (∀ w, d'.answers w requests = d.answers w requests) ∧
      (∀ w w' : World, w.stores = less.2 → w'.stores = more.2 →
        (d.answers w requests).1 = (d'.answers w' requests).1 ∧
        (d.answers w requests).2.stores.SameAt "log" (d'.answers w' requests).2.stores) ∧
      (∀ w, d'.invoke "audit" (ask "/action/audit") w =
        (.error (.load "audit" (.notFound "/srv/audit.sh")), w)) ∧
      ("audit", .notFound "/srv/audit.sh") ∈ d'.registry.failures := by
  intro settings s greet audit storing loader ask requests
  obtain ⟨less, more, built, added⟩ := exists_ok_of_isSome
    (r := start .running settings "sh" [greet] s)
    (f := fun _ => start .running settings "sh" [audit, greet] s) (by decide +kernel)
  refine ⟨less, more, built, added, ?_⟩
  intro d d'
  have confined : d.Confined := by
    refine ⟨rfl, fun a member executable ready => ?_⟩
    obtain ⟨b, -, rfl⟩ := List.mem_map.mp member
    by_cases missing : b.scriptPath = "/srv/audit.sh"
    · simp [loader, missing, LoadState.ofOutcome, Action.executable] at ready
    · simp [loader, missing, LoadState.ofOutcome, Action.executable] at ready
      exact fun context => ⟨_, fun _ _ => by rw [← ready]⟩
  obtain ⟨frame, failed⟩ := addition_undisturbed settings "sh" s
  have elsewhere : ∀ r ∈ requests,
      Dispatcher.actionName? d.routePrefix r.path ≠ some (keyOf settings audit) := by
    have apart : ∀ path ∈ requests.map (·.path),
        Dispatcher.actionName? "/action" path ≠ some (keyOf settings audit) := by decide +kernel
    exact fun r member => apart r.path (List.mem_map_of_mem member)
  obtain ⟨alike, apart⟩ := frame [] audit [greet] less.1 less.2 more.1 more.2 built added d
    (fun a => .ofOutcome (loader.load a.scriptPath)) (fun a => .ofOutcome (loader.load a.scriptPath))
    rfl (fun _ _ => rfl) requests elsewhere
  obtain ⟨told, -, reported⟩ := failed [audit, greet] more.1 more.2 added loader d' rfl
  have opened : (less.2.get? "log").isSome :=
    ((build_represents built).2 "log").mpr (.inr ⟨rfl, greet, by simp, rfl⟩)
  have member : actionOf settings "sh" audit ∈ more.1.actions :=
    (build_represents added).1.one_each.mem_iff.mpr (by simp)
  have key : keyOf settings audit = "audit" := by decide +kernel
  have path : (actionOf settings "sh" audit).scriptPath = "/srv/audit.sh" := by decide +kernel
  have fault : (loader.load (actionOf settings "sh" audit).scriptPath).fault? =
      some (.notFound "/srv/audit.sh") := by
    rw [path]
    rfl
  refine ⟨alike, fun w w' first second => ?_, fun w => ?_, ?_⟩
  · obtain ⟨answers, left⟩ := apart confined w w' first second
    exact ⟨answers, left "log" fun _ => opened⟩
  · have result := told _ member _ fault (ask "/action/audit") w fun _ => rfl
    rwa [show (actionOf settings "sh" audit).name = "audit" from key] at result
  · exact (reported _ _).mpr ⟨audit, by simp, key, fault⟩

end Registry

end ActionServer
