import ActionServer.Proofs.Action.Construction
import ActionServer.Proofs.Action.Paths
import ActionServer.Proofs.Server.Dispatch

/-!
# Which actions are reached

The path of an action is the route prefix, a slash and its name. Reading the name back out of the path
undoes this up to slashes at the end, which a path may have and a name that is read never has. So an
action is reached exactly if its name does not end in a slash, and then by that path. The registry
has one action under each name, so the request ends where that action ends it.
-/

namespace ActionServer

namespace Dispatcher

/-- The path under which an action is asked for. -/
def pathOf (routePrefix name : String) : String :=
  routePrefix ++ "/" ++ name

theorem actionName?_pathOf (routePrefix name : String) :
    actionName? routePrefix (pathOf routePrefix name) = some (Text.trimTrailingSlashes name) :=
  actionName?_eq_some_iff.mpr (.inr ⟨name, rfl, rfl⟩)

/-- No name that is read out of a path ends in a slash. -/
theorem not_endsInSlash_of_actionName? {routePrefix path name : String}
    (read : actionName? routePrefix path = some name) : ¬Text.EndsInSlash name := by
  obtain ⟨-, rfl⟩ | ⟨rest, -, rfl⟩ := actionName?_eq_some_iff.mp read
  · decide
  · exact Text.not_endsInSlash_trimTrailingSlashes rest

/-- The three ways in which an action ends a request that was handed to it. -/
inductive Ends (d : Dispatcher) (a : Action) (r : ActionRequest) (w : World) :
    Dispatch × World → Prop where
  | unloaded {cause : LoadError} (refused : a.executable = .error cause) :
    Ends d a r w (.completed (.error (.load a.name cause)), w)
  | failed {executable : Executable} {cause : Failure} (loaded : a.executable = .ok executable)
    (broke : (d.runOnce a executable r w).1.failure? = some cause) :
    Ends d a r w
      (.completed (.error (.execution a.name cause)), (d.runOnce a executable r w).2.2)
  | finished {executable : Executable} (loaded : a.executable = .ok executable)
    (well : (d.runOnce a executable r w).1.failure? = none) :
    Ends d a r w
      (.completed (.ok (d.runOnce a executable r w).2.1.data), (d.runOnce a executable r w).2.2)

section

variable {d : Dispatcher} {a : Action} {r : ActionRequest} {w : World}

/-- An action that is found and may be run ends the request. -/
theorem ends_of_actionAt? (found : d.actionAt? r.path = some a)
    (permitted : a.internal = true → r.internal = true) : Ends d a r w (d.handle r w) := by
  obtain ⟨known, handled⟩ := handle_of_actionAt? found w
  rw [handled]
  cases state : a.executable with
  | error cause =>
    rw [invoke_unloaded known permitted state]
    exact .unloaded state
  | ok executable =>
    rw [invoke_loaded known permitted state]
    cases ending : (d.runOnce a executable r w).1.failure? with
    | some cause =>
      rw [outcome_of_failure ending]
      exact .failed state ending
    | none =>
      rw [outcome_of_finished ending]
      exact .finished state ending

/-- No ending of an action is that there is no such action. -/
theorem Ends.completed {answer : Dispatch × World} (ended : Ends d a r w answer) :
    ∃ result, answer.1 = .completed result ∧ ∀ path, result ≠ .error (.notFound path) := by
  cases ended <;> exact ⟨_, rfl, fun _ => nofun⟩

end

end Dispatcher

namespace Registry

/-- The action once its script is loaded, or could not be. -/
def loadedBy (loader : Loader) (a : Action) : Action :=
  { a with state := .ofOutcome (loader.load a.scriptPath) }

/-- A registered action is found under its name, also when all loads are over. -/
theorem get?_settle {g : Registry} (ordered : Ordered g.actions) {a : Action}
    (member : a ∈ g.actions) (loader : Loader) :
    (g.settle loader).get? a.name = some (loadedBy loader a) := by
  have settled : Ordered (g.settle loader).actions := List.pairwise_map.mpr ordered
  exact (get?_eq_some_iff settled).mpr ⟨List.mem_map_of_mem member, rfl⟩

/-- **A registered action is reached exactly if its name does not end in a slash.** Then the route
prefix, a slash and the name lead to it, and a request that may use it is handed to it: the answer
is that its script could not be loaded, the failure of its run or the view that the run leaves, and
never that there is no such action. If the name ends in a slash, no path leads to the action. -/
theorem handle_registered {settings : RegistrySettings} {extension : String}
    {configs : List ActionConfig} {s t : Stores} {g : Registry}
    (built : start .running settings extension configs s = .ok (g, t)) {a : Action}
    (member : a ∈ g.actions) {d : Dispatcher} {loader : Loader}
    (served : d.registry = g.settle loader) :
    let path := Dispatcher.pathOf d.routePrefix a.name
    (Dispatcher.actionName? d.routePrefix path = some a.name ↔ ¬Text.EndsInSlash a.name) ∧
    (Text.EndsInSlash a.name → ∀ other, Dispatcher.actionName? d.routePrefix other ≠ some a.name) ∧
    (¬Text.EndsInSlash a.name → ∀ (r : ActionRequest) (w : World), r.path = path →
      (a.internal = true → r.internal = true) →
      Dispatcher.Ends d (loadedBy loader a) r w (d.handle r w) ∧
      ∃ result, (d.handle r w).1 = .completed result ∧
        ∀ other, result ≠ .error (.notFound other)) := by
  intro path
  have reads : Dispatcher.actionName? d.routePrefix path =
      some (Text.trimTrailingSlashes a.name) := Dispatcher.actionName?_pathOf ..
  refine ⟨?_, ?_, ?_⟩
  · rw [reads, Option.some_inj, Text.trimTrailingSlashes_eq_self_iff]
  · exact fun slash other read => Dispatcher.not_endsInSlash_of_actionName? read slash
  · intro plain r w asked permitted
    have ordered : Ordered g.actions := (build_represents built).1.listed
    have found : d.actionAt? r.path = some (loadedBy loader a) := by
      rw [Dispatcher.actionAt?, asked, reads, Text.trimTrailingSlashes_eq_self_iff.mpr plain,
        Option.bind_some, served]
      exact get?_settle ordered member loader
    have ended := Dispatcher.ends_of_actionAt? (w := w) found permitted
    exact ⟨ended, ended.completed⟩

/-- A registry of one action without a collection. -/
private theorem start_single (settings : RegistrySettings) (extension : String) (s : Stores)
    {c : ActionConfig} (fit : c.check = .ok ()) (unbound : c.resource = none) :
    start .running settings extension [c] s =
      .ok (⟨"action-resource::" ++ settings.resourceName, [actionOf settings extension c]⟩, s) := by
  have registered : register settings extension c [] s =
      .ok ([actionOf settings extension c], s) :=
    register_eq_ok_iff.mpr ⟨fit, nofun, by rw [unbound]; rfl, rfl⟩
  simp only [start, build, registerAll, registered]
  rfl

/-- An internal action whose name has a space and a slash, asked for by an internal request. -/
theorem handle_registered_report :
    let settings : RegistrySettings := ⟨"action", "/srv/actions", .firstSpace⟩
    let s := Stores.new (fun _ _ => "x") .memory {}
    let loader : Loader := ⟨"sh", fun path => .refused (.notFound path)⟩
    ∃ g t, start .running settings "sh" [⟨"Reports/By Day", none, true, none⟩] s = .ok (g, t) ∧
      let d : Dispatcher := ⟨"/api", g.settle loader, .disabled, none⟩
      let r : ActionRequest := ⟨"GET", "/api/reports/by-day", ∅, ∅, true⟩
      ∃ a ∈ g.actions, r.path = Dispatcher.pathOf d.routePrefix a.name ∧
        Dispatcher.Ends d (loadedBy loader a) r (.ofStores t) (d.handle r (.ofStores t)) := by
  intro settings s loader
  let c : ActionConfig := ⟨"Reports/By Day", none, true, none⟩
  have fit : c.check = .ok () := eq_ok_of_toOption (by decide +kernel)
  have built := start_single settings "sh" s fit rfl
  refine ⟨_, _, built, ?_⟩
  intro d r
  have asked : r.path = Dispatcher.pathOf "/api" (actionOf settings "sh" c).name := by
    decide +kernel
  have plain : ¬Text.EndsInSlash (actionOf settings "sh" c).name := by decide +kernel
  have served : d.registry = Registry.settle _ loader := rfl
  have reached := handle_registered built List.mem_cons_self served
  exact ⟨_, List.mem_cons_self, asked, (reached.2.2 plain r _ asked fun _ => rfl).1⟩

/-- An action that is registered and that no request finds. -/
theorem handle_trailing_slash :
    let settings : RegistrySettings := ⟨"action", "/srv/actions", .firstSpace⟩
    let s := Stores.new (fun _ _ => "x") .memory {}
    let loader : Loader := ⟨"sh", fun path => .refused (.notFound path)⟩
    ∃ g t, start .running settings "sh" [.named "reports/"] s = .ok (g, t) ∧
      let d : Dispatcher := ⟨"/action", g.settle loader, .disabled, none⟩
      let r : ActionRequest := ⟨"GET", "/action/reports/", ∅, ∅, true⟩
      ∃ a ∈ g.actions, r.path = Dispatcher.pathOf d.routePrefix a.name ∧
        Dispatcher.actionName? d.routePrefix r.path ≠ some a.name ∧
        d.handle r (.ofStores t) = (.completed (.error (.notFound r.path)), .ofStores t) := by
  intro settings s loader
  let c : ActionConfig := .named "reports/"
  have fit : c.check = .ok () := eq_ok_of_toOption (by decide +kernel)
  refine ⟨_, _, start_single settings "sh" s fit rfl, ?_⟩
  intro d r
  have asked : r.path = Dispatcher.pathOf "/action" (actionOf settings "sh" c).name := by
    decide +kernel
  have read : Dispatcher.actionName? "/action" "/action/reports/" = some "reports" := by
    decide +kernel
  have unknown : d.registry.get? "reports" = none :=
    Option.isNone_iff_eq_none.mp (by decide +kernel)
  refine ⟨_, List.mem_cons_self, asked, ?_, ?_⟩
  · rw [show d.routePrefix = "/action" from rfl, show r.path = "/action/reports/" from rfl, read]
    decide +kernel
  · simp only [Dispatcher.handle, show d.routePrefix = "/action" from rfl,
      show r.path = "/action/reports/" from rfl, read, Dispatcher.invoke, unknown]

end Registry

end ActionServer
