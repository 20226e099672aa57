import ActionServer.Proofs.Action.Registry
import ActionServer.Proofs.Action.Run
import ActionServer.Proofs.Server.Layers
import ActionServer.Proofs.Server.Secret

/-!
# Internal actions stay closed

A request that does not carry the secret is answered without the internal actions: none of their
executables runs for it, whatever path it names, and nothing in the answer depends on them. In the
list of actions they are missing as if they had not been configured.

`OpenOnly` says of a step that it runs nothing or one executable that is open to all. It is shown for
the invocation, where the mark of an action is looked at, and carried up to the whole answer. That
the executables of internal actions have no part in it is shown by changing them: `withStates`
replaces what the loads have left, and the answer stays the same.
-/

namespace ActionServer

/-- The request carries the secret that the variables set. -/
def HttpRequest.Presents (r : HttpRequest) (lookup : String → Option String) : Prop :=
  ∃ secret, lookup "INTERNAL_SECRET" = some secret ∧ Text.isAllBlank secret = false ∧
    r.header? secretHeader = some (Utf8.encode secret)

/-- To a server of accepted settings only a request that carries the secret is internal. -/
theorem Server.isInternal_eq_false {lookup : String → Option String} {s : Server}
    (accepted : ServerSettings.ofVariables lookup = .ok s.settings) {r : HttpRequest}
    (outside : ¬r.Presents lookup) : s.isInternal r = false := by
  refine Bool.eq_false_iff.mpr fun internal => outside ?_
  obtain ⟨secret, value, known, carried, read⟩ := (r.isInternal_iff _).mp internal
  obtain ⟨rfl, -⟩ := (Header.text?_eq_some_iff value secret).mp read
  rw [ServerSettings.internalSecret_of_accepted accepted, ServerSettings.given,
    Option.filter_eq_some_iff] at known
  exact ⟨secret, known.1, by simpa using known.2, carried⟩

/-! ### What runs -/

/-- A step of a dispatcher that changes nothing, or is one run of an action that is open to all. -/
inductive Dispatcher.OpenOnly (d : Dispatcher) {α : Type} (step : World → α × World) : Prop where
  | still (answer : α) (same : ∀ w, step w = (answer, w))
  | run (a : Action) (member : a ∈ d.registry.actions) (isOpen : a.internal = false)
      (executable : Executable) (loaded : a.executable = .ok executable) (r : ActionRequest)
      (answer : Except ActionError Document → α)
      (same : ∀ w, step w =
        (answer (outcome a.name (d.runOnce a executable r w).1 (d.runOnce a executable r w).2.1),
          (d.runOnce a executable r w).2.2))

namespace Dispatcher

/-- What is made of the result of a step runs nothing more. -/
theorem OpenOnly.map {d : Dispatcher} {α β : Type} {step : World → α × World}
    {next : World → β × World} (only : d.OpenOnly step) (f : α → β)
    (same : ∀ w, next w = (f (step w).1, (step w).2)) : d.OpenOnly next := by
  cases only with
  | still answer quiet => exact .still (f answer) fun w => by rw [same, quiet]
  | run a member isOpen executable loaded r answer ran =>
    exact .run a member isOpen executable loaded r (f ∘ answer) fun w => by rw [same, ran]; rfl

variable {d : Dispatcher} {r : ActionRequest}

theorem openOnly_invoke (outside : r.internal = false) (name : String) :
    d.OpenOnly (d.invoke name r) := by
  cases found : d.registry.get? name with
  | none => exact .still (.error (.notFound r.path)) fun w => by simp only [invoke, found]
  | some a =>
    -- The mark of the action is looked at before its executable.
    cases closed : a.internal with
    | true =>
      refine .still (.error (.forbidden name)) fun w => ?_
      simp [invoke, found, closed, outside]
    | false =>
      cases loaded : a.executable with
      | error cause =>
        refine .still (.error (.load name cause)) fun w => ?_
        simp [invoke, found, closed, loaded]
      | ok executable =>
        refine .run a (List.mem_of_find?_eq_some found) closed executable loaded r id fun w => ?_
        simp [invoke, found, closed, loaded, execute_eq]

theorem openOnly_handle (outside : r.internal = false) : d.OpenOnly (d.handle r) := by
  cases named : actionName? d.routePrefix r.path with
  | none => exact .still .declined fun w => by simp only [handle, named]
  | some name =>
    exact (openOnly_invoke outside name).map .completed fun w => by simp only [handle, named]

end Dispatcher

namespace Server

variable {s : Server} {r : HttpRequest}

theorem openOnly_perform {q : ActionRequest} (outside : q.internal = false) :
    s.dispatcher.OpenOnly (s.perform q) := by
  let read : Dispatch → Except ActionError Json
    | .completed result => result.map Document.toJson
    | .declined => s.base.handle q
  refine (Dispatcher.openOnly_handle outside).map read fun w => ?_
  simp only [perform]
  split <;> rename_i handled <;> rw [handled]

/-- A decoded request is internal when the request is. -/
theorem internal_of_decode {q : ActionRequest} (read : s.decode r = .ok q) :
    q.internal = s.isInternal r := by
  obtain ⟨path, -, read⟩ := eq_ok_of_bind read
  obtain ⟨body, -, read⟩ := eq_ok_of_bind read
  cases read
  rfl

theorem openOnly_dispatch (outside : s.isInternal r = false) :
    s.dispatcher.OpenOnly (s.dispatch r) := by
  by_cases large : r.body.length > HttpResponse.bodyLimit
  · exact .still .tooLarge fun w => by simp only [dispatch, if_pos large]
  cases read : s.decode r with
  | error e => exact .still (.ofError e) fun w => by simp only [dispatch, if_neg large, read]
  | ok q =>
    have asked : q.internal = false := (internal_of_decode read).trans outside
    let reply : Except ActionError Json → HttpResponse
      | .ok v => .ofData v
      | .error e => .ofError (.action e)
    refine (openOnly_perform asked).map reply fun w => ?_
    simp only [dispatch, if_neg large, read]
    split <;> rename_i performed <;> rw [performed]

theorem openOnly_respond (outside : s.isInternal r = false) :
    s.dispatcher.OpenOnly (s.respond r) := by
  by_cases question : r.method = "OPTIONS"
  · exact .still _ fun _ => respond_of_question question
  by_cases own : ownPaths.contains r.path = true
  · refine .still (s.delivered r (s.serveOwn r)) fun w => ?_
    rw [respond_of_other question, serve, if_pos own]
  refine (openOnly_dispatch outside).map (s.delivered r) fun w => ?_
  rw [respond_of_other question, serve, if_neg own]

end Server

/-! ### What the answer depends on -/

namespace Server

/-- The server with other results of the loads. -/
def withStates (s : Server) (state : Action → LoadState) : Server :=
  { s with dispatcher := { s.dispatcher with registry := s.dispatcher.registry.withStates state } }

section

variable {s : Server} {r : HttpRequest} {state state' : Action → LoadState}

/-- The two agree on the actions that are open to all. -/
def AgreeOnOpen (s : Server) (state state' : Action → LoadState) : Prop :=
  ∀ a ∈ s.dispatcher.registry.actions, a.internal = false → state a = state' a

theorem invoke_withStates (agree : s.AgreeOnOpen state state') {q : ActionRequest}
    (outside : q.internal = false) (name : String) (w : World) :
    (s.withStates state).dispatcher.invoke name q w =
      (s.withStates state').dispatcher.invoke name q w := by
  simp only [Dispatcher.invoke, withStates, Registry.get?_withStates]
  cases found : s.dispatcher.registry.get? name with
  | none => rfl
  | some a =>
    cases closed : a.internal with
    | true => simp [closed, outside]
    | false =>
      -- The action is open, so its state is the same; nothing else is read of the loads.
      have same := agree a (List.mem_of_find?_eq_some found) closed
      simp only [Option.map_some, same]
      rfl

theorem perform_withStates (agree : s.AgreeOnOpen state state') {q : ActionRequest}
    (outside : q.internal = false) (w : World) :
    (s.withStates state).perform q w = (s.withStates state').perform q w := by
  have handled : (s.withStates state).dispatcher.handle q w =
      (s.withStates state').dispatcher.handle q w := by
    simp only [Dispatcher.handle, invoke_withStates agree outside]
    rfl
  simp only [perform, handled]
  rfl

theorem dispatch_withStates (agree : s.AgreeOnOpen state state') (outside : s.isInternal r = false)
    (w : World) : (s.withStates state).dispatch r w = (s.withStates state').dispatch r w := by
  have read : (s.withStates state').decode r = (s.withStates state).decode r := rfl
  simp only [dispatch, read]
  cases decoded : (s.withStates state).decode r with
  | error e => rfl
  | ok q =>
    have asked : q.internal = s.isInternal r := internal_of_decode decoded
    simp only [perform_withStates agree (asked.trans outside)]

/-- To a request from outside only the actions are told that are open to all. -/
theorem listing_of_outside (outside : s.isInternal r = false) :
    s.listing r = .ofData (.array
      ((s.dispatcher.registry.actions.filter fun a => !a.internal).map summary)) := by
  simp only [listing, outside, Bool.false_or]

theorem listing_withStates (agree : s.AgreeOnOpen state state') (outside : s.isInternal r = false) :
    (s.withStates state).listing r = (s.withStates state').listing r := by
  have told : (s.withStates state).dispatcher.registry.actions.filter (fun a => !a.internal) =
      (s.withStates state').dispatcher.registry.actions.filter fun a => !a.internal := by
    simp only [withStates, Registry.withStates, List.filter_map]
    refine List.map_congr_left fun a member => ?_
    obtain ⟨known, isOpen⟩ := List.mem_filter.mp member
    rw [agree a known (by simpa using isOpen)]
  rw [listing_of_outside (s := s.withStates state) outside,
    listing_of_outside (s := s.withStates state') outside, told]

theorem health_withStates (s : Server) (state : Action → LoadState) :
    (s.withStates state).health = s.health := by
  have counted : (s.withStates state).dispatcher.registry.actions.length =
      s.dispatcher.registry.actions.length := List.length_map _
  simp only [health, counted]
  rfl

/-- What the loads of internal actions have left makes no difference to a request from outside. -/
theorem respond_withStates (agree : s.AgreeOnOpen state state') (outside : s.isInternal r = false) :
    (s.withStates state).respond r = (s.withStates state').respond r := by
  have own : (s.withStates state).serveOwn r = (s.withStates state').serveOwn r := by
    simp only [serveOwn, listing_withStates agree outside, health_withStates]
  funext w
  by_cases question : r.method = "OPTIONS"
  · rw [respond_of_question question, respond_of_question question]
    rfl
  · have served : (s.withStates state).serve r w = (s.withStates state').serve r w := by
      simp only [serve, own, dispatch_withStates agree outside]
    rw [respond_of_other question, respond_of_other question, served]
    rfl

end

/-! ### The server without its internal actions -/

section

variable {settings : ServerSettings} {files : FileSystem} {link : Link} {extension : String}
  {base : BaseResource}

/-- The server of a list of actions. -/
def ofActions (settings : ServerSettings) (files : FileSystem) (link : Link) (base : BaseResource)
    (medium : Medium) (actions : List Action) : Server :=
  { settings
    dispatcher := {
      routePrefix := Dispatcher.trimPrefix settings.actions.routePrefix
      registry := ⟨"action-resource::" ++ settings.actions.registry.resourceName, actions⟩
      library := ⟨some settings.actions.libDir, files⟩
      client := some ((callSettings settings).client link) }
    base, medium }

theorem build_eq_ok_iff {configs : List ActionConfig} {stores after : Stores} {s : Server} :
    build settings files link extension configs base stores = .ok (s, after) ↔
      (Router.build settings).isSome = true ∧ ∃ actions,
        Registry.registerAll settings.actions.registry extension configs [] stores =
            .ok (actions, after) ∧
          s = ofActions settings files link base after.medium actions := by
  simp only [build, Registry.build]
  cases registered : Registry.registerAll settings.actions.registry extension configs [] stores with
  | error e => simp [bind, Except.bind]
  | ok result =>
    obtain ⟨actions, left⟩ := result
    simp only [bind, Except.bind, pure, Except.pure]
    split
    · rename_i broken
      simp [broken]
    · rename_i router put
      simp only [put, Option.isSome_some, true_and, Except.ok.injEq, Prod.mk.injEq]
      constructor
      · rintro ⟨rfl, rfl⟩
        exact ⟨actions, ⟨rfl, rfl⟩, rfl⟩
      · rintro ⟨_, ⟨rfl, rfl⟩, rfl⟩
        exact ⟨rfl, rfl⟩

/-- Without the configurations of some actions the server has the other ones. -/
theorem build_filter (keep : Action → Bool) {configs : List ActionConfig} {stores after : Stores}
    {s : Server} (built : build settings files link extension configs base stores = .ok (s, after)) :
    ∃ s' after', build settings files link extension
        (configs.filter fun c => keep (Registry.actionOf settings.actions.registry extension c)) base
        stores = .ok (s', after') ∧
      s'.settings = s.settings ∧
      s'.dispatcher.registry.actions = s.dispatcher.registry.actions.filter keep := by
  obtain ⟨mounted, actions, registered, rfl⟩ := build_eq_ok_iff.mp built
  obtain ⟨after', fewer⟩ :=
    Registry.registerAll_filter keep List.Pairwise.nil (t := stores) ⟨rfl, rfl⟩ registered
  exact ⟨_, after', build_eq_ok_iff.mpr ⟨mounted, _, fewer, rfl⟩, rfl, rfl⟩

/-- Servers of the same settings answer for the list of actions alike, if they have the same open
actions. -/
theorem respond_actions {s t : Server} {r : HttpRequest} (same : s.settings = t.settings)
    (outside : s.isInternal r = false) (path : r.path = "/actions")
    (alike : s.dispatcher.registry.actions.filter (fun a => !a.internal) =
      t.dispatcher.registry.actions.filter fun a => !a.internal) (w : World) :
    (s.respond r w).1 = (t.respond r w).1 := by
  have outside' : t.isInternal r = false := by rw [← outside, isInternal, isInternal, same]
  have own : s.serveOwn r = t.serveOwn r := by
    simp only [serveOwn, path, if_true, listing_of_outside outside, listing_of_outside outside',
      alike]
  have named : ownPaths.contains r.path = true := by simp [ownPaths, path]
  by_cases question : r.method = "OPTIONS"
  · rw [respond_of_question question, respond_of_question question, same]
  · have served : (s.serve r w).1 = (t.serve r w).1 := by
      simp only [serve, named, if_true, own]
    rw [respond_of_other question, respond_of_other question, served]
    simp only [delivered, same]

end

/-- **Internal actions stay closed to a request that does not carry the secret.** Whatever the loads
have left, it is answered with nothing done or with one run of an action that is open to all, and it
is answered alike whatever the executables of the internal actions are. The list of actions it is
given is that of the same server configured without them. -/
theorem respond_closed {lookup : String → Option String} {settings : ServerSettings}
    (accepted : ServerSettings.ofVariables lookup = .ok settings) {files : FileSystem} {link : Link}
    {extension : String} {configs : List ActionConfig} {base : BaseResource}
    {stores after : Stores} {s : Server}
    (built : build settings files link extension configs base stores = .ok (s, after))
    {r : HttpRequest} (outside : ¬r.Presents lookup) :
    (∀ state, (s.withStates state).dispatcher.OpenOnly ((s.withStates state).respond r)) ∧
      (∀ state state', s.AgreeOnOpen state state' →
        (s.withStates state).respond r = (s.withStates state').respond r) ∧
      ∃ s' after', build settings files link extension (configs.filter fun c => !c.internal) base
          stores = .ok (s', after') ∧
        (r.path = "/actions" → ∀ loader w,
          ((s.settle loader).respond r w).1 = ((s'.settle loader).respond r w).1) := by
  have own : s.settings = settings := by
    obtain ⟨-, actions, -, rfl⟩ := build_eq_ok_iff.mp built
    rfl
  have foreign : s.isInternal r = false := isInternal_eq_false (own ▸ accepted) outside
  refine ⟨fun state => openOnly_respond foreign, fun state state' agree =>
    respond_withStates agree foreign, ?_⟩
  obtain ⟨s', after', fewer, same, kept⟩ := build_filter (fun a => !a.internal) built
  refine ⟨s', after', fewer, fun path loader w =>
    respond_actions (s := s.settle loader) (t := s'.settle loader) same.symm foreign path ?_ w⟩
  -- Loading keeps the mark of an action, so leaving out before or after it is the same.
  simp only [settle, Registry.settle, List.filter_map, kept, List.filter_filter, Function.comp_def,
    Bool.and_self]

/-- An internal action and an open one, and a request for the former with a wrong secret. -/
theorem respond_closed_wrong_secret :
    let lookup := secretOnly "s3cret"
    let configs : List ActionConfig :=
      [⟨"audit", none, true, some "log"⟩, ⟨"greet", none, false, none⟩]
    let stores := Stores.new (fun _ _ => "x") .memory {}
    let r : HttpRequest :=
      ⟨"GET", "/action/%61udit/", [("X-Internal-Secret", Utf8.encode "secret")], []⟩
    ∃ settings built, ServerSettings.ofVariables lookup = .ok settings ∧
      build settings .empty .down "sh" configs .none stores = .ok built ∧ ¬r.Presents lookup ∧
      (∀ state, (built.1.withStates state).dispatcher.OpenOnly
        ((built.1.withStates state).respond r)) ∧
      (∀ state state', built.1.AgreeOnOpen state state' →
        (built.1.withStates state).respond r = (built.1.withStates state').respond r) ∧
      ∃ s' after', build settings .empty .down "sh" (configs.filter fun c => !c.internal) .none
          stores = .ok (s', after') ∧
        (r.path = "/actions" → ∀ loader w,
          ((built.1.settle loader).respond r w).1 = ((s'.settle loader).respond r w).1) := by
  intro lookup configs stores r
  obtain ⟨settings, built, accepted, done⟩ := exists_ok_of_isSome
    (r := ServerSettings.ofVariables lookup)
    (f := fun settings => build settings .empty .down "sh" configs .none stores)
    (by decide +kernel)
  have outside : ¬r.Presents lookup := by
    rintro ⟨secret, set, -, carried⟩
    obtain rfl : "s3cret" = secret := Option.some.inj set
    exact absurd carried (by decide +kernel)
  exact ⟨settings, built, accepted, done, outside, respond_closed accepted done outside⟩

end Server

end ActionServer
