import ActionServer.Proofs.Action.Paths
import ActionServer.Proofs.Server.Router

/-!
# Routing

The router compares its routes with the path as it is written in the request, the dispatcher its
prefix with the decoded path. Both leave the server's own paths alone for every accepted resource
name. Such a name is not empty, is none of the reserved ones and has no slash, so neither the prefix
nor anything below it is an own path or lies below one; and it has no brace, so no route has a
parameter but the one that ends the last.
-/

namespace ActionServer

namespace Router

/-! ### Routes and paths -/

/-- The texts between braces. A name that is being read is kept with its last character first. -/
def parametersIn : Option (List Char) → List Char → List String
  | _, [] => []
  | none, c :: rest => parametersIn (if c = '\x7b' then some [] else none) rest
  | some name, c :: rest =>
    if c = '\x7d' then String.ofList name.reverse :: parametersIn none rest
    else parametersIn (some (c :: name)) rest

/-- The parameters of a route. -/
def parameters (route : String) : List String :=
  parametersIn none route.toList

/-- Whether a route stands for a path. Routes have no parameters but those that take all that is
left of a path, which must be something; every other character stands for itself. -/
def takesChars : List Char → List Char → Bool
  | [], path => path.isEmpty
  | c :: route, path =>
    if c = '\x7b' then !path.isEmpty
    else match path with
      | [] => false
      | d :: path => c == d && takesChars route path

def takes (route path : String) : Bool :=
  takesChars route.toList path.toList

section

variable {literal : List Char} (plain : '\x7b' ∉ literal)
include plain

theorem parametersIn_append (rest : List Char) :
    parametersIn none (literal ++ rest) = parametersIn none rest := by
  induction literal with
  | nil => rfl
  | cons c literal ih =>
    have other : c ≠ '\x7b' := (List.ne_of_not_mem_cons plain).symm
    rw [List.cons_append, parametersIn, if_neg other, ih (List.not_mem_of_not_mem_cons plain)]

/-- What stands before the first parameter stands for itself. -/
theorem takesChars_append (rest path : List Char) :
    takesChars (literal ++ rest) path = true ↔
      ∃ behind, path = literal ++ behind ∧ takesChars rest behind = true := by
  induction literal generalizing path with
  | nil => simp
  | cons c literal ih =>
    have other : c ≠ '\x7b' := (List.ne_of_not_mem_cons plain).symm
    cases path with
    | nil => simp [takesChars, other]
    | cons d path =>
      simp only [List.cons_append, takesChars, if_neg other, Bool.and_eq_true, beq_iff_eq,
        ih (List.not_mem_of_not_mem_cons plain), List.cons.injEq]
      constructor
      · rintro ⟨rfl, behind, rfl, taken⟩
        exact ⟨behind, ⟨rfl, rfl⟩, taken⟩
      · rintro ⟨behind, ⟨rfl, rfl⟩, taken⟩
        exact ⟨rfl, behind, rfl, taken⟩

end

/-- A route without parameters is the one path that it takes. -/
theorem takes_literal {route : String} (plain : '\x7b' ∉ route.toList) (path : String) :
    takes route path = true ↔ path = route := by
  have same := takesChars_append plain [] path.toList
  simp only [List.append_nil, takesChars, List.isEmpty_iff] at same
  rw [takes, same, ← String.toList_inj]
  simp

/-- The route below a prefix takes all that lies below the prefix, but not the bare slash. -/
theorem takes_below {top : String} (plain : '\x7b' ∉ top.toList) (path : String) :
    takes (top ++ "/\x7b*name\x7d") path = true ↔ ∃ rest ≠ "", path = top ++ "/" ++ rest := by
  have slash : '\x7b' ∉ (top ++ "/").toList := by simpa using plain
  have split : (top ++ "/\x7b*name\x7d").toList = (top ++ "/").toList ++ "\x7b*name\x7d".toList := by
    simp
  have ending (behind : List Char) :
      takesChars "\x7b*name\x7d".toList behind = true ↔ behind ≠ [] := by
    cases behind <;> simp [takesChars]
  rw [takes, split, takesChars_append slash]
  constructor
  · rintro ⟨behind, same, taken⟩
    refine ⟨String.ofList behind, fun empty => (ending behind).mp taken ?_, ?_⟩
    · simpa using congrArg String.toList empty
    · rw [← String.toList_inj, same]
      simp
  · rintro ⟨rest, present, rfl⟩
    refine ⟨rest.toList, by simp, (ending _).mpr fun empty => present ?_⟩
    rwa [← String.toList_inj]

/-! ### Entries -/

/-- What a router leads to. -/
inductive Entry where
  | health
  | listing
  | bare
  | named
  | fallback
  deriving DecidableEq, Repr

/-- The routes with what stands behind them. -/
def table (routePrefix : String) : List (String × Entry) :=
  [("/health", .health), ("/actions", .listing), (routePrefix, .bare),
    (routePrefix ++ "/\x7b*name\x7d", .named)]

/-- Where a path leads, as it is written: behind the first route that takes it. -/
def entry (routePrefix path : String) : Entry :=
  ((table routePrefix).find? fun row => takes row.1 path).elim .fallback (·.2)

theorem entry_eq (routePrefix path : String) :
    entry routePrefix path =
      if path = "/health" then .health
      else if path = "/actions" then .listing
      else if takes routePrefix path then .bare
      else if takes (routePrefix ++ "/\x7b*name\x7d") path then .named
      else .fallback := by
  have health : takes "/health" path = decide (path = "/health") :=
    Bool.eq_iff_iff.mpr ((takes_literal (by decide) path).trans decide_eq_true_iff.symm)
  have actions : takes "/actions" path = decide (path = "/actions") :=
    Bool.eq_iff_iff.mpr ((takes_literal (by decide) path).trans decide_eq_true_iff.symm)
  simp only [entry, table, List.find?_cons, health, actions]
  by_cases first : path = "/health"
  · simp [first]
  by_cases second : path = "/actions"
  · simp [second]
  simp only [first, second, decide_false, if_false]
  cases takes routePrefix path <;>
    cases takes (routePrefix ++ "/\x7b*name\x7d") path <;> rfl

/-! ### Accepted names -/

section

variable {name : String} (segment : ServerSettings.isRouteSegment name = true)
include segment

theorem not_brace_mem_routePrefix : '\x7b' ∉ ("/" ++ name).toList := by
  obtain ⟨-, -, -, brace⟩ := ServerSettings.plain_of_isRouteSegment segment
  simpa using brace

/-- Nothing that is an own path or lies below one is an action path. -/
theorem not_within_of_own {own path : String} (kept : own ∈ Server.ownPaths)
    (within : Dispatcher.Within own path) : ¬Dispatcher.Within ("/" ++ name) path := by
  obtain ⟨notActions, notHealth, slash, -⟩ := ServerSettings.plain_of_isRouteSegment segment
  intro asked
  simp only [Server.ownPaths, List.mem_cons, List.not_mem_nil, or_false] at kept
  rcases kept with rfl | rfl
  · exact notActions (Dispatcher.eq_of_within slash (by decide) asked within)
  · exact notHealth (Dispatcher.eq_of_within slash (by decide) asked within)

theorem within_of_takes_below {path : String}
    (taken : takes ("/" ++ name ++ "/\x7b*name\x7d") path = true) :
    Dispatcher.Within ("/" ++ name) path := by
  obtain ⟨rest, -, below⟩ := (takes_below (not_brace_mem_routePrefix segment) path).mp taken
  exact .inr ⟨rest, below⟩

/-- No path is taken by two of the routes. -/
theorem routesFor_apart : (routesFor ("/" ++ name)).Pairwise fun a b =>
    ∀ path, takes a path = true → takes b path = true → False := by
  have brace := not_brace_mem_routePrefix segment
  have own {path : String} (kept : path ∈ Server.ownPaths) :
      ¬Dispatcher.Within ("/" ++ name) path := not_within_of_own segment kept (.inl rfl)
  have health (path : String) : takes "/health" path = true ↔ path = "/health" :=
    takes_literal (by decide) path
  have actions (path : String) : takes "/actions" path = true ↔ path = "/actions" :=
    takes_literal (by decide) path
  have bare (path : String) : takes ("/" ++ name) path = true ↔ path = "/" ++ name :=
    takes_literal brace path
  simp only [routesFor, List.pairwise_cons, List.mem_cons, List.not_mem_nil, or_false,
    forall_eq_or_imp, forall_eq, health, actions, bare, List.Pairwise.nil, and_true,
    IsEmpty.forall_iff, implies_true]
  refine ⟨⟨?_, ?_, ?_⟩, ⟨?_, ?_⟩, ?_⟩
  · decide
  · exact fun same => own (by decide) (.inl same)
  · exact fun below => own (by decide) (within_of_takes_below segment below)
  · exact fun same => own (by decide) (.inl same)
  · exact fun below => own (by decide) (within_of_takes_below segment below)
  · intro below
    obtain ⟨rest, -, same⟩ := (takes_below brace _).mp below
    exact Dispatcher.append_slash_ne _ rest same.symm

theorem parameters_routesFor :
    (routesFor ("/" ++ name)).map parameters = [[], [], [], ["*name"]] := by
  have brace := not_brace_mem_routePrefix segment
  have bare : parameters ("/" ++ name) = [] := by
    have read := parametersIn_append brace []
    rwa [List.append_nil] at read
  have below : parameters ("/" ++ name ++ "/\x7b*name\x7d") = ["*name"] := by
    rw [parameters, String.toList_append, parametersIn_append brace]
    decide
  simp only [routesFor, List.map_cons, List.map_nil, bare, below]
  decide

end

end Router

/-- The dispatcher of accepted settings has the prefix as it is routed. -/
theorem ServerSettings.trimPrefix_routePrefix {lookup : String → Option String}
    {settings : ServerSettings} (accepted : ofVariables lookup = .ok settings) :
    Dispatcher.trimPrefix settings.actions.routePrefix = settings.actions.routePrefix := by
  obtain ⟨-, chosen⟩ := parts_of_accepted accepted
  obtain ⟨segment, -⟩ := actionSettings_eq chosen
  obtain ⟨-, -, slash, -⟩ := plain_of_isRouteSegment segment
  have present : settings.actions.resourceName.toList ≠ [] := fun empty =>
    resourceName_ne_empty chosen (String.toList_inj.mp empty)
  refine Text.trimTrailingSlashes_eq_self_iff.mpr fun ends => slash ?_
  have last : settings.actions.resourceName.toList.getLast? = some '/' := by
    simpa [Text.EndsInSlash, ActionSettings.routePrefix, List.getLast?_cons_of_ne_nil present] using ends
  exact List.mem_of_getLast? last

namespace Server

/-- Answers a request where the router leads it. The own paths serve two methods, and everything else
goes to the dispatcher. -/
def serveAt (s : Server) (r : HttpRequest) (w : World) : Router.Entry → HttpResponse × World
  | .health =>
    (if r.method != "GET" && r.method != "HEAD" then .methodNotAllowed else s.health, w)
  | .listing =>
    (if r.method != "GET" && r.method != "HEAD" then .methodNotAllowed else s.listing r, w)
  | .bare | .named | .fallback => s.dispatch r w

/-- The server answers a request where the router leads it. -/
theorem serve_eq_serveAt (s : Server) (r : HttpRequest) (w : World) :
    s.serve r w = s.serveAt r w (Router.entry s.settings.actions.routePrefix r.path) := by
  rw [Router.entry_eq]
  by_cases health : r.path = "/health"
  · simp [serve, ownPaths, serveOwn, serveAt, health]
  by_cases actions : r.path = "/actions"
  · simp [serve, ownPaths, serveOwn, serveAt, actions]
  have foreign : ownPaths.contains r.path = false := by simp [ownPaths, health, actions]
  simp only [serve, foreign, Bool.false_eq_true, if_false, health, actions]
  split
  · rfl
  · split <;> rfl

/-- **No accepted resource name captures a path of the server.** Whatever the variables are, a
dispatcher with the prefix of the accepted settings declines the server's own paths and all that lies
below them, and answers the prefix and all that lies below it. The routes are all different, no path
is taken by two of them, and none has a parameter but the last, which has one. -/
theorem own_paths_kept {lookup : String → Option String} {settings : ServerSettings}
    (accepted : ServerSettings.ofVariables lookup = .ok settings) :
    let routePrefix := settings.actions.routePrefix
    let routes := Router.routesFor routePrefix
    (∀ d : Dispatcher, d.routePrefix = Dispatcher.trimPrefix routePrefix → ∀ r w,
      (∀ own ∈ ownPaths, Dispatcher.Within own r.path → d.handle r w = (.declined, w)) ∧
      (Dispatcher.Within routePrefix r.path → ∃ result, (d.handle r w).1 = .completed result)) ∧
    routes.Nodup ∧
    (routes.Pairwise fun a b => ∀ path, Router.takes a path = true → Router.takes b path = true →
      False) ∧
    routes.map Router.parameters = [[], [], [], ["*name"]] := by
  intro routePrefix routes
  obtain ⟨-, chosen⟩ := ServerSettings.parts_of_accepted accepted
  obtain ⟨segment, -⟩ := ServerSettings.actionSettings_eq chosen
  refine ⟨fun d served r w => ⟨fun own kept within => ?_, fun asked => ?_⟩,
    Router.nodup_routesFor segment, Router.routesFor_apart segment,
    Router.parameters_routesFor segment⟩
  · refine Dispatcher.handle_of_not_within ?_ w
    rw [served, ServerSettings.trimPrefix_routePrefix accepted]
    exact Router.not_within_of_own segment kept within
  · refine Dispatcher.handle_of_within ?_ w
    rwa [served, ServerSettings.trimPrefix_routePrefix accepted]

/-- A resource name that only a letter keeps from an own path. -/
theorem own_paths_kept_near :
    let lookup : String → Option String := fun name =>
      if name = "RESOURCE_NAME" then some "action" else none
    ∃ settings, ServerSettings.ofVariables lookup = .ok settings ∧
      settings.actions.routePrefix = "/action" ∧
      (∀ d : Dispatcher, d.routePrefix = Dispatcher.trimPrefix settings.actions.routePrefix →
        ∀ r w, (r.path = "/actions/action" → d.handle r w = (.declined, w)) ∧
          (r.path = "/action/actions" → ∃ result, (d.handle r w).1 = .completed result)) ∧
      (Router.routesFor settings.actions.routePrefix).Nodup := by
  intro lookup
  obtain ⟨settings, accepted, named⟩ := exists_ok_of_any
    (r := ServerSettings.ofVariables lookup)
    (p := fun settings => settings.actions.routePrefix == "/action") (by decide +kernel)
  obtain ⟨kept, different, -, -⟩ := own_paths_kept accepted
  refine ⟨settings, accepted, eq_of_beq named, fun d served r w => ?_, different⟩
  obtain ⟨declined, answered⟩ := kept d served r w
  refine ⟨fun path => declined "/actions" (by decide) ?_, fun path => answered ?_⟩
  · exact .inr ⟨"action", path⟩
  · rw [eq_of_beq named]
    exact .inr ⟨"actions", path⟩

end Server

end ActionServer
