import ActionServer.Proofs.Outcome
import ActionServer.Proofs.Server.Settings
import ActionServer.Server.Basic
import Mathlib.Data.List.Nodup

/-!
# Accepted settings and the router

The settings are checked where they are read and used where the router is put together. A resource
name that is accepted keeps the routes of the actions apart from those of the server, whatever it is:
the reserved names are exactly the server's own paths, and the route of the action names goes on from
the prefix and ends as none of the others does. The origins are checked only for what a header can
hold, so the one origin that the router does not take passes.
-/

namespace ActionServer

theorem Origins.isUsable_iff (origins : List String) :
    isUsable origins = true ↔ "*" ∉ origins := by
  simp [isUsable]

/-- An origin of the list is a part of the text, without the blanks around it. -/
theorem ServerSettings.star_mem_originsOf_iff (list : String) :
    "*" ∈ originsOf list ↔
      ∃ part ∈ Text.split (· == ',') list.toList, Text.trimChars part = ['*'] := by
  have star (cs : List Char) : String.ofList cs = "*" ↔ cs = ['*'] := by
    rw [← String.toList_inj]
    simp
  simp [originsOf, List.mem_filter, star]

namespace Router

/-- Routes that are all different can be added one after the other. -/
theorem foldlM_add {r : Router} {routes : List String} (once : (r.routes ++ routes).Nodup) :
    routes.foldlM add r = some { r with routes := r.routes ++ routes } := by
  induction routes generalizing r with
  | nil => simp
  | cons route rest ih =>
    have fresh : route ∉ r.routes := fun known =>
      (List.nodup_append.mp once).2.2 route known route (by simp) rfl
    have added : add r route = some { r with routes := r.routes ++ [route] } := by
      simp [add, fresh]
    rw [List.foldlM_cons, added]
    simpa using ih (r := { r with routes := r.routes ++ [route] }) (by simpa using once)

/-- The routes of the actions are apart from the server's own, and from each other. -/
theorem nodup_routesFor {name : String} (accepted : ServerSettings.isRouteSegment name = true) :
    (routesFor ("/" ++ name)).Nodup := by
  simp only [ServerSettings.isRouteSegment, Bool.and_eq_true, Bool.not_eq_true',
    ServerSettings.reservedNames, List.contains_eq_mem, List.mem_cons, List.not_mem_nil, or_false,
    decide_eq_false_iff_not, not_or] at accepted
  obtain ⟨⟨notActions, notHealth⟩, -⟩ := accepted
  -- The reserved names tell the prefix from the server's own paths; the last route differs from all
  -- others in how it ends.
  have ending (s : String) : (s ++ "/\x7b*name\x7d").toList.getLast? = some '\x7d' := by
    simp [String.toList_append]
  have longer : "/" ++ name ≠ "/" ++ name ++ "/\x7b*name\x7d" := fun same => by
    simpa using congrArg String.length same
  have apart (s own : String) (last : own.toList.getLast? ≠ some '\x7d') :
      own ≠ s ++ "/\x7b*name\x7d" := by
    rintro rfl
    exact last (ending s)
  have slash (own : String) : "/" ++ own = "/" ++ name ↔ own = name := by
    simp [← String.toList_inj]
  have health : "/health" ≠ "/" ++ name := fun same =>
    notHealth ((slash "health").mp same).symm
  have actions : "/actions" ≠ "/" ++ name := fun same =>
    notActions ((slash "actions").mp same).symm
  simp only [routesFor, List.nodup_cons, List.mem_cons, List.not_mem_nil, or_false, not_or,
    not_false_eq_true, List.nodup_nil, and_true]
  exact ⟨⟨by decide, health, apart _ _ (by decide)⟩, ⟨actions, apart _ _ (by decide)⟩, longer⟩

/-- The router of accepted settings, which their origins alone decide. -/
theorem build_of_accepted {lookup : String → Option String} {settings : ServerSettings}
    (accepted : ServerSettings.ofVariables lookup = .ok settings) :
    build settings =
      if "*" ∈ settings.corsOrigins then none
      else some ⟨settings.corsOrigins, routesFor settings.actions.routePrefix⟩ := by
  obtain ⟨-, chosen⟩ := ServerSettings.parts_of_accepted accepted
  obtain ⟨segment, -⟩ := ServerSettings.actionSettings_eq chosen
  have distinct : (routesFor settings.actions.routePrefix).Nodup := nodup_routesFor segment
  simp only [build, new, Origins.isUsable_iff]
  by_cases star : "*" ∈ settings.corsOrigins
  · simp [star]
  · simp only [star, not_false_eq_true, if_true, if_false]
    exact foldlM_add distinct

end Router

namespace Server

/-- **What the settings accept can be served, unless `*` is one of the origins.** The origins are
the comma-separated parts of a variable, without the blanks around them. If none of them is `*`, the
router of accepted settings is put together, with routes that are all different, and a server comes
of every registry; if one is, none ever does. -/
theorem build_served_iff {lookup : String → Option String} {settings : ServerSettings}
    (accepted : ServerSettings.ofVariables lookup = .ok settings) :
    ("*" ∈ settings.corsOrigins ↔ ∃ list, ServerSettings.given lookup "CORS_ORIGINS" = some list ∧
        ∃ part ∈ Text.split (· == ',') list.toList, Text.trimChars part = ['*']) ∧
      (Router.routesFor settings.actions.routePrefix).Nodup ∧
      (Router.build settings = if "*" ∈ settings.corsOrigins then none
        else some ⟨settings.corsOrigins, Router.routesFor settings.actions.routePrefix⟩) ∧
      ∀ files link extension configs base stores result,
        Registry.build settings.actions.registry extension configs stores = .ok result →
        if "*" ∈ settings.corsOrigins
        then build settings files link extension configs base stores = .error .origins
        else ∃ s, build settings files link extension configs base stores = .ok (s, result.2) := by
  obtain ⟨listed, chosen⟩ := ServerSettings.parts_of_accepted accepted
  obtain ⟨segment, -⟩ := ServerSettings.actionSettings_eq chosen
  refine ⟨?_, Router.nodup_routesFor segment, Router.build_of_accepted accepted, ?_⟩
  · rw [ServerSettings.eq_originsOf listed]
    cases given : ServerSettings.given lookup "CORS_ORIGINS" with
    | none =>
      have usual : "*" ∉ ServerSettings.originsOf "http://localhost:5173" := by decide +kernel
      simpa using usual
    | some list => simp [ServerSettings.star_mem_originsOf_iff]
  · intro files link extension configs base stores result registered
    simp only [build, registered, Router.build_of_accepted accepted]
    split
    · rfl
    · exact ⟨_, rfl⟩

/-- Two origins, and a resource name that begins like one of the server's own paths. -/
theorem build_served_two_origins :
    let lookup : String → Option String := fun name =>
      if name = "CORS_ORIGINS" then some "http://a.example, *.example" else
      if name = "RESOURCE_NAME" then some "health-1" else none
    ∃ settings, ServerSettings.ofVariables lookup = .ok settings ∧
      settings.corsOrigins = ["http://a.example", "*.example"] ∧
      ("*" ∈ settings.corsOrigins ↔ ∃ list, ServerSettings.given lookup "CORS_ORIGINS" = some list ∧
        ∃ part ∈ Text.split (· == ',') list.toList, Text.trimChars part = ['*']) ∧
      (Router.routesFor settings.actions.routePrefix).Nodup ∧
      (Router.build settings = if "*" ∈ settings.corsOrigins then none
        else some ⟨settings.corsOrigins, Router.routesFor settings.actions.routePrefix⟩) ∧
      ∀ files link extension configs base stores result,
        Registry.build settings.actions.registry extension configs stores = .ok result →
        if "*" ∈ settings.corsOrigins
        then build settings files link extension configs base stores = .error .origins
        else ∃ s, build settings files link extension configs base stores = .ok (s, result.2) := by
  intro lookup
  obtain ⟨settings, accepted, listed⟩ := exists_ok_of_any
    (r := ServerSettings.ofVariables lookup)
    (p := fun settings => settings.corsOrigins == ["http://a.example", "*.example"])
    (by decide +kernel)
  exact ⟨settings, accepted, eq_of_beq listed, build_served_iff accepted⟩

/-- The settings accept `*` as the only origin, and no server can be built of them. -/
theorem build_broken_by_star :
    let lookup : String → Option String := fun name =>
      if name = "CORS_ORIGINS" then some "*" else none
    ∃ settings, ServerSettings.ofVariables lookup = .ok settings ∧ Router.build settings = none ∧
      ∀ files link extension base stores,
        build settings files link extension [] base stores = .error .origins := by
  intro lookup
  obtain ⟨settings, accepted, broken⟩ := exists_ok_of_any
    (r := ServerSettings.ofVariables lookup) (p := fun settings => (Router.build settings).isNone)
    (by decide +kernel)
  have none : Router.build settings = none := Option.isNone_iff_eq_none.mp broken
  refine ⟨settings, accepted, none, fun files link extension base stores => ?_⟩
  simp only [build, none]
  rfl

end Server

end ActionServer
