import ActionServer.Proofs.Action.Name
import ActionServer.Proofs.Action.Paths

/-!
# How paths are classified

The prefix is taken without the slashes at its end, and so is the name behind it. Hence only what is
left of a path without its slashes at the end counts: it is the prefix, or the prefix with a slash and
a name behind it, or it belongs to no action. Slashes at the end of either make no difference.

The bare prefix has the empty name. No configuration that passes its check is known by it, so such a
path is always one for which there is no action.
-/

namespace ActionServer

namespace Dispatcher

open Text (EndsInSlash slashes trimTrailingSlashes)

/-- The path of a name, without slashes at its end: the prefix alone for the empty name. -/
def bareOf (routePrefix name : String) : String :=
  if name = "" then routePrefix else routePrefix ++ "/" ++ name

theorem not_endsInSlash_bareOf {routePrefix name : String} (plain : ¬EndsInSlash routePrefix)
    (named : ¬EndsInSlash name) : ¬EndsInSlash (bareOf routePrefix name) := by
  simp only [bareOf]
  split
  · exact plain
  · rename_i present
    rw [Text.endsInSlash_append_iff present]
    exact named

/-- A path has a name exactly if it is the path of that name with slashes behind it. -/
theorem actionName?_eq_some_iff_bareOf {routePrefix path name : String}
    (plain : ¬EndsInSlash routePrefix) :
    actionName? routePrefix path = some name ↔
      ¬EndsInSlash name ∧ trimTrailingSlashes path = bareOf routePrefix name := by
  have empty : ¬EndsInSlash "" := by decide
  rw [actionName?_eq_some_iff]
  constructor
  · rintro (⟨rfl, rfl⟩ | ⟨rest, rfl, read⟩)
    · exact ⟨empty, Text.trimTrailingSlashes_eq_self_iff.mpr plain⟩
    · obtain ⟨named, n, rfl⟩ := Text.trimTrailingSlashes_eq_iff.mp read
      refine ⟨named, Text.trimTrailingSlashes_eq_iff.mpr ⟨not_endsInSlash_bareOf plain named, ?_⟩⟩
      by_cases bare : name = ""
      · -- The slash behind the prefix is one of those at the end.
        refine ⟨n + 1, ?_⟩
        rw [bareOf, if_pos bare, bare, Text.slashes_succ, String.empty_append, String.append_assoc]
      · refine ⟨n, ?_⟩
        simp only [bareOf, if_neg bare, String.append_assoc]
  · rintro ⟨named, read⟩
    obtain ⟨-, n, whole⟩ := Text.trimTrailingSlashes_eq_iff.mp read
    by_cases bare : name = ""
    · rw [bareOf, if_pos bare] at whole
      cases n with
      | zero =>
        rw [Text.slashes_zero, String.append_empty] at whole
        exact .inl ⟨whole, bare⟩
      | succ n =>
        rw [Text.slashes_succ, ← String.append_assoc] at whole
        refine .inr ⟨slashes n, whole, Text.trimTrailingSlashes_eq_iff.mpr ⟨named, n, ?_⟩⟩
        rw [bare, String.empty_append]
    · refine .inr ⟨name ++ slashes n, ?_, Text.trimTrailingSlashes_eq_iff.mpr ⟨named, n, rfl⟩⟩
      simpa only [bareOf, if_neg bare, String.append_assoc] using whole

/-- Slashes at the end of a path make no difference. -/
theorem actionName?_append_slashes {routePrefix : String} (plain : ¬EndsInSlash routePrefix)
    (path : String) (n : Nat) :
    actionName? routePrefix (path ++ slashes n) = actionName? routePrefix path := by
  apply Option.ext
  intro name
  rw [actionName?_eq_some_iff_bareOf plain, actionName?_eq_some_iff_bareOf plain,
    Text.trimTrailingSlashes_append_slashes]

/-- The paths with the empty name are the prefix with any number of slashes. -/
theorem actionName?_eq_empty_iff {routePrefix path : String} (plain : ¬EndsInSlash routePrefix) :
    actionName? routePrefix path = some "" ↔ ∃ n, path = routePrefix ++ slashes n := by
  have empty : ¬EndsInSlash "" := by decide
  rw [actionName?_eq_some_iff_bareOf plain, bareOf, if_pos rfl, Text.trimTrailingSlashes_eq_iff]
  exact ⟨fun ⟨_, _, bare⟩ => bare, fun bare => ⟨empty, plain, bare⟩⟩

end Dispatcher

namespace Registry

/-- No action of a registry is known by the empty name, whatever became of the loads. -/
theorem get?_empty {settings : RegistrySettings} {extension : String} {configs : List ActionConfig}
    {s t : Stores} {g : Registry}
    (built : start .running settings extension configs s = .ok (g, t)) (state : Action → LoadState) :
    (g.withStates state).get? "" = none := by
  obtain ⟨fit, -, -⟩ := exists_build_iff.mp ⟨g, t, built⟩
  have unknown : g.get? "" = none := by
    rw [← Option.not_isSome_iff_eq_none, (build_represents built).1.known]
    rintro ⟨c, member, empty⟩
    exact keyOf_ne_empty (fit c member) settings empty
  rw [get?_withStates, unknown, Option.map_none]

end Registry

namespace Dispatcher

open Text (EndsInSlash slashes)

/-- **Paths are classified by the prefix and the slash behind it.** The prefix is what is given,
without the slashes at its end. A request is declined exactly if its path is neither the prefix nor
goes on from it with a slash; any other is handed to the name that stands there, without slashes at
its end. Slashes at the end of the path or of the prefix that is given change nothing. The paths with
the empty name are the prefix and slashes, and for these there is no action, however far the loads
of a registry are. -/
theorem handle_classified {given : String} {settings : RegistrySettings} {extension : String}
    {configs : List ActionConfig} {s t : Stores} {g : Registry}
    (built : Registry.start .running settings extension configs s = .ok (g, t)) {d : Dispatcher}
    {state : Action → LoadState} (served : d.registry = g.withStates state)
    (chosen : d.routePrefix = trimPrefix given) :
    (¬EndsInSlash d.routePrefix ∧ ∃ n, given = d.routePrefix ++ slashes n) ∧
    (∀ r w, (d.handle r w).1 = .declined ↔
      r.path ≠ d.routePrefix ∧ ∀ rest, r.path ≠ d.routePrefix ++ "/" ++ rest) ∧
    (∀ r w name, actionName? d.routePrefix r.path = some name →
      d.handle r w = (.completed (d.invoke name r w).1, (d.invoke name r w).2)) ∧
    (∀ path name, actionName? d.routePrefix path = some name ↔ path = d.routePrefix ∧ name = "" ∨
      ¬EndsInSlash name ∧ ∃ n, path = d.routePrefix ++ "/" ++ (name ++ slashes n)) ∧
    (∀ path n, actionName? d.routePrefix (path ++ slashes n) = actionName? d.routePrefix path) ∧
    (∀ path n, actionName? (trimPrefix (given ++ slashes n)) path = actionName? d.routePrefix path) ∧
    (∀ path, actionName? d.routePrefix path = some "" ↔ ∃ n, path = d.routePrefix ++ slashes n) ∧
    ∀ r w, actionName? d.routePrefix r.path = some "" →
      d.handle r w = (.completed (.error (.notFound r.path)), w) := by
  have trimmed := Text.trimTrailingSlashes_eq_iff.mp chosen.symm
  have plain := trimmed.1
  refine ⟨trimmed, ?_, ?_, ?_, actionName?_append_slashes plain, ?_,
    fun path => actionName?_eq_empty_iff plain, ?_⟩
  · intro r w
    have outside : ¬Within d.routePrefix r.path ↔
        r.path ≠ d.routePrefix ∧ ∀ rest, r.path ≠ d.routePrefix ++ "/" ++ rest := by
      simp only [Within, not_or, not_exists, ne_eq]
    rw [← outside]
    constructor
    · intro declined within
      obtain ⟨result, completed⟩ := handle_of_within within w
      rw [completed] at declined
      cases declined
    · intro other
      rw [handle_of_not_within other]
  · intro r w name read
    simp only [handle, read]
  · intro path name
    rw [actionName?_eq_some_iff]
    refine or_congr_right ⟨?_, ?_⟩
    · rintro ⟨rest, below, read⟩
      obtain ⟨named, n, rfl⟩ := Text.trimTrailingSlashes_eq_iff.mp read
      exact ⟨named, n, below⟩
    · rintro ⟨named, n, below⟩
      exact ⟨name ++ slashes n, below, Text.trimTrailingSlashes_eq_iff.mpr ⟨named, n, rfl⟩⟩
  · intro path n
    rw [chosen, trimPrefix, Text.trimTrailingSlashes_append_slashes, trimPrefix]
  · intro r w read
    have unknown : d.registry.get? "" = none := by
      rw [served]
      exact Registry.get?_empty built state
    simp only [handle, read, invoke, unknown]

/-- A prefix of nothing but slashes, with which every path that begins with a slash is an action
path, while the script of the only action is being loaded. -/
theorem handle_classified_root :
    let settings : RegistrySettings := ⟨"action", "/srv/actions", .allSpaces⟩
    let s := Stores.new (fun _ _ => "x") .memory {}
    ∃ g t, Registry.start .running settings "sh" [.named "A/B C"] s = .ok (g, t) ∧
      let d : Dispatcher := ⟨"", g.withStates fun _ => .pending, .disabled, none⟩
      d.routePrefix = trimPrefix "//" ∧
      (d.handle ⟨"GET", "a/b-c", ∅, ∅, true⟩ (.ofStores t)).1 = .declined ∧
      actionName? "" ("/a/b-c" ++ slashes 2) = some "a/b-c" ∧
      d.handle ⟨"GET", "//", ∅, ∅, true⟩ (.ofStores t) =
        (.completed (.error (.notFound "//")), .ofStores t) := by
  intro settings s
  have fit : ∀ c ∈ [ActionConfig.named "A/B C"], c.check = .ok () := by
    intro c member
    obtain rfl := List.mem_singleton.mp member
    exact eq_ok_of_toOption (by decide +kernel)
  have opens : ∀ c ∈ [ActionConfig.named "A/B C"], ∀ name, c.resource = some name →
      ∃ t, s.openCollection name = .ok t := fun _ _ name _ => ⟨_, rfl⟩
  obtain ⟨g, t, built⟩ := Registry.exists_build_iff.mpr ⟨fit, by simp, opens⟩
  refine ⟨g, t, built, ?_⟩
  intro d
  have root : "" = trimPrefix "//" := by decide +kernel
  have chosen : d.routePrefix = trimPrefix "//" := root
  obtain ⟨-, declined, -, named, same, -, bare, unknown⟩ :=
    handle_classified built (d := d) rfl chosen
  refine ⟨chosen, (declined _ _).mpr ⟨?_, ?_⟩, ?_, ?_⟩
  · change "a/b-c" ≠ ""
    decide
  · intro rest same
    have first := congrArg (fun path => path.toList.head?) same
    simp [d] at first
  · have below : "/a/b-c" = "" ++ "/" ++ ("a/b-c" ++ slashes 0) := by decide +kernel
    exact (same "/a/b-c" 2).trans ((named _ _).mpr (.inr ⟨by decide, 0, below⟩))
  · have slashed : "//" = "" ++ slashes 2 := by decide +kernel
    exact unknown ⟨"GET", "//", ∅, ∅, true⟩ _ ((bare "//").mpr ⟨2, slashed⟩)

end Dispatcher

end ActionServer
