import ActionServer.Proofs.Action.Registry

/-!
# How a registry comes about

Configurations are taken up one after the other, and the first that is refused ends the work. Why one
is refused can be told from the list alone: its own check, a namesake before it, or a collection that
does not open, and whether a collection opens depends on its name and not on what was opened before.

`Progress` is what each registration keeps: the actions so far are those of the configurations so
far, in the order of their names. An ordered list is determined by its members, so the order of the
configurations does not show in the registry.
-/

namespace ActionServer

namespace Stores

/-- A collection that does not open in one does not open in the other, for the same reason. -/
theorem OpensLike.openCollection_eq_error {s t : Stores} (alike : s.OpensLike t) {name : String}
    {e : StoreError} (shut : s.openCollection name = .error e) :
    t.openCollection name = .error e := by
  simp only [Stores.openCollection] at shut ⊢
  rw [← alike.1, ← alike.2]
  cases medium : s.medium with
  | closedDatabase =>
    rw [medium] at shut
    dsimp only at shut ⊢
    split at shut
    · rename_i blank
      rw [if_pos blank]
      cases shut
      rfl
    · cases shut
  | memory =>
    rw [medium] at shut
    dsimp only at shut ⊢
    split at shut
    · exact congrArg Except.error (Except.error.inj shut)
    · split at shut <;> cases shut

/-- Only in memory does opening leave something behind, and only under its name. -/
theorem isSome_get?_of_openCollection {s t : Stores} {name : String}
    (opened : s.openCollection name = .ok t) (other : String) :
    (t.get? other).isSome ↔ (s.get? other).isSome ∨ s.medium = .memory ∧ name = other := by
  simp only [openCollection] at opened
  cases medium : s.medium with
  | closedDatabase =>
    rw [medium] at opened
    dsimp only at opened
    split at opened <;> cases opened
    simp
  | memory =>
    rw [medium] at opened
    dsimp only at opened
    split at opened
    · cases opened
    · split at opened <;> cases opened
      · rename_i present
        constructor
        · exact Or.inl
        · rintro (already | ⟨-, rfl⟩)
          · exact already
          · exact present
      · simp [get?, List.find?_append]

/-- The faults of a driver, written down for some names, are looked up as they are. -/
private theorem lookup_faults (refuses : String → Option StoreError) {names : List String}
    {name : String} (member : name ∈ names) :
    (names.filterMap fun n => (refuses n).map (n, ·)).lookup name = refuses name := by
  induction names with
  | nil => cases member
  | cons first rest ih =>
    cases refused : refuses first with
    | none =>
      rw [List.filterMap_cons_none (by rw [refused]; rfl)]
      by_cases later : name ∈ rest
      · exact ih later
      · -- A name that opens has no entry, so none is found.
        obtain rfl := (List.mem_cons.mp member).resolve_right later
        rw [refused, List.lookup_eq_none_iff]
        intro entry found
        obtain ⟨n, own, made⟩ := List.mem_filterMap.mp found
        obtain ⟨e, -, rfl⟩ := Option.map_eq_some_iff.mp made
        simpa using fun same : name = n => later (same ▸ own)
    | some e =>
      rw [List.filterMap_cons_some (by rw [refused]; rfl), List.lookup_cons]
      by_cases same : name = first
      · subst same
        rw [refused, beq_self_eq_true]
      · rw [beq_eq_false_iff_ne.mpr same]
        exact ih ((List.mem_cons.mp member).resolve_left same)

/-- Whatever a driver refuses to open by name, there are stores that refuse the same. -/
theorem exists_refusing (refuses : String → Option StoreError) (names : List String) :
    ∃ s : Stores, ∀ name ∈ names, ∀ e,
      s.openCollection name = .error e ↔ refuses name = some e := by
  refine ⟨.new (fun _ _ => "") .memory ⟨names.filterMap fun n => (refuses n).map (n, ·), []⟩,
    fun name member e => ?_⟩
  simp only [openCollection, new, lookup_faults refuses member]
  cases refuses name with
  | none => simp [get?]
  | some e' => simp

end Stores

namespace Registry

/-- The name under which a configured action is known. -/
def keyOf (settings : RegistrySettings) (c : ActionConfig) : String :=
  settings.nameRule.apply c.name

/-- A configuration is refused that comes after others: for its own sake, else because its name is
taken, else because its collection does not open. -/
inductive Refused (settings : RegistrySettings) (s : Stores) (earlier : List ActionConfig)
    (c : ActionConfig) : ActionError → Prop where
  | unfit {e : ActionError} (check : c.check = .error e) : Refused settings s earlier c e
  | taken (fit : c.check = .ok ()) (namesake : ∃ d ∈ earlier, keyOf settings d = keyOf settings c) :
    Refused settings s earlier c
      (.validation s!"Duplicate action name '{keyOf settings c}' (from '{c.name}')")
  | shut {name : String} {e : StoreError} (fit : c.check = .ok ())
    (free : ∀ d ∈ earlier, keyOf settings d ≠ keyOf settings c) (bound : c.resource = some name)
    (closed : s.openCollection name = .error e) : Refused settings s earlier c (.store e)

/-- No configuration of a list that follows on others is refused. -/
def NoneRefused (settings : RegistrySettings) (s : Stores) (earlier configs : List ActionConfig) :
    Prop :=
  ∀ before c after, configs = before ++ c :: after →
    ∀ e, ¬Refused settings s (earlier ++ before) c e

section

variable {settings : RegistrySettings} {extension : String} {s : Stores}

theorem not_refused_iff {earlier : List ActionConfig} {c : ActionConfig} :
    (∀ e, ¬Refused settings s earlier c e) ↔
      c.check = .ok () ∧ (∀ d ∈ earlier, keyOf settings d ≠ keyOf settings c) ∧
        ∀ name, c.resource = some name → ∃ t, s.openCollection name = .ok t := by
  constructor
  · intro accepted
    have fit : c.check = .ok () := by
      cases checked : c.check with
      | error e => exact absurd (.unfit checked) (accepted e)
      | ok => rfl
    have free : ∀ d ∈ earlier, keyOf settings d ≠ keyOf settings c :=
      fun d member same => accepted _ (.taken fit ⟨d, member, same⟩)
    refine ⟨fit, free, fun name bound => ?_⟩
    cases opened : s.openCollection name with
    | error e => exact absurd (.shut fit free bound opened) (accepted _)
    | ok t => exact ⟨t, rfl⟩
  · rintro ⟨fit, free, opens⟩ e refused
    cases refused with
    | unfit check => exact nomatch fit.symm.trans check
    | taken _ namesake =>
      obtain ⟨d, member, same⟩ := namesake
      exact free d member same
    | shut _ _ bound closed =>
      obtain ⟨t, opened⟩ := opens _ bound
      exact nomatch opened.symm.trans closed

/-- A configuration is refused for one reason. -/
theorem Refused.unique {earlier : List ActionConfig} {c : ActionConfig} {e e' : ActionError}
    (one : Refused settings s earlier c e) (other : Refused settings s earlier c e') : e = e' := by
  cases one with
  | unfit check =>
    cases other with
    | unfit check' => exact Except.error.inj (check.symm.trans check')
    | taken fit | shut fit => exact nomatch fit.symm.trans check
  | taken fit namesake =>
    obtain ⟨d, member, same⟩ := namesake
    cases other with
    | unfit check => exact nomatch fit.symm.trans check
    | taken => rfl
    | shut _ free => exact absurd same (free d member)
  | shut fit free bound closed =>
    cases other with
    | unfit check => exact nomatch fit.symm.trans check
    | taken _ namesake =>
      obtain ⟨d, member, same⟩ := namesake
      exact absurd same (free d member)
    | shut _ _ bound' closed' =>
      cases bound.symm.trans bound'
      cases closed.symm.trans closed'
      rfl

theorem noneRefused_cons_iff {earlier rest : List ActionConfig} {c : ActionConfig} :
    NoneRefused settings s earlier (c :: rest) ↔
      (∀ e, ¬Refused settings s earlier c e) ∧ NoneRefused settings s (earlier ++ [c]) rest := by
  constructor
  · intro all
    refine ⟨by simpa using all [] c rest rfl, fun before d after parts => ?_⟩
    simpa using all (c :: before) d after (by simp [parts])
  · rintro ⟨first, others⟩ before d after parts
    cases before with
    | nil =>
      obtain ⟨rfl, -⟩ := List.cons.inj parts
      simpa using first
    | cons b before =>
      obtain ⟨rfl, parts'⟩ := List.cons.inj parts
      simpa using others before d after parts'

/-- A list is accepted when each configuration is, apart from the others and from each other. -/
theorem noneRefused_iff {earlier configs : List ActionConfig} :
    NoneRefused settings s earlier configs ↔
      (∀ c ∈ configs, c.check = .ok ()) ∧
      ((configs.map (keyOf settings)).Nodup ∧
        ∀ c ∈ configs, ∀ d ∈ earlier, keyOf settings d ≠ keyOf settings c) ∧
      ∀ c ∈ configs, ∀ name, c.resource = some name → ∃ t, s.openCollection name = .ok t := by
  induction configs generalizing earlier with
  | nil => simp [NoneRefused]
  | cons c rest ih =>
    -- A name differs from those before it and from those behind it: each pair is told apart once.
    rw [noneRefused_cons_iff, not_refused_iff, ih]
    simp only [List.forall_mem_cons, List.map_cons, List.nodup_cons, List.mem_map, List.mem_append,
      List.mem_singleton, not_exists, not_and, or_imp, forall_and, forall_eq]
    constructor
    · rintro ⟨⟨fit, free, opens⟩, fits, ⟨distinct, apart, others⟩, allOpen⟩
      exact ⟨⟨fit, fits⟩, ⟨⟨fun d member same => others d member same.symm, distinct⟩, free, apart⟩,
        opens, allOpen⟩
    · rintro ⟨⟨fit, fits⟩, ⟨⟨others, distinct⟩, free, apart⟩, opens, allOpen⟩
      exact ⟨⟨fit, free, opens⟩, fits,
        ⟨distinct, apart, fun d member same => others d member same.symm⟩, allOpen⟩

theorem insertAction_perm (a : Action) (actions : List Action) :
    (insertAction a actions).Perm (a :: actions) := by
  induction actions with
  | nil => exact .refl _
  | cons first rest ih =>
    simp only [insertAction]
    split
    · exact .refl _
    · exact (ih.cons first).trans (.swap a first rest)

/-- What stands after some configurations have been taken up. -/
structure Progress (settings : RegistrySettings) (extension : String) (s : Stores)
    (earlier : List ActionConfig) (actions : List Action) (t : Stores) : Prop where
  actions_perm : actions.Perm (earlier.map (actionOf settings extension))
  ordered : Ordered actions
  alike : t.OpensLike s
  /-- The collections of the actions have been opened, and no others. -/
  opened : ∀ name, (t.get? name).isSome ↔
    (s.get? name).isSome ∨ s.medium = .memory ∧ ∃ c ∈ earlier, c.resource = some name

namespace Progress

open scoped List

variable {earlier : List ActionConfig} {actions : List Action} {t : Stores}

theorem start (settings : RegistrySettings) (extension : String) (s : Stores) :
    Progress settings extension s [] [] s :=
  { actions_perm := .refl _, ordered := .nil, alike := ⟨rfl, rfl⟩, opened := by simp }

theorem free_iff (now : Progress settings extension s earlier actions t) (key : String) :
    (∀ a ∈ actions, a.name ≠ key) ↔ ∀ d ∈ earlier, keyOf settings d ≠ key := by
  constructor
  · intro free d member
    exact free _ (now.actions_perm.mem_iff.mpr (List.mem_map_of_mem member))
  · intro free a member
    obtain ⟨d, own, rfl⟩ := List.mem_map.mp (now.actions_perm.mem_iff.mp member)
    exact free d own

/-- Opening the collection of a configuration fails as it does at the start, or adds that collection. -/
theorem openResource (now : Progress settings extension s earlier actions t) (c : ActionConfig) :
    (∃ name e, c.resource = some name ∧ s.openCollection name = .error e ∧
      Registry.openResource c.resource t = .error (.store e)) ∨
    ∃ u, Registry.openResource c.resource t = .ok u ∧ u.OpensLike s ∧
      (∀ name, c.resource = some name → ∃ v, s.openCollection name = .ok v) ∧
      ∀ name, (u.get? name).isSome ↔
        (s.get? name).isSome ∨
          s.medium = .memory ∧ ∃ d ∈ earlier ++ [c], d.resource = some name := by
  cases bound : c.resource with
  | none =>
    refine .inr ⟨t, rfl, now.alike, nofun, fun name => ?_⟩
    rw [now.opened]
    simp [bound]
  | some resource =>
    simp only [Registry.openResource]
    cases opened : t.openCollection resource with
    | error e =>
      exact .inl ⟨resource, e, rfl, now.alike.openCollection_eq_error opened, rfl⟩
    | ok u =>
      refine .inr ⟨u, rfl, (Stores.opensLike_of_openCollection opened).trans now.alike, ?_, ?_⟩
      · rintro name ⟨⟩
        exact now.alike.openCollection opened
      · intro name
        rw [Stores.isSome_get?_of_openCollection opened, now.opened, now.alike.1]
        simp only [List.mem_append, List.mem_singleton, or_and_right, exists_or, exists_eq_left,
          bound, Option.some.injEq, and_or_left, or_assoc]

/-- The step: a configuration is refused for its reason, or its action joins the others. -/
theorem register (now : Progress settings extension s earlier actions t) (c : ActionConfig) :
    (∃ e, Registry.register settings extension c actions t = .error e ∧
      Refused settings s earlier c e) ∨
    ∃ next, Registry.register settings extension c actions t = .ok next ∧
      (∀ e, ¬Refused settings s earlier c e) ∧
      Progress settings extension s (earlier ++ [c]) next.1 next.2 := by
  have names : (actions.any fun a => a.name == (actionOf settings extension c).name) = false ↔
      ∀ d ∈ earlier, keyOf settings d ≠ keyOf settings c := by
    rw [← now.free_iff, List.any_eq_false]
    simp [actionOf, keyOf]
  -- The order of these cases is the order in which the reasons count.
  cases fit : c.check with
  | error e =>
    exact .inl ⟨e, by simp only [Registry.register, fit, bind, Except.bind], .unfit fit⟩
  | ok =>
    by_cases free : ∀ d ∈ earlier, keyOf settings d ≠ keyOf settings c
    · rcases now.openResource c with ⟨name, e, bound, closed, failed⟩ | ⟨u, opened, alike, opens, open_⟩
      · refine .inl ⟨.store e, ?_, .shut fit free bound closed⟩
        simp only [Registry.register, fit, bind, Except.bind, names.mpr free, Bool.false_eq_true,
          if_false, failed]
      · refine .inr ⟨(insertAction (actionOf settings extension c) actions, u), ?_,
          not_refused_iff.mpr ⟨fit, free, opens⟩, ?_⟩
        · exact register_eq_ok_iff.mpr ⟨fit, (now.free_iff _).mpr free, opened, rfl⟩
        · refine
            { actions_perm := ?_, ordered := now.ordered.insertAction ((now.free_iff _).mpr free)
              alike, opened := open_ }
          calc insertAction (actionOf settings extension c) actions
              _ ~ actionOf settings extension c :: actions := insertAction_perm _ _
              _ ~ actionOf settings extension c :: earlier.map (actionOf settings extension) :=
                now.actions_perm.cons _
              _ ~ (earlier ++ [c]).map (actionOf settings extension) := by
                rw [List.map_append]
                exact (List.perm_append_singleton _ _).symm
    · refine .inl ⟨_, ?_, .taken fit (by simpa using free)⟩
      have taken := mt names.mp free
      simp only [Registry.register, fit, bind, Except.bind, Bool.not_eq_false] at taken ⊢
      rw [if_pos taken]
      rfl

/-- The run: one configuration is the first that is refused, or none is. -/
theorem registerAll (now : Progress settings extension s earlier actions t)
    (configs : List ActionConfig) :
    (∃ e before c after, Registry.registerAll settings extension configs actions t = .error e ∧
      configs = before ++ c :: after ∧ NoneRefused settings s earlier before ∧
      Refused settings s (earlier ++ before) c e) ∨
    ∃ result, Registry.registerAll settings extension configs actions t = .ok result ∧
      NoneRefused settings s earlier configs ∧
      Progress settings extension s (earlier ++ configs) result.1 result.2 := by
  induction configs generalizing earlier actions t with
  | nil => exact .inr ⟨(actions, t), rfl, by simp [NoneRefused], by simpa using now⟩
  | cons c rest ih =>
    rcases now.register c with ⟨e, failed, refused⟩ | ⟨⟨actions', t'⟩, done, accepted, next⟩
    · refine .inl ⟨e, [], c, rest, ?_, rfl, by simp [NoneRefused], by simpa using refused⟩
      simp only [Registry.registerAll, failed, bind, Except.bind]
    · have goesOn : Registry.registerAll settings extension (c :: rest) actions t =
          Registry.registerAll settings extension rest actions' t' := by
        simp only [Registry.registerAll, done, bind, Except.bind]
      rw [goesOn]
      rcases ih next with ⟨e, before, d, after, failed, rfl, earlier', refused⟩ |
        ⟨result, finished, others, final⟩
      · exact .inl ⟨e, c :: before, d, after, failed, rfl,
          noneRefused_cons_iff.mpr ⟨accepted, earlier'⟩, by simpa using refused⟩
      · exact .inr ⟨result, finished, noneRefused_cons_iff.mpr ⟨accepted, others⟩,
          by simpa using final⟩

end Progress

/-- A list has one configuration that is the first to be refused, and one reason for it. -/
theorem refused_first_unique {before before' after after' : List ActionConfig}
    {c c' : ActionConfig} {e e' : ActionError}
    (parts : before ++ c :: after = before' ++ c' :: after')
    (first : NoneRefused settings s [] before) (refused : Refused settings s before c e)
    (first' : NoneRefused settings s [] before') (refused' : Refused settings s before' c' e') :
    e = e' := by
  -- Were one place before the other, its configuration would be refused among those accepted.
  rcases List.append_eq_append_iff.mp parts with ⟨more, rfl, rest⟩ | ⟨more, rfl, rest⟩ <;>
    rcases List.cons_eq_append_iff.mp rest with ⟨rfl, same⟩ | ⟨tail, rfl, -⟩
  · cases same
    rw [List.append_nil] at refused'
    exact refused.unique refused'
  · exact absurd refused (first' before c tail rfl e)
  · cases same
    rw [List.append_nil] at refused
    exact refused.unique refused'
  · exact absurd refused' (first before' c' tail rfl e')

/-- Building a registry runs into the first configuration that is refused, or into none. -/
theorem build_outcome (settings : RegistrySettings) (extension : String) (s : Stores)
    (configs : List ActionConfig) :
    (∃ e before c after, build settings extension configs s = .error e ∧
      configs = before ++ c :: after ∧ NoneRefused settings s [] before ∧
      Refused settings s before c e) ∨
    ∃ actions t, build settings extension configs s =
        .ok (⟨"action-resource::" ++ settings.resourceName, actions⟩, t) ∧
      NoneRefused settings s [] configs ∧ Progress settings extension s configs actions t := by
  rcases (Progress.start settings extension s).registerAll configs with
    ⟨e, before, c, after, failed, parts, first, refused⟩ | ⟨⟨actions, t⟩, done, accepted, final⟩
  · refine .inl ⟨e, before, c, after, ?_, parts, first, refused⟩
    simp only [build, failed, bind, Except.bind]
  · refine .inr ⟨actions, t, ?_, accepted, final⟩
    simp only [build, done, bind, Except.bind]
    rfl

/-- A registry is built exactly if none is refused. -/
theorem exists_build_iff {configs : List ActionConfig} :
    (∃ g t, build settings extension configs s = .ok (g, t)) ↔
      (∀ c ∈ configs, c.check = .ok ()) ∧ (configs.map (keyOf settings)).Nodup ∧
        ∀ c ∈ configs, ∀ name, c.resource = some name → ∃ t, s.openCollection name = .ok t := by
  have accepted_iff : NoneRefused settings s [] configs ↔ _ := noneRefused_iff
  simp only [List.not_mem_nil, false_imp_iff, implies_true, and_true] at accepted_iff
  rw [← accepted_iff]
  rcases build_outcome settings extension s configs with
    ⟨e, before, c, after, failed, parts, -, refused⟩ | ⟨actions, t, done, accepted, -⟩
  · constructor
    · rintro ⟨g, t, built⟩
      exact nomatch failed.symm.trans built
    · exact fun accepted => absurd refused (accepted before c after parts e)
  · exact ⟨fun _ => accepted, fun _ => ⟨_, t, done⟩⟩

theorem build_eq_error_iff {configs : List ActionConfig} {e : ActionError} :
    build settings extension configs s = .error e ↔
      ∃ before c after, configs = before ++ c :: after ∧ Refused settings s before c e ∧
        NoneRefused settings s [] before := by
  rcases build_outcome settings extension s configs with
    ⟨e', before, c, after, failed, parts, first, refused⟩ | ⟨actions, t, done, accepted, -⟩
  · constructor
    · intro same
      cases failed.symm.trans same
      exact ⟨before, c, after, parts, refused, first⟩
    · rintro ⟨before', c', after', parts', refused', first'⟩
      rw [failed, refused_first_unique (parts.symm.trans parts') first refused first' refused']
  · constructor
    · intro failed
      exact nomatch done.symm.trans failed
    · rintro ⟨before, c, after, parts, refused, -⟩
      exact absurd refused (accepted before c after parts e)

/-- What an action has of its configuration. -/
structure Carries (settings : RegistrySettings) (c : ActionConfig) (a : Action) : Prop where
  name : a.name = keyOf settings c
  internal : a.internal = c.internal
  description : a.description = c.description
  resource : a.resource = c.resource
  /-- It has access to a collection exactly when one is configured, and to that one. -/
  bound : a.persistence.isConfigured = c.resource.isSome
  access : a.persistence.collection = c.resource

theorem carries_actionOf (settings : RegistrySettings) (extension : String) (c : ActionConfig) :
    Carries settings c (actionOf settings extension c) :=
  ⟨rfl, rfl, rfl, rfl, rfl, rfl⟩

theorem Ordered.eq_of_name {actions : List Action} (ordered : Ordered actions) {a b : Action}
    (first : a ∈ actions) (second : b ∈ actions) (same : a.name = b.name) : a = b := by
  induction ordered with
  | nil => cases first
  | cons least _ ih =>
    rcases List.mem_cons.mp first with rfl | inFirst <;>
      rcases List.mem_cons.mp second with rfl | inSecond
    · rfl
    · exact absurd (same ▸ least b inSecond) (String.lt_irrefl _)
    · exact absurd (same ▸ least a inFirst) (String.lt_irrefl _)
    · exact ih inFirst inSecond

/-- In order, an action is found under its name and nothing else is. -/
theorem get?_eq_some_iff {g : Registry} (ordered : Ordered g.actions) {name : String} {a : Action} :
    g.get? name = some a ↔ a ∈ g.actions ∧ a.name = name := by
  constructor
  · intro found
    exact ⟨List.mem_of_find?_eq_some found, by simpa using List.find?_some found⟩
  · rintro ⟨member, rfl⟩
    cases found : g.get? a.name with
    | none => exact absurd (List.find?_eq_none.mp found a member) (by simp)
    | some b =>
      have named : b.name = a.name := by simpa using List.find?_some found
      rw [ordered.eq_of_name (List.mem_of_find?_eq_some found) member named]

/-- A registry of a list of configurations. -/
structure Represents (settings : RegistrySettings) (extension : String)
    (configs : List ActionConfig) (g : Registry) : Prop where
  /-- One action for each configuration, and no others. -/
  one_each : g.actions.Perm (configs.map (actionOf settings extension))
  /-- The actions are listed in the order of their names, each name once. -/
  listed : g.actions.Pairwise fun a b => a.name < b.name
  known : ∀ key, (g.get? key).isSome ↔ ∃ c ∈ configs, keyOf settings c = key
  carried : ∀ c ∈ configs, ∃ a, g.get? (keyOf settings c) = some a ∧ Carries settings c a

theorem Progress.represents {configs : List ActionConfig} {actions : List Action} {t : Stores}
    (final : Progress settings extension s configs actions t) (tag : String) :
    Represents settings extension configs ⟨tag, actions⟩ := by
  have found : ∀ c ∈ configs, (⟨tag, actions⟩ : Registry).get? (keyOf settings c) =
      some (actionOf settings extension c) := fun c member =>
    (get?_eq_some_iff final.ordered).mpr
      ⟨final.actions_perm.mem_iff.mpr (List.mem_map_of_mem member), rfl⟩
  refine ⟨final.actions_perm, final.ordered, fun key => ⟨fun present => ?_, ?_⟩, fun c member =>
    ⟨_, found c member, carries_actionOf settings extension c⟩⟩
  · obtain ⟨a, known⟩ := Option.isSome_iff_exists.mp present
    obtain ⟨member, rfl⟩ := (get?_eq_some_iff final.ordered).mp known
    obtain ⟨c, own, rfl⟩ := List.mem_map.mp (final.actions_perm.mem_iff.mp member)
    exact ⟨c, own, rfl⟩
  · rintro ⟨c, member, rfl⟩
    rw [found c member]
    rfl

/-- What is built represents the list, and its collections are open. -/
theorem build_represents {configs : List ActionConfig} {g : Registry} {t : Stores}
    (built : build settings extension configs s = .ok (g, t)) :
    Represents settings extension configs g ∧ ∀ name, (t.get? name).isSome ↔
      (s.get? name).isSome ∨ s.medium = .memory ∧ ∃ c ∈ configs, c.resource = some name := by
  rcases build_outcome settings extension s configs with
    ⟨e, _, _, _, failed, -⟩ | ⟨actions, u, done, -, final⟩
  · exact nomatch built.symm.trans failed
  · cases built.symm.trans done
    exact ⟨final.represents _, final.opened⟩

/-- In another order none is refused either. -/
theorem NoneRefused.perm {configs configs' : List ActionConfig} (same : configs.Perm configs')
    (accepted : NoneRefused settings s [] configs) : NoneRefused settings s [] configs' := by
  obtain ⟨fit, ⟨distinct, -⟩, opens⟩ := noneRefused_iff.mp accepted
  refine noneRefused_iff.mpr ⟨fun c member => fit c (same.mem_iff.mpr member),
    ⟨(same.map _).nodup_iff.mp distinct, fun _ _ => nofun⟩,
    fun c member => opens c (same.mem_iff.mpr member)⟩

/-- The same configurations in another order make the same registry. -/
theorem build_perm {configs configs' : List ActionConfig} (same : configs.Perm configs')
    {g : Registry} {t : Stores} (built : build settings extension configs s = .ok (g, t)) :
    ∃ t', build settings extension configs' s = .ok (g, t') := by
  rcases build_outcome settings extension s configs with
    ⟨e, _, _, _, failed, -⟩ | ⟨actions, u, done, accepted, final⟩
  · exact nomatch built.symm.trans failed
  rcases build_outcome settings extension s configs' with
    ⟨e, before, c, after, -, rfl, -, refused⟩ | ⟨actions', u', done', -, final'⟩
  · exact absurd refused (accepted.perm same before c after rfl e)
  cases built.symm.trans done
  have alike : actions.Perm actions' :=
    final.actions_perm.trans ((same.map _).trans final'.actions_perm.symm)
  -- Lists in strict order with the same members are the same.
  have equal : actions = actions' :=
    List.Perm.eq_of_pairwise (fun _ _ _ _ less more => absurd more (String.lt_asymm less))
      final.ordered final'.ordered alike
  exact ⟨u', equal ▸ done'⟩

/-- **What a list of configurations is made into.** It becomes a registry exactly if each passes its
check, no two go by the same name and every collection opens. The registry then has one action for
each, in the order of the names and not in that of the list; the collections of the actions have been
opened, and no others. Otherwise the error is that of the first configuration that is refused. -/
theorem start_outcome (settings : RegistrySettings) (extension : String)
    (configs : List ActionConfig) (s : Stores) :
    ((∃ g t, start .running settings extension configs s = .ok (g, t)) ↔
      (∀ c ∈ configs, c.check = .ok ()) ∧ (configs.map (keyOf settings)).Nodup ∧
        ∀ c ∈ configs, ∀ name, c.resource = some name → ∃ t, s.openCollection name = .ok t) ∧
    (∀ g t, start .running settings extension configs s = .ok (g, t) →
      Represents settings extension configs g ∧
      (∀ name, (t.get? name).isSome ↔
        (s.get? name).isSome ∨ s.medium = .memory ∧ ∃ c ∈ configs, c.resource = some name) ∧
      ∀ configs', configs.Perm configs' →
        ∃ t', start .running settings extension configs' s = .ok (g, t')) ∧
    ∀ e, start .running settings extension configs s = .error e ↔
      ∃ before c after, configs = before ++ c :: after ∧ Refused settings s before c e ∧
        ∀ earlier d later, before = earlier ++ d :: later → ∀ e', ¬Refused settings s earlier d e' := by
  refine ⟨exists_build_iff, fun g t built => ?_, fun e => build_eq_error_iff⟩
  obtain ⟨final, opened⟩ := build_represents built
  exact ⟨final, opened, fun configs' same => build_perm same built⟩

/-- Two actions, one of them with a collection, and a list whose third name is taken. -/
theorem start_outcome_mail :
    let settings : RegistrySettings := ⟨"action", "/srv/actions", .firstSpace⟩
    let s := Stores.new (fun _ _ => "x") .memory {}
    let send : ActionConfig := ⟨"Send Mail", some "sends", false, some "mail_log"⟩
    let ping : ActionConfig := ⟨"ping", none, true, none⟩
    let again : ActionConfig := .named "SEND-MAIL"
    (∃ g t, start .running settings "sh" [send, ping] s = .ok (g, t) ∧
      (∃ a, g.get? "send-mail" = some a ∧ Carries settings send a) ∧
      (t.get? "mail_log").isSome ∧
      ∃ t', start .running settings "sh" [ping, send] s = .ok (g, t')) ∧
    start .running settings "sh" [send, ping, again, .named ""] s = .error (.validation
      s!"Duplicate action name '{keyOf settings again}' (from '{again.name}')") := by
  intro settings s send ping again
  have fit : ∀ c ∈ [send, ping], c.check = .ok () := by
    have sendFit : send.check = .ok () := eq_ok_of_toOption (by decide +kernel)
    have pingFit : ping.check = .ok () := eq_ok_of_toOption (by decide +kernel)
    simp [sendFit, pingFit]
  have sendKey : keyOf settings send = "send-mail" := by decide +kernel
  have pingKey : keyOf settings ping = "ping" := by decide +kernel
  have distinct : ([send, ping].map (keyOf settings)).Nodup := by simp [sendKey, pingKey]
  obtain ⟨made, holds, -⟩ := start_outcome settings "sh" [send, ping] s
  obtain ⟨g, t, built⟩ := made.mpr ⟨fit, distinct, fun _ _ name _ => ⟨_, rfl⟩⟩
  obtain ⟨represents, opened, reordered⟩ := holds g t built
  refine ⟨⟨g, t, built, ?_, (opened "mail_log").mpr (.inr ⟨rfl, send, List.mem_cons_self, rfl⟩),
    reordered [ping, send] (.swap _ _ _)⟩, ?_⟩
  · rw [← sendKey]
    exact represents.carried send List.mem_cons_self
  · have taken : Refused settings s [send, ping] again _ :=
      .taken (eq_ok_of_toOption (by decide +kernel))
        ⟨send, List.mem_cons_self, by decide +kernel⟩
    have before : NoneRefused settings s [] [send, ping] :=
      noneRefused_iff.mpr ⟨fit, ⟨distinct, nofun⟩, fun _ _ name _ => ⟨_, rfl⟩⟩
    exact ((start_outcome settings "sh" _ s).2.2 _).mpr
      ⟨[send, ping], again, [.named ""], rfl, taken, before⟩

end

end Registry

end ActionServer
