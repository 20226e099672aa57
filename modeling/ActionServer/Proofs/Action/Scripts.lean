import ActionServer.Proofs.Action.Name
import ActionServer.Proofs.File.Join
import ActionServer.Script.Native

/-!
# The script of an action

A registry joins the name of an action, with an extension, to the script directory and hands the path
to the loader. Names may have slashes in them, and the check of a configuration lets them through.
For a path such a name is several segments, so it need not lead to a file of its own in the script
directory, and of a name with slashes native scripts see the part behind the last one only. A name
without slashes is one segment that leads somewhere, and nothing of this happens.
-/

namespace ActionServer

namespace NativeScripts

/-- The name that is looked up for an action: what stands behind its last slash. If that is nothing,
then what is taken for the extension of other names is the name. -/
def lookedUp (name : String) : String :=
  if Path.lastSegment name = "" then "." ++ extension else Path.lastSegment name

/-- The executable of a name, for the script at a path. -/
def under (n : NativeScripts) (name path : String) : LoadOutcome :=
  match n.scripts.lookup name with
  | some executable => .ready executable
  | none => .refused (.notFound path)

/-- One executable, under one name. -/
def single (name : String) (executable : Executable) : NativeScripts :=
  ⟨[(name, executable)]⟩

theorem lookup_single (name : String) (executable : Executable) (other : String) :
    (single name executable).scripts.lookup other =
      if other = name then some executable else none := by
  rw [single, List.lookup_cons]
  by_cases same : other = name
  · simp [same]
  · simp [same, beq_eq_false_iff_ne.mpr same]

theorem under_of_some {n : NativeScripts} {name : String} {executable : Executable}
    (known : n.scripts.lookup name = some executable) (path : String) :
    n.under name path = .ready executable := by
  simp only [under, known]

theorem under_of_none {n : NativeScripts} {name : String} (unknown : n.scripts.lookup name = none)
    (path : String) : n.under name path = .refused (.notFound path) := by
  simp only [under, unknown]

/-- Only looking up a name itself yields whatever executable is kept under it. -/
theorem under_eq_ready_iff {key found path : String} :
    (∀ n : NativeScripts, ∀ executable, n.scripts.lookup key = some executable →
      n.under found path = .ready executable) ↔ found = key := by
  constructor
  · intro yields
    by_contra apart
    -- With nothing but the executable of the key there is nothing under another name.
    let executable : Executable := ⟨fun _ d w => (.finished, d, w)⟩
    have known : (single key executable).scripts.lookup key = some executable := by
      rw [lookup_single, if_pos rfl]
    have nothing : (single key executable).scripts.lookup found = none := by
      rw [lookup_single, if_neg apart]
    have loaded := yields _ executable known
    rw [under_of_none nothing] at loaded
    cases loaded
  · rintro rfl n executable known
    exact under_of_some known path

/-- Only looking up a name itself fails whenever nothing is kept under it. -/
theorem under_eq_refused_iff {key found path : String} :
    (∀ n : NativeScripts, n.scripts.lookup key = none →
      n.under found path = .refused (.notFound path)) ↔ found = key := by
  constructor
  · intro fails
    by_contra apart
    let executable : Executable := ⟨fun _ d w => (.finished, d, w)⟩
    have unknown : (single found executable).scripts.lookup key = none := by
      rw [lookup_single, if_neg (Ne.symm apart)]
    have known : (single found executable).scripts.lookup found = some executable := by
      rw [lookup_single, if_pos rfl]
    have refused := fails _ unknown
    rw [under_of_some known] at refused
    cases refused
  · rintro rfl n unknown
    exact under_of_none unknown path

/-- With its extension a name is the last segment of the path, and the name of the file. -/
theorem fileStem?_join (dir name : String) :
    Path.fileStem? (Path.join dir (name ++ "." ++ extension)) = some (lookedUp name) := by
  have suffix : name ++ "." ++ extension = name ++ ("." ++ extension) := String.append_assoc
  obtain ⟨before, own⟩ :=
    Path.exists_segments_append name (show '/' ∉ ("." ++ extension).toList by decide)
  obtain ⟨front, whole⟩ := Path.exists_segments_join dir (name ++ ("." ++ extension))
  rw [own, ← List.append_assoc] at whole
  -- Even the empty name has a file name that leads somewhere: the extension and its dot.
  have long : 2 < (Path.lastSegment name ++ ("." ++ extension)).length := by
    have ending : ("." ++ extension).length = 7 := by decide
    rw [String.length_append]
    omega
  obtain ⟨leads, apart⟩ := Path.leads_of_long long
  rw [suffix, Path.fileStem?, Path.fileName?_of_segments whole leads apart, Option.map_some,
    ← String.append_assoc, Path.stem_append _ (by decide), lookedUp]

theorem load_join (n : NativeScripts) (dir name : String) :
    n.load (Path.join dir (name ++ "." ++ extension)) =
      n.under (lookedUp name) (Path.join dir (name ++ "." ++ extension)) := by
  simp only [load, fileStem?_join]
  rfl

/-- A name is looked up as it is unless it has a slash. -/
theorem lookedUp_eq_iff {name : String} (present : name ≠ "") :
    lookedUp name = name ↔ '/' ∉ name.toList := by
  constructor
  · intro same slash
    rw [← same, lookedUp] at slash
    split at slash
    · exact absurd slash (by decide)
    · exact Path.noSlash_lastSegment name slash
  · intro bare
    rw [lookedUp, Path.lastSegment_of_noSlash bare, if_neg present]

end NativeScripts

namespace Registry

open NativeScripts (lookedUp)

/-- **The script of an action among native ones.** What is loaded for the path of an action is what
stands behind the last slash of its name. So an executable that is kept under the name of the action
is loaded, and is the only one that can be, exactly if the configured name has no slash. -/
theorem load_actionOf_iff {c : ActionConfig} (fit : c.check = .ok ())
    (settings : RegistrySettings) :
    let key := keyOf settings c
    let path := (actionOf settings NativeScripts.extension c).scriptPath
    (∀ n : NativeScripts, n.load path = n.under (lookedUp key) path) ∧
    ((∀ n : NativeScripts, ∀ executable, n.scripts.lookup key = some executable →
      n.load path = .ready executable) ↔ '/' ∉ c.name.toList) ∧
    ((∀ n : NativeScripts, n.scripts.lookup key = none →
      n.load path = .refused (.notFound path)) ↔ '/' ∉ c.name.toList) := by
  intro key path
  have found (n : NativeScripts) : n.load path = n.under (lookedUp key) path :=
    n.load_join settings.scriptDir key
  have own : lookedUp key = key ↔ '/' ∉ c.name.toList := by
    rw [NativeScripts.lookedUp_eq_iff (keyOf_ne_empty fit settings), slash_mem_keyOf_iff]
  refine ⟨found, ?_, ?_⟩
  · simp only [found, ← own]
    exact NativeScripts.under_eq_ready_iff
  · simp only [found, ← own]
    exact NativeScripts.under_eq_refused_iff

/-- A name of two dots only is that of a file once the extension is behind it. -/
theorem load_actionOf_iff_dots :
    let settings : RegistrySettings := ⟨"action", "/srv/actions", .firstSpace⟩
    let c := ActionConfig.named ".."
    let path := (actionOf settings NativeScripts.extension c).scriptPath
    let executable : Executable := ⟨fun _ d w => (.finished, d, w)⟩
    c.check = .ok () ∧ path = "/srv/actions/...native" ∧
      (NativeScripts.single ".." executable).load path = .ready executable ∧
      (NativeScripts.single "." executable).load path = .refused (.notFound path) := by
  intro settings c path executable
  have fit : c.check = .ok () := eq_ok_of_toOption (by decide +kernel)
  have bare : '/' ∉ c.name.toList := by decide
  have key : keyOf settings c = ".." := by decide +kernel
  obtain ⟨-, kept, only⟩ := load_actionOf_iff fit settings
  refine ⟨fit, by decide +kernel, kept.mpr bare _ _ ?_, only.mpr bare _ ?_⟩
  · simp [NativeScripts.lookup_single, key]
  · simp [NativeScripts.lookup_single, key]

/-- An action with a slash in its name is not given its own executable, but that of another name. -/
theorem load_other_name :
    let settings : RegistrySettings := ⟨"action", "/srv/actions", .firstSpace⟩
    let c := ActionConfig.named "admin/reports"
    let path := (actionOf settings NativeScripts.extension c).scriptPath
    let executable : Executable := ⟨fun _ d w => (.finished, d, w)⟩
    c.check = .ok () ∧ keyOf settings c = "admin/reports" ∧
      path = "/srv/actions/admin/reports.native" ∧
      (NativeScripts.single "admin/reports" executable).load path = .refused (.notFound path) ∧
      (NativeScripts.single "reports" executable).load path = .ready executable := by
  intro settings c path executable
  have stem : Path.fileStem? path = some "reports" := by decide +kernel
  refine ⟨eq_ok_of_toOption (by decide +kernel), by decide +kernel, by decide +kernel, ?_, ?_⟩
  · simp [NativeScripts.load, stem, NativeScripts.lookup_single]
  · simp [NativeScripts.load, stem, NativeScripts.lookup_single]

/-! ### Scripts of their own -/

/-- The name of the script file of an action. -/
def fileOf (settings : RegistrySettings) (extension : String) (c : ActionConfig) : String :=
  keyOf settings c ++ "." ++ extension

/-- The parts that the name of a script file has as a path, signs for the place left out. -/
def partsOf (settings : RegistrySettings) (extension : String) (c : ActionConfig) :
    List Path.Component :=
  (Path.segments (fileOf settings extension c)).filterMap Path.component?

/-- Whatever the script directory is, the scripts of the registered actions are below it, and no two
actions have the same script. -/
def OwnScripts (settings : RegistrySettings) (extension : String) (configs : List ActionConfig)
    (s : Stores) : Prop :=
  ∀ dir, ∃ g t,
    start .running { settings with scriptDir := dir } extension configs s = .ok (g, t) ∧
    (∀ a ∈ g.actions, Path.Below dir a.scriptPath) ∧
    g.actions.Pairwise fun a b => Path.components a.scriptPath ≠ Path.components b.scriptPath

section

variable {settings : RegistrySettings} {extension : String} {configs : List ActionConfig}
  {s : Stores}

/-- In whatever directory, the registered actions have the scripts that their names give them. -/
theorem ownScripts_iff_join
    (accepted : ∃ g t, start .running settings extension configs s = .ok (g, t)) :
    OwnScripts settings extension configs s ↔ ∀ dir,
      (∀ c ∈ configs, Path.Below dir (Path.join dir (fileOf settings extension c))) ∧
      (configs.map fun c =>
        Path.components (Path.join dir (fileOf settings extension c))).Nodup := by
  refine forall_congr' fun dir => ?_
  -- What makes a list acceptable does not speak of the directory.
  have made : ∃ g t, build settings extension configs s = .ok (g, t) := accepted
  have conditions := exists_build_iff.mp made
  obtain ⟨g, t, built⟩ : ∃ g t,
      build { settings with scriptDir := dir } extension configs s = .ok (g, t) :=
    exists_build_iff.mpr conditions
  have each := (build_represents built).1.one_each
  have below : (∀ a ∈ g.actions, Path.Below dir a.scriptPath) ↔
      ∀ c ∈ configs, Path.Below dir (Path.join dir (fileOf settings extension c)) := by
    simp only [each.mem_iff, List.forall_mem_map]
    rfl
  have apart : g.actions.Pairwise (fun a b =>
        Path.components a.scriptPath ≠ Path.components b.scriptPath) ↔
      (configs.map fun c =>
        Path.components (Path.join dir (fileOf settings extension c))).Nodup := by
    rw [← List.pairwise_map (f := fun a : Action => Path.components a.scriptPath),
      ← List.Nodup, (each.map fun a : Action => Path.components a.scriptPath).nodup_iff, List.map_map]
    rfl
  rw [← below, ← apart]
  constructor
  · rintro ⟨g', t', built', own⟩
    cases Except.ok.inj (built.symm.trans built')
    exact own
  · exact fun own => ⟨g, t, built, own⟩

variable (settings) in
/-- Without slashes and with an extension, the name of a script file is its only part. -/
theorem fileOf_of_noSlash (plain : '/' ∉ extension.toList) (present : extension ≠ "")
    {c : ActionConfig} (fit : c.check = .ok ()) (bare : '/' ∉ c.name.toList) :
    Path.isAbsolute (fileOf settings extension c) = false ∧
      ".." ∉ Path.segments (fileOf settings extension c) ∧
      partsOf settings extension c = [.normal (fileOf settings extension c)] := by
  have noSlash : '/' ∉ (fileOf settings extension c).toList := by
    have key := (slash_mem_keyOf_iff settings c).not.mpr bare
    simp [fileOf, key, plain]
  have whole := Path.segments_of_noSlash noSlash
  -- The key, the dot and the extension have three characters at least.
  have long : 2 < (fileOf settings extension c).length := by
    have key : (keyOf settings c).length ≠ 0 := by
      simpa using keyOf_ne_empty fit settings
    have ending : extension.length ≠ 0 := by simpa using present
    have dot : ".".length = 1 := by decide
    simp only [fileOf, String.length_append]
    omega
  obtain ⟨leads, apart⟩ := Path.leads_of_long long
  refine ⟨?_, ?_, ?_⟩
  · refine Bool.eq_false_iff.mpr fun absolute => noSlash ?_
    exact List.mem_of_head? (eq_of_beq absolute)
  · rw [whole, List.mem_singleton]
    exact apart.symm
  · have part := Path.component?_eq_some_iff.mpr ⟨leads.1, leads.2, rfl⟩
    rw [partsOf, whole, List.filterMap_cons, part, if_neg apart]
    rfl

/-- Whatever the script directory is, the scripts of all actions are below it and differ from each
other, exactly if no file name is absolute or leads up and no two have the same parts. -/
theorem ownScripts_iff_files
    (accepted : ∃ g t, start .running settings extension configs s = .ok (g, t)) :
    OwnScripts settings extension configs s ↔
      (∀ c ∈ configs, Path.isAbsolute (fileOf settings extension c) = false ∧
        ".." ∉ Path.segments (fileOf settings extension c)) ∧
      (configs.map (partsOf settings extension)).Nodup := by
  rw [ownScripts_iff_join accepted]
  constructor
  · intro own
    -- A relative directory tells the absolute paths from those below it.
    obtain ⟨below, apart⟩ := own "scripts"
    have relative : ∀ c ∈ configs, Path.isAbsolute (fileOf settings extension c) = false := by
      intro c member
      by_contra absolute
      rw [Bool.not_eq_false] at absolute
      have inside := below c member
      rw [Path.join, if_pos absolute] at inside
      exact Path.not_below_of_isAbsolute absolute inside
    refine ⟨fun c member => ⟨relative c member, ?_⟩, ?_⟩
    · exact (Path.below_join_iff "scripts" (relative c member)).mp (below c member)
    · have led : configs.map (fun c => Path.components (Path.join "scripts"
          (fileOf settings extension c))) =
          (configs.map (partsOf settings extension)).map (Path.components "scripts" ++ ·) := by
        rw [List.map_map]
        refine List.map_congr_left fun c member => ?_
        exact Path.components_join (by decide) (relative c member)
      rw [led, List.Nodup, List.pairwise_map] at apart
      exact apart.imp fun differ same => differ (congrArg _ same)
  · rintro ⟨inside, apart⟩ dir
    refine ⟨fun c member => ?_, ?_⟩
    · obtain ⟨relative, down⟩ := inside c member
      exact (Path.below_join_iff dir relative).mpr down
    · rw [List.Nodup, List.pairwise_map] at apart ⊢
      refine apart.imp_of_mem fun first second differ same => differ ?_
      exact Path.filterMap_eq_of_components_join (inside _ first).1 (inside _ second).1 same

/-- Names without slashes make names of files that differ as the names do. -/
theorem ownScripts_of_noSlash (plain : '/' ∉ extension.toList) (present : extension ≠ "")
    (accepted : ∃ g t, start .running settings extension configs s = .ok (g, t))
    (bare : ∀ c ∈ configs, '/' ∉ c.name.toList) : OwnScripts settings extension configs s := by
  have made : ∃ g t, build settings extension configs s = .ok (g, t) := accepted
  obtain ⟨fit, distinct, -⟩ := exists_build_iff.mp made
  have file (c : ActionConfig) (member : c ∈ configs) :=
    fileOf_of_noSlash settings plain present (fit c member) (bare c member)
  refine (ownScripts_iff_files accepted).mpr
    ⟨fun c member => ⟨(file c member).1, (file c member).2.1⟩, ?_⟩
  rw [List.Nodup, List.pairwise_map] at distinct ⊢
  refine distinct.imp_of_mem fun {c d} first second differ same => differ ?_
  -- One part each, the name of the file, from which the key can be read off.
  rw [(file c first).2.2, (file d second).2.2] at same
  have files : keyOf settings c ++ "." ++ extension = keyOf settings d ++ "." ++ extension := by
    simpa [fileOf] using same
  simpa [← String.toList_inj] using files

/-- **When each action has a script of its own.** Whatever the script directory is, the scripts of all
actions are below it and differ from each other, exactly if no file name is absolute or leads up and
no two are the same but for segments that lead nowhere. So it is if the configured names have no
slash; a name with one passes the check of its configuration and can be any of these. -/
theorem ownScripts_iff (plain : '/' ∉ extension.toList)
    (accepted : ∃ g t, start .running settings extension configs s = .ok (g, t)) :
    (OwnScripts settings extension configs s ↔
      (∀ c ∈ configs, Path.isAbsolute (fileOf settings extension c) = false ∧
        ".." ∉ Path.segments (fileOf settings extension c)) ∧
      (configs.map (partsOf settings extension)).Nodup) ∧
    (extension ≠ "" → (∀ c ∈ configs, '/' ∉ c.name.toList) →
      OwnScripts settings extension configs s) :=
  ⟨ownScripts_iff_files accepted,
    fun present bare => ownScripts_of_noSlash plain present accepted bare⟩

/-- Dots and blanks do no harm. -/
theorem ownScripts_iff_dots :
    let settings : RegistrySettings := ⟨"action", "/srv/actions", .firstSpace⟩
    let s := Stores.new (fun _ _ => "x") .memory {}
    let configs : List ActionConfig := [.named "..", .named "Send Mail"]
    (∃ g t, start .running settings "sh" configs s = .ok (g, t)) ∧
      OwnScripts settings "sh" configs s := by
  intro settings s configs
  have fit : ∀ c ∈ configs, c.check = .ok () := by
    simp only [configs, List.forall_mem_cons, List.not_mem_nil, false_imp_iff, implies_true,
      and_true]
    exact ⟨eq_ok_of_toOption (by decide +kernel), eq_ok_of_toOption (by decide +kernel)⟩
  have distinct : (configs.map (keyOf settings)).Nodup := by decide +kernel
  have accepted : ∃ g t, start .running settings "sh" configs s = .ok (g, t) :=
    exists_build_iff.mpr ⟨fit, distinct, fun _ _ name _ => ⟨_, rfl⟩⟩
  exact ⟨accepted, (ownScripts_iff (by decide) accepted).2 (by decide) (by decide)⟩

/-- One registry with a script elsewhere, one outside the directory, and two actions of one script. -/
theorem scripts_not_own :
    let settings : RegistrySettings := ⟨"action", "/srv/actions", .firstSpace⟩
    let s := Stores.new (fun _ _ => "x") .memory {}
    let configs : List ActionConfig :=
      [.named "/etc/profile", .named "../config", .named "reports/day", .named "reports//day"]
    (∃ g t, start .running settings "sh" configs s = .ok (g, t) ∧
      g.actions.map (fun a => a.scriptPath) = ["/srv/actions/../config.sh", "/etc/profile.sh",
        "/srv/actions/reports//day.sh", "/srv/actions/reports/day.sh"]) ∧
    ¬Path.Below "/srv/actions" "/etc/profile.sh" ∧
    ¬Path.Below "/srv/actions" "/srv/actions/../config.sh" ∧
    Path.components "/srv/actions/reports//day.sh" =
      Path.components "/srv/actions/reports/day.sh" := by
  intro settings s configs
  have dir : Path.components "/srv/actions" = [.root, .normal "srv", .normal "actions"] := by
    decide +kernel
  refine ⟨?_, ?_, ?_, by decide +kernel⟩
  · obtain ⟨⟨g, t⟩, built, paths⟩ := exists_ok_of_any
      (r := start .running settings "sh" configs s)
      (p := fun built => built.1.actions.map (fun a => a.scriptPath) ==
        ["/srv/actions/../config.sh", "/etc/profile.sh", "/srv/actions/reports//day.sh",
          "/srv/actions/reports/day.sh"]) (by decide +kernel)
    exact ⟨g, t, built, eq_of_beq paths⟩
  · rintro ⟨rest, same, -⟩
    have parts : Path.components "/etc/profile.sh" =
        [.root, .normal "etc", .normal "profile.sh"] := by decide +kernel
    rw [parts, dir] at same
    simp at same
  · rintro ⟨rest, same, down⟩
    have parts : Path.components "/srv/actions/../config.sh" =
        [.root, .normal "srv", .normal "actions"] ++ [.parent, .normal "config.sh"] := by
      decide +kernel
    rw [parts, dir] at same
    exact down (List.append_cancel_left same ▸ List.mem_cons_self)

end

end Registry

end ActionServer
