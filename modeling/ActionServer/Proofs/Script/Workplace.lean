import ActionServer.Proofs.Library
import ActionServer.Proofs.Server.Settings
import ActionServer.Server.Scripts

/-!
# The directory of a script

A script is looked for from the working directory of the server. It runs in the directory that holds
it, and what it is given are the same texts: its own path, and the paths of library files. Only an
absolute path is sure to mean the same there. A relative one is followed a second time, now from the
directory of the script, and comes to the same place only where that directory leads back to itself;
without parent signs it does so just if the script stands in the working directory.
-/

namespace ActionServer

namespace ProcessSettings

variable {s : ProcessSettings} {path : String}

/-- Only a file is loaded. -/
theorem stat_of_load {executable : Executable} (loaded : s.load path = .ready executable) :
    ∃ bytes, s.files.stat path = .ok (.file bytes) := by
  simp only [load] at loaded
  split at loaded
  · cases loaded
  · cases loaded
  · cases loaded
  · exact ⟨_, ‹_›⟩

/-- A file that passes the check is loaded. -/
theorem load_of_check {bytes : List UInt8} (found : s.files.stat path = .ok (.file bytes))
    (passed : s.check path = .ok ()) : s.load path = .ready (s.executable path) := by
  simp [load, found, passed]

/-- A script runs in the directory that its path names first. -/
theorem workplace_of_parent? {dir : String} (parent : Path.parent? path = some dir)
    (present : dir ≠ "") : s.workplace path = some (s.files.within dir) := by
  simp only [workplace, parent]

end ProcessSettings

namespace Library

variable {l : Library} {root name found : String}

/-- A library file is found again just where the directory of the library is. -/
theorem keeps_iff_of_resolve (configured : l.root = some root) (given : l.resolve name = .ok found)
    (dir : String) : (l.files.Keeps dir found ↔ l.files.Keeps dir root) ∧
      (Path.isAbsolute root = true → l.files.Keeps dir found) ∧
      (Path.isAbsolute root = false → ".." ∉ Path.segments root →
        (l.files.Keeps dir found ↔ l.files.place dir = l.files.place "")) := by
  obtain ⟨names, below, -, start, -, led, -⟩ := inside_of_resolve configured given
  rw [resolve_eq configured] at given
  split at given
  · cases given
  rename_i fit
  split at given
  · cases given
    obtain ⟨relative, down⟩ := down_of_fit fit
    have whole : l.files.Keeps dir (Path.join root name) ↔ l.files.Keeps dir root :=
      FileSystem.keeps_iff down (fun _ => FileSystem.place_join relative) led
    refine ⟨whole, fun absolute => ?_, fun apart plain => ?_⟩
    · exact FileSystem.keeps_of_isAbsolute (Path.isAbsolute_join_of_dir absolute name) dir
    · exact whole.trans (FileSystem.keeps_iff_of_down apart plain start)
  · cases given

end Library

namespace ActionSettings

/-- **A script that runs is the file that was loaded exactly if its directory leads to itself from
there.** The script of an action is run in the directory that its path names first, with that path;
this leads from there to the file that was loaded exactly if the directory's own path does so to the
directory. The files that a library gives out are found again exactly if the library's directory is.
Absolute directories always are; relative ones without parent signs are just if the script stands in
the working directory. -/
theorem script_keeps_iff {lookup : String → Option String} {settings : ServerSettings}
    (accepted : ServerSettings.ofVariables lookup = .ok settings) (files : FileSystem)
    (c : ActionConfig) {path : String} {executable : Executable}
    (script : path =
      (Registry.actionOf settings.actions.registry settings.actions.extension c).scriptPath)
    (loaded : (settings.actions.process files).load path = .ready executable) :
    ∃ dir, Path.parent? path = some dir ∧
      (settings.actions.process files).workplace path = some (files.within dir) ∧
      ((files.Keeps dir path ↔ files.Keeps dir dir) ∧
        (Path.isAbsolute settings.actions.actionsDir = true → files.Keeps dir path) ∧
        (Path.isAbsolute path = false → ".." ∉ Path.segments path →
          (files.Keeps dir path ↔ files.place dir = files.place ""))) ∧
      ∀ name found, Library.resolve ⟨some settings.actions.libDir, files⟩ name = .ok found →
        (files.Keeps dir found ↔ files.Keeps dir settings.actions.libDir) ∧
          (Path.isAbsolute settings.actions.libDir = true → files.Keeps dir found) ∧
          (Path.isAbsolute settings.actions.libDir = false →
            ".." ∉ Path.segments settings.actions.libDir →
            (files.Keeps dir found ↔ files.place dir = files.place "")) := by
  obtain ⟨-, chosen⟩ := ServerSettings.parts_of_accepted accepted
  have slash : '/' ∈ path.toList :=
    script ▸ Path.slash_mem_join (ServerSettings.actionsDir_ne_empty chosen) _
  obtain ⟨bytes, stat⟩ := ProcessSettings.stat_of_load loaded
  obtain ⟨names, led, -⟩ := FileSystem.place_of_stat stat
  obtain ⟨dir, last, parent, present, -, name, through⟩ := FileSystem.exists_parent slash stat
  refine ⟨dir, parent, ProcessSettings.workplace_of_parent? parent present, ⟨?_, ?_, ?_⟩, ?_⟩
  · exact FileSystem.keeps_iff (by simpa using Ne.symm name) through led
  · intro absolute
    exact FileSystem.keeps_of_isAbsolute
      (script ▸ Path.isAbsolute_join_of_dir absolute _) dir
  · intro relative down
    exact FileSystem.keeps_iff_of_down relative down led
  · intro name found given
    exact Library.keeps_iff_of_resolve (l := ⟨_, files⟩) rfl given dir

/-- Of an absolute directory the script and the library are found again. -/
theorem script_keeps_absolute :
    let lookup : String → Option String := fun name =>
      if name = "ACTIONS_DIR" then some "/srv/actions" else none
    let files : FileSystem := ⟨⟨[(["srv", "actions", "greet.sh"], .file []),
      (["srv", "actions", "lib", "mail", "format.sh"], .file [])]⟩, "/srv"⟩
    let path := "/srv/actions/greet.sh"
    ∃ settings dir, ServerSettings.ofVariables lookup = .ok settings ∧
      path = (Registry.actionOf settings.actions.registry settings.actions.extension
        ⟨"greet", none, false, none⟩).scriptPath ∧
      (settings.actions.process files).load path =
        .ready ((settings.actions.process files).executable path) ∧
      (settings.actions.process files).workplace path = some (files.within dir) ∧
      files.Keeps dir path ∧
      Library.resolve ⟨some settings.actions.libDir, files⟩ "mail/format.sh" =
        .ok "/srv/actions/lib/mail/format.sh" ∧
      files.Keeps dir "/srv/actions/lib/mail/format.sh" := by
  intro lookup files path
  obtain ⟨settings, accepted, known⟩ := exists_ok_of_any (r := ServerSettings.ofVariables lookup)
    (p := fun settings => settings.actions == ⟨"action", "/srv/actions", "/srv/actions/lib", "bash",
      "sh", 30, .firstSpace⟩) (by decide +kernel)
  have actions := eq_of_beq known
  have script : path = (Registry.actionOf settings.actions.registry settings.actions.extension
      ⟨"greet", none, false, none⟩).scriptPath := by
    rw [actions]
    decide +kernel
  have loaded : (settings.actions.process files).load path =
      .ready ((settings.actions.process files).executable path) := by
    have stat : files.stat path = .ok (.file []) := by decide +kernel
    rw [actions]
    exact ProcessSettings.load_of_check stat (by decide +kernel)
  have given : Library.resolve ⟨some settings.actions.libDir, files⟩ "mail/format.sh" =
      .ok "/srv/actions/lib/mail/format.sh" := by
    rw [actions]
    decide +kernel
  obtain ⟨dir, -, workplace, ⟨-, keeps, -⟩, libraries⟩ :=
    script_keeps_iff accepted files ⟨"greet", none, false, none⟩ script loaded
  refine ⟨settings, dir, accepted, script, loaded, workplace, keeps ?_, given,
    (libraries _ _ given).2.1 ?_⟩
  · rw [actions]
    decide +kernel
  · rw [actions]
    decide +kernel

/-- Where no directory is set, neither the script that was loaded nor the library that was given out
is found from the directory in which the script runs. -/
theorem script_lost_by_default :
    let files : FileSystem := ⟨⟨[(["srv", "resources", "action", "greet.sh"], .file []),
      (["srv", "resources", "action", "lib", "mail.sh"], .file [])]⟩, "/srv"⟩
    let path := "./resources/action/greet.sh"
    let found := "./resources/action/lib/mail.sh"
    let here := files.within "./resources/action"
    ∃ settings, ServerSettings.ofVariables (fun _ => none) = .ok settings ∧
      path = (Registry.actionOf settings.actions.registry settings.actions.extension
        ⟨"greet", none, false, none⟩).scriptPath ∧
      (settings.actions.process files).load path =
        .ready ((settings.actions.process files).executable path) ∧
      (settings.actions.process files).workplace path = some here ∧
      files.place path = .ok ["srv", "resources", "action", "greet.sh"] ∧
      here.place path = .error .notFound ∧
      Library.resolve ⟨some settings.actions.libDir, files⟩ "mail.sh" = .ok found ∧
      here.place found = .error .notFound := by
  intro files path found here
  obtain ⟨settings, accepted, known⟩ := exists_ok_of_any
    (r := ServerSettings.ofVariables fun _ => none)
    (p := fun settings => settings.actions == ⟨"action", "./resources/action",
      "./resources/action/lib", "bash", "sh", 30, .firstSpace⟩) (by decide +kernel)
  have actions := eq_of_beq known
  have stat : files.stat path = .ok (.file []) := by decide +kernel
  refine ⟨settings, accepted, ?_⟩
  rw [actions]
  refine ⟨by decide +kernel, ?_, ?_, by decide +kernel, by decide +kernel, by decide +kernel,
    by decide +kernel⟩
  · exact ProcessSettings.load_of_check stat (by decide +kernel)
  · exact ProcessSettings.workplace_of_parent? (by decide +kernel) (by decide)

end ActionSettings

end ActionServer
