import ActionServer.Proofs.File.Place
import ActionServer.Script.Session

/-!
# What a library gives out

Whether a name is refused can be read from its segments, and no file is looked at for that. Every
other name goes down from the place of the library's directory, since none of its segments is the
sign for the parent and it does not begin at the root. So a file that is given out stands below the
directory, and files elsewhere have no part in the answer.
-/

namespace ActionServer

/-- The two have a directory in the same place, and what it holds is the same; they may differ
elsewhere. -/
structure FileSystem.SameBelow (f f' : FileSystem) (dir : String) : Prop where
  workDir : f'.workDir = f.workDir
  place : f'.place dir = f.place dir
  below : ∀ names, f.place dir = .ok names → ∀ rest,
    f'.tree.at? (names ++ rest) = f.tree.at? (names ++ rest)

namespace Library

/-- A name that a library refuses: an empty one, one that begins at the root or with a dot alone, and
one with a parent sign in it. -/
def Unfit (name : String) : Prop :=
  name = "" ∨ name.toList.head? = some '/' ∨ (Path.segments name).head? = some "." ∨
    ".." ∈ Path.segments name

instance (name : String) : Decidable (Unfit name) :=
  inferInstanceAs (Decidable (_ ∨ _ ∨ _ ∨ _))

theorem isPlain_iff (name : String) :
    isPlain name = true ↔ Path.isAbsolute name = false ∧
      (Path.segments name).head? ≠ some "." ∧ ".." ∉ Path.segments name := by
  have every : isPlain name = true ↔
      ∀ c ∈ Path.components name, ∃ part, c = .normal part := by
    simp only [isPlain, List.all_eq_true]
    refine forall₂_congr fun c _ => ?_
    cases c <;> simp
  obtain ⟨first, rest, parts⟩ := List.exists_cons_of_ne_nil (Path.segments_ne_nil name)
  rw [every, Path.components_eq parts, parts]
  split
  · rename_i absolute
    simp [absolute]
  split
  · rename_i current
    simp [current]
  · rename_i relative other
    rw [Path.names_of_segments_iff]
    simp [relative, other]

theorem unfit_iff (name : String) : Unfit name ↔ name = "" ∨ isPlain name = false := by
  rw [← Bool.not_eq_true, isPlain_iff]
  simp only [Unfit, Path.isAbsolute, beq_eq_false_iff_ne]
  tauto

variable {l : Library} {root name : String}

theorem resolve_eq (configured : l.root = some root) (name : String) :
    l.resolve name = if Unfit name then .error (.invalidName name)
      else if l.files.isFile (Path.join root name) then .ok (Path.join root name)
      else .error (.notFound name) := by
  simp only [resolve, configured, unfit_iff, Bool.not_eq_true']

theorem down_of_fit (fit : ¬Unfit name) :
    Path.isAbsolute name = false ∧ ".." ∉ Path.segments name := by
  simp only [Unfit, not_or] at fit
  exact ⟨by simpa [Path.isAbsolute] using fit.2.1, fit.2.2.2⟩

/-- A path that is given out leads to a file, below the directory. -/
theorem inside_of_resolve (configured : l.root = some root) {path : String}
    (found : l.resolve name = .ok path) :
    ∃ dir below bytes, l.files.place root = .ok dir ∧ below ≠ [] ∧
      l.files.place path = .ok (dir ++ below) ∧
      l.files.stat path = .ok (.file bytes) ∧
      l.files.tree.at? (dir ++ below) = some (.file bytes) := by
  rw [resolve_eq configured] at found
  split at found
  · cases found
  rename_i fit
  split at found
  · rename_i present
    cases found
    obtain ⟨relative, down⟩ := down_of_fit fit
    obtain ⟨bytes, stat⟩ := FileSystem.isFile_iff.mp present
    obtain ⟨names, led, entry⟩ := FileSystem.place_of_stat stat
    have joined := led
    rw [FileSystem.place_join relative] at joined
    obtain ⟨dir, start, ended⟩ := eq_ok_of_bind joined
    obtain rfl := FileTree.eq_append_of_follow down ended
    refine ⟨dir, _, bytes, start, fun none => ?_, led, stat, entry⟩
    -- Something was followed, so the directory is none of the files.
    have directory := FileTree.directory_of_follow (Path.segments_ne_nil name) ended
    rw [none, List.append_nil, directory] at entry
    cases entry
  · cases found

/-- Files outside of the directory have no part in the answer. -/
theorem resolve_sameBelow (configured : l.root = some root) {files : FileSystem}
    (same : l.files.SameBelow files root) (name : String) :
    { l with files }.resolve name = l.resolve name := by
  rw [resolve_eq configured, resolve_eq (l := { l with files }) configured]
  by_cases unfit : Unfit name
  · rw [if_pos unfit, if_pos unfit]
  rw [if_neg unfit, if_neg unfit]
  obtain ⟨relative, down⟩ := down_of_fit unfit
  -- Both ways go down from the same place, through what they have in common.
  have led : files.place (Path.join root name) = l.files.place (Path.join root name) := by
    rw [FileSystem.place_join relative, FileSystem.place_join relative, same.place]
    cases start : l.files.place root with
    | error e => rfl
    | ok dir => exact FileTree.follow_congr (same.below dir start) down
  have stat : files.stat (Path.join root name) = l.files.stat (Path.join root name) := by
    refine FileSystem.stat_congr same.workDir led fun names reached => ?_
    rw [FileSystem.place_join relative] at reached
    obtain ⟨dir, start, ended⟩ := eq_ok_of_bind reached
    obtain rfl := FileTree.eq_append_of_follow down ended
    exact same.below dir start _
  have present : files.isFile (Path.join root name) = l.files.isFile (Path.join root name) := by
    simp only [FileSystem.isFile, stat]
  rw [present]

/-- **A library gives out what is in its directory and nothing else.** A name is refused exactly if
it is empty, begins at the root or with a dot alone, or has a parent sign among its segments. For any
other name the answer is the joined path if a file is there. Such a path leads to a regular file
below the place of the directory; nothing that stands outside of the directory makes a difference to
the answer; and the answer is what a script is told that asks for the name. -/
theorem resolve_contained (configured : l.root = some root) (name : String) :
    (l.resolve name = if Unfit name then .error (.invalidName name)
        else if l.files.isFile (Path.join root name) then .ok (Path.join root name)
        else .error (.notFound name)) ∧
      (∀ path, l.resolve name = .ok path → ∃ dir below bytes, l.files.place root = .ok dir ∧
        below ≠ [] ∧ l.files.place path = .ok (dir ++ below) ∧
        l.files.stat path = .ok (.file bytes) ∧
        l.files.tree.at? (dir ++ below) = some (.file bytes)) ∧
      (∀ files, l.files.SameBelow files root → { l with files }.resolve name = l.resolve name) ∧
      ∀ (d : Domain) (w : World), d.library = l → d.apply (.require name) w =
        (.reply (.ofExcept LibraryError.message ((l.resolve name).map Json.string)), d, w) := by
  refine ⟨resolve_eq configured name, fun path found => inside_of_resolve configured found,
    fun files same => resolve_sameBelow configured same name, ?_⟩
  rintro d w rfl
  rfl

/-- A file two directories down, asked for with slashes and dots to spare. -/
theorem resolve_contained_mail :
    let l : Library := ⟨some "lib",
      ⟨⟨[(["srv", "lib", "mail", "format.sh"], .file [0x3A]), (["srv", "key"], .file [0x21])]⟩, "/srv"⟩⟩
    let name := "mail//./format.sh"
    l.root = some "lib" ∧ ¬Unfit name ∧ l.resolve name = .ok "lib/mail//./format.sh" ∧
      (∃ dir below bytes, l.files.place "lib" = .ok dir ∧ below ≠ [] ∧
        l.files.place "lib/mail//./format.sh" = .ok (dir ++ below) ∧
        l.files.stat "lib/mail//./format.sh" = .ok (.file bytes) ∧
        l.files.tree.at? (dir ++ below) = some (.file bytes)) ∧
      (∀ files, l.files.SameBelow files "lib" →
        { l with files }.resolve name = .ok "lib/mail//./format.sh") ∧
      ∀ (d : Domain) (w : World), d.library = l → d.apply (.require name) w =
        (.reply (.ofExcept LibraryError.message (.ok (.string "lib/mail//./format.sh"))), d, w) := by
  intro l name
  have found : l.resolve name = .ok "lib/mail//./format.sh" := by decide +kernel
  obtain ⟨-, inside, blind, told⟩ := resolve_contained (l := l) rfl name
  rw [found] at blind told
  exact ⟨rfl, by decide +kernel, found, inside _ found, blind, told⟩

end Library

end ActionServer
