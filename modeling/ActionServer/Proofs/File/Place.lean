import ActionServer.File.Tree
import ActionServer.Proofs.File.Path
import ActionServer.Proofs.Outcome

/-!
# Places

A place is the list of names that leads from the root to a file or a directory. Following one list
of segments and then another is following both, so a joined path leads from the place of its
directory on, and what a path means in a directory is what it means joined to it. A path without the
sign for the parent only ever goes down: it ends at the place where it began with the names in the
path after it, and nothing but what is at that place or below is looked at.
-/

namespace ActionServer

open ActionServer.Path (Leads segments)

namespace FileTree

variable {t : FileTree} {place found : List String} {parts : List String}

theorem follow_append (t : FileTree) (place before after : List String) :
    t.follow place (before ++ after) = (t.follow place before >>= (t.follow · after)) := by
  induction before generalizing place with
  | nil => rfl
  | cons segment rest ih =>
    simp only [List.cons_append, follow]
    split
    · rfl
    · rfl
    split
    · exact ih place
    split
    · exact ih place.dropLast
    split
    · rfl
    split
    · rfl
    · exact ih (place ++ [segment])

/-- A segment that leads nowhere makes no difference before others. -/
theorem follow_cons_of_still {segment : String} (still : ¬Leads segment) (present : parts ≠ []) :
    t.follow place (segment :: parts) = t.follow place parts := by
  obtain ⟨first, rest, rfl⟩ := List.exists_cons_of_ne_nil present
  have idle : segment = "" ∨ segment = "." := by simpa [Leads, or_iff_not_imp_left] using still
  conv_lhs => rw [follow]
  simp only [idle, if_true]
  split
  · rename_i absent
    simp [follow, absent]
  · rename_i bytes file
    simp [follow, file]
  · rfl

/-- Before the last segment only those count that lead somewhere. -/
theorem follow_filter (last : String) :
    t.follow place (parts ++ [last]) = t.follow place (parts.filter Leads ++ [last]) := by
  induction parts generalizing place with
  | nil => rfl
  | cons segment rest ih =>
    by_cases on : Leads segment
    · simp only [List.cons_append, List.filter_cons, on, decide_true, if_true, follow, ih]
    · rw [List.cons_append, follow_cons_of_still on (by simp), ih]
      simp [on]

/-- Only from a directory something can be followed. -/
theorem directory_of_follow (present : parts ≠ []) (ended : t.follow place parts = .ok found) :
    t.at? place = some .directory := by
  obtain ⟨first, rest, rfl⟩ := List.exists_cons_of_ne_nil present
  simp only [follow] at ended
  split at ended
  · cases ended
  · cases ended
  · assumption

/-- A path without parent signs ends below where it begins. -/
theorem eq_append_of_follow (down : ".." ∉ parts) (ended : t.follow place parts = .ok found) :
    found = place ++ parts.filter Leads := by
  induction parts generalizing place with
  | nil => simpa [follow, eq_comm] using ended
  | cons segment rest ih =>
    obtain ⟨other, down⟩ := not_or.mp (mt List.mem_cons.mpr down)
    simp only [follow, Ne.symm other, if_false] at ended
    split at ended
    · cases ended
    · cases ended
    split at ended
    · rename_i idle
      have still : ¬Leads segment := fun leads => idle.elim leads.1 leads.2
      simpa [still] using ih down ended
    · rename_i leads
      split at ended
      · cases ended
      split at ended
      · cases ended
      · have on : Leads segment := not_or.mp leads
        simpa [on] using ih down ended

/-- Where a path without parent signs ends tells where it began. -/
theorem eq_of_follow {place' : List String} (down : ".." ∉ parts)
    (ended : t.follow place parts = .ok found) (ended' : t.follow place' parts = .ok found) :
    place = place' :=
  List.append_cancel_right
    ((eq_append_of_follow down ended).symm.trans (eq_append_of_follow down ended'))

/-- A path without parent signs looks at nothing outside the place where it begins. -/
theorem follow_congr {t' : FileTree}
    (agree : ∀ names, t'.at? (place ++ names) = t.at? (place ++ names)) (down : ".." ∉ parts) :
    t'.follow place parts = t.follow place parts := by
  induction parts generalizing place with
  | nil => rfl
  | cons segment rest ih =>
    obtain ⟨other, down⟩ := not_or.mp (mt List.mem_cons.mpr down)
    have here : t'.at? place = t.at? place := by simpa using agree []
    have below : t'.follow (place ++ [segment]) rest = t.follow (place ++ [segment]) rest :=
      ih (fun names => by simpa using agree (segment :: names)) down
    simp only [follow, here, agree [segment], ih agree down, Ne.symm other, if_false, below]

/-- Every place above a place that has been reached is a directory. -/
theorem directory_above {above : List String}
    (start : ∀ above, above <+: place → above ≠ place → t.at? above = some .directory)
    (ended : t.follow place parts = .ok found) (higher : above <+: found) (other : above ≠ found) :
    t.at? above = some .directory := by
  -- The invariant is that of `start`: it is kept by going up, staying and going down.
  induction parts generalizing place with
  | nil =>
    cases ended
    exact start above higher other
  | cons segment rest ih =>
    simp only [follow] at ended
    split at ended
    · cases ended
    · cases ended
    rename_i directory
    split at ended
    · exact ih start ended
    split at ended
    · refine ih (fun above higher other => ?_) ended
      have shorter := higher.trans (List.dropLast_prefix place)
      by_cases same : above = place
      · exact same ▸ directory
      · exact start above shorter same
    split at ended
    · cases ended
    split at ended
    · cases ended
    · refine ih (fun above higher other => ?_) ended
      obtain rfl | within := List.prefix_concat_iff.mp higher
      · exact absurd rfl other
      by_cases same : above = place
      · exact same ▸ directory
      · exact start above within same

/-- A path that leads to a file ends in a name. -/
theorem ends_in_name {before : List String} {last : String} {bytes : List UInt8}
    (ended : t.follow [] (before ++ [last]) = .ok found)
    (file : t.at? found = some (.file bytes)) : Leads last ∧ last ≠ ".." := by
  rw [follow_append] at ended
  obtain ⟨here, above, ended⟩ := eq_ok_of_bind ended
  have directory := directory_of_follow (by simp) ended
  simp only [follow, directory] at ended
  split at ended
  · -- Nothing but a directory is at a place that is followed to itself.
    cases ended
    simp [directory] at file
  rename_i leads
  refine ⟨not_or.mp leads, ?_⟩
  rintro rfl
  simp only [if_true] at ended
  cases ended
  by_cases top : here.dropLast = here
  · rw [top, directory] at file
    cases file
  · have higher := directory_above (fun above higher other => absurd (List.prefix_nil.mp higher) other)
      above (List.dropLast_prefix here) top
    rw [higher] at file
    cases file

/-- Following the segments of a joined path is following those of the directory and then those of the
path. -/
theorem follow_segments_join {dir path : String} (relative : Path.isAbsolute path = false)
    (place : List String) :
    t.follow place (segments (Path.join dir path)) =
      (t.follow place (segments dir) >>= (t.follow · (segments path))) := by
  obtain both | ⟨before, slash, both⟩ := Path.segments_join dir relative
  · rw [both, follow_append]
  · rw [both, slash, ← follow_append, List.append_assoc, follow_append, follow_append]
    have idle : ¬Leads "" := by decide
    simp only [List.cons_append, List.nil_append,
      follow_cons_of_still idle (Path.segments_ne_nil path)]

/-- The place that is found is the one that the segments lead to. -/
theorem follow_of_locate {path : String} (located : t.locate path = .ok found) :
    t.follow [] (segments path) = .ok found := by
  simp only [locate] at located
  split at located
  · cases located
  split at located
  · cases located
  split at located
  · cases located
  · exact located

end FileTree

namespace FileSystem

variable {f : FileSystem} {path : String}

/-- The place that a path leads to from the working directory. -/
def place (f : FileSystem) (path : String) : Except FileFault (List String) :=
  f.tree.follow [] (segments (Path.resolveFrom f.workDir path))

theorem place_of_relative (relative : Path.isAbsolute path = false) :
    f.place path = (f.tree.follow [] (segments f.workDir) >>= (f.tree.follow · (segments path))) := by
  simp only [place, Path.resolveFrom, relative, Bool.false_eq_true, if_false,
    FileTree.follow_segments_join relative]

theorem place_join {dir : String} (relative : Path.isAbsolute path = false) :
    f.place (Path.join dir path) = (f.place dir >>= (f.tree.follow · (segments path))) := by
  by_cases absolute : Path.isAbsolute dir = true
  · have present : dir ≠ "" := by rintro rfl; cases absolute
    have joined := (Path.isAbsolute_join present relative).trans absolute
    simp only [place, Path.resolveFrom, joined, absolute, if_true,
      FileTree.follow_segments_join relative]
  · -- Both are then followed from the working directory, and the joined path through the directory.
    have relativeDir : Path.isAbsolute dir = false := by simpa using absolute
    have joined : Path.isAbsolute (Path.join dir path) = false := by
      by_cases empty : dir = ""
      · simp [empty, Path.join, relative]
      · exact (Path.isAbsolute_join empty relative).trans relativeDir
    rw [place_of_relative joined, place_of_relative relativeDir, bind_assoc]
    simp only [FileTree.follow_segments_join relative]

/-- A path means in a directory what it means there: itself, or what it leads to from that
directory. -/
theorem place_within (dir : String) :
    (f.within dir).place path = if Path.isAbsolute path then f.place path
      else (f.place dir >>= (f.tree.follow · (segments path))) := by
  split
  · rename_i absolute
    simp [place, Path.resolveFrom, absolute, within]
  · rename_i relative
    exact place_of_relative (by simpa using relative)

/-- What a path leads to stands at its place. -/
theorem place_of_stat {entry : FileEntry} (found : f.stat path = .ok entry) :
    ∃ names, f.place path = .ok names ∧ f.tree.at? names = some entry := by
  simp only [stat, FileTree.stat] at found
  split at found
  · cases found
  split at found
  · cases found
  rename_i names located
  split at found
  · rename_i present
    cases found
    exact ⟨names, FileTree.follow_of_locate located, present⟩
  · cases found

theorem isFile_iff : f.isFile path = true ↔ ∃ bytes, f.stat path = .ok (.file bytes) := by
  simp only [isFile]
  split <;> simp_all

/-- What a path leads to is decided by its text, its place and what stands there. -/
theorem stat_congr {f' : FileSystem} (workDir : f'.workDir = f.workDir)
    (same : f'.place path = f.place path)
    (agree : ∀ names, f.place path = .ok names → f'.tree.at? names = f.tree.at? names) :
    f'.stat path = f.stat path := by
  simp only [place, workDir] at same agree
  have located : f'.tree.locate (Path.resolveFrom f.workDir path) =
      f.tree.locate (Path.resolveFrom f.workDir path) := by
    simp only [FileTree.locate, same]
  simp only [stat, FileTree.stat, workDir, located]
  split
  · rfl
  split
  · rfl
  · rename_i names found
    rw [agree names (FileTree.follow_of_locate found)]

/-- A file is in the directory that its path names first. -/
theorem exists_parent {bytes : List UInt8} (slash : '/' ∈ path.toList)
    (found : f.stat path = .ok (.file bytes)) :
    ∃ dir last, Path.parent? path = some dir ∧ dir ≠ "" ∧
      Path.isAbsolute dir = Path.isAbsolute path ∧ last ≠ ".." ∧
      ∀ g : FileSystem, g.place path = (g.place dir >>= (g.tree.follow · [last])) := by
  obtain ⟨names, led, file⟩ := place_of_stat found
  have whole := List.dropLast_concat_getLast (Path.segments_ne_nil path)
  generalize (segments path).dropLast = before, (segments path).getLast _ = last at whole
  have name : Leads last ∧ last ≠ ".." := by
    by_cases absolute : Path.isAbsolute path = true
    · rw [place, Path.resolveFrom, if_pos absolute, ← whole] at led
      exact FileTree.ends_in_name led file
    · rw [place_of_relative (by simpa using absolute), ← whole, ← FileTree.follow_append,
        ← List.append_assoc] at led
      exact FileTree.ends_in_name led file
  obtain ⟨dir, parent, present, alike, led⟩ :=
    Path.parent?_of_segments (Path.before_ne_nil slash whole.symm) whole.symm name.1 name.2
  have ends : (segments path).filter Leads = before.filter Leads ++ [last] := by
    rw [← whole]
    simp [name.1]
  -- The path and its directory are written differently, but only in segments that lead nowhere.
  have through (t : FileTree) (start : List String) : t.follow start (segments path) =
      (t.follow start (segments dir) >>= (t.follow · [last])) := by
    rw [← whole, FileTree.follow_filter, ← ends, led, ← FileTree.follow_filter,
      FileTree.follow_append]
  refine ⟨dir, last, parent, present, alike, name.2, fun g => ?_⟩
  by_cases absolute : Path.isAbsolute path = true
  · simp only [place, Path.resolveFrom, alike, absolute, if_true, through]
  · have relative : Path.isAbsolute path = false := by simpa using absolute
    rw [place_of_relative relative, place_of_relative (alike.trans relative), bind_assoc]
    simp only [through]

/-! ### The same path in another directory -/

/-- A path leads from a directory to where it leads from the working directory. -/
def Keeps (f : FileSystem) (dir path : String) : Prop :=
  (f.within dir).place path = f.place path

theorem keeps_of_isAbsolute (absolute : Path.isAbsolute path = true) (dir : String) :
    f.Keeps dir path := by
  rw [Keeps, place_within, if_pos absolute]

/-- What goes on downwards from the end of another path leads to the same place just if that does. -/
theorem keeps_iff {dir above : String} {rest names : List String} (down : ".." ∉ rest)
    (through : ∀ g : FileSystem, g.place path = (g.place above >>= (g.tree.follow · rest)))
    (led : f.place path = .ok names) : f.Keeps dir path ↔ f.Keeps dir above := by
  have ended := led
  rw [through] at ended
  obtain ⟨start, reached, ended⟩ := eq_ok_of_bind ended
  constructor
  · intro keeps
    have other := keeps.trans led
    rw [through] at other
    obtain ⟨start', reached', ended'⟩ := eq_ok_of_bind other
    rw [Keeps, reached', reached, FileTree.eq_of_follow down ended ended']
  · intro keeps
    rw [Keeps, through, through, keeps]
    rfl

/-- A relative path without parent signs keeps its meaning in the working directory only. -/
theorem keeps_iff_of_down {dir : String} {names : List String}
    (relative : Path.isAbsolute path = false) (down : ".." ∉ segments path)
    (led : f.place path = .ok names) : f.Keeps dir path ↔ f.place dir = f.place "" := by
  have empty : Path.isAbsolute "" = false := rfl
  have ended := led
  rw [place_of_relative relative] at ended
  obtain ⟨start, reached, ended⟩ := eq_ok_of_bind ended
  have directory := FileTree.directory_of_follow (Path.segments_ne_nil path) ended
  -- The empty path leads to the working directory, from which the path was followed.
  have here : f.place "" = .ok start := by
    rw [place_of_relative empty, reached]
    simp [segments, Text.split, bind, Except.bind, FileTree.follow, directory]
  rw [Keeps, place_within, relative, led, here]
  constructor
  · intro keeps
    obtain ⟨start', reached', ended'⟩ := eq_ok_of_bind keeps
    rw [reached', FileTree.eq_of_follow down ended' ended]
  · intro same
    rw [same]
    exact ended

end FileSystem

end ActionServer
