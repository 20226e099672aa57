import ActionServer.Proofs.File.Path

/-!
# Files named in a directory

What a joined path consists of. A relative path adds its segments to the parts of the directory, less
those that lead nowhere, and so leads below the directory exactly if no segment is the parent. An
absolute path takes the place of the directory.

The name of the file is the last segment of the path that was joined. Its stem is what stands before
the extension, unless nothing does.
-/

namespace ActionServer

/-- What is written behind a text without separators in it goes to the last part. -/
theorem Text.exists_split_append {separates : Char → Bool} {behind : List Char}
    (plain : ∀ c ∈ behind, separates c = false) (cs : List Char) :
    ∃ before last, split separates cs = before ++ [last] ∧
      split separates (cs ++ behind) = before ++ [last ++ behind] := by
  induction cs with
  | nil =>
    refine ⟨[], [], rfl, ?_⟩
    -- Without separators there is one part.
    induction behind with
    | nil => rfl
    | cons c rest ih =>
      have single := ih fun d member => plain d (List.mem_cons_of_mem _ member)
      simp only [List.nil_append] at single ⊢
      simp [split, plain c List.mem_cons_self, single]
  | cons c rest ih =>
    -- The first character changes the first part at most, which is the last one only if alone.
    obtain ⟨before, last, parts, longer⟩ := ih
    simp only [List.cons_append, split, parts, longer]
    split
    · exact ⟨[] :: before, last, rfl, rfl⟩
    · cases before with
      | nil => exact ⟨[], c :: last, rfl, rfl⟩
      | cons first more => exact ⟨(c :: first) :: more, last, rfl, rfl⟩

namespace Path

/-! ### The last segment -/

/-- The text behind the last slash of a path. -/
def lastSegment (path : String) : String :=
  (segments path).getLast (segments_ne_nil path)

theorem noSlash_lastSegment (path : String) : '/' ∉ (lastSegment path).toList :=
  noSlash_of_mem_segments (List.getLast_mem _)

theorem lastSegment_of_noSlash {path : String} (bare : '/' ∉ path.toList) :
    lastSegment path = path := by
  simp [lastSegment, segments_of_noSlash bare]

/-- What is written behind a path goes to its last segment. -/
theorem exists_segments_append (path : String) {behind : String} (bare : '/' ∉ behind.toList) :
    ∃ before, segments (path ++ behind) = before ++ [lastSegment path ++ behind] := by
  have plain : ∀ c ∈ behind.toList, (c == '/') = false := by
    intro c member
    exact beq_eq_false_iff_ne.mpr fun slash => bare (slash ▸ member)
  obtain ⟨before, last, parts, longer⟩ := Text.exists_split_append plain path.toList
  refine ⟨before.map String.ofList, ?_⟩
  have own : lastSegment path = String.ofList last := by
    simp [lastSegment, segments, parts]
  rw [own, segments, String.toList_append, longer, List.map_append]
  simp

/-- A joined path ends as the path does that was joined. -/
theorem exists_segments_join (dir path : String) :
    ∃ front, segments (join dir path) = front ++ segments path := by
  by_cases absolute : isAbsolute path = true
  · exact ⟨[], by simp [join, absolute]⟩
  · rcases segments_join dir (by simpa using absolute) with parts | ⟨before, -, parts⟩
    · exact ⟨_, parts⟩
    · exact ⟨_, parts⟩

/-- A segment is told by its length to be neither idle nor the parent. -/
theorem leads_of_long {segment : String} (long : 2 < segment.length) :
    Leads segment ∧ segment ≠ ".." := by
  have other (short : String) (few : short.length ≤ 2) : segment ≠ short := by
    rintro rfl
    omega
  exact ⟨⟨other "" (by decide), other "." (by decide)⟩, other ".." (by decide)⟩

/-- The last segment is the name of the file, unless it leads nowhere or up. -/
theorem fileName?_of_segments {path last : String} {before : List String}
    (parts : segments path = before ++ [last]) (leads : Leads last) (name : last ≠ "..") :
    fileName? path = some last := by
  have ending : component? last = some (.normal last) := by
    simp [component?_eq_some_iff, leads.1, leads.2, name]
  cases before with
  | nil =>
    have relative : ¬isAbsolute path = true := by
      intro absolute
      exact leads.1 (eq_empty_of_isAbsolute parts absolute)
    simp [fileName?, components_eq parts, relative, leads.2, ending]
  | cons first middle =>
    obtain ⟨head, whole, -⟩ := components_of_segments parts leads name
    rw [fileName?, whole, List.getLast?_concat]

/-! ### The stem of a file name -/

theorem stem_append (name : String) {extension : String} (plain : '.' ∉ extension.toList) :
    stem (name ++ "." ++ extension) = if name = "" then "." ++ extension else name := by
  have kept : ∀ c ∈ extension.toList.reverse, (c != '.') = true := by
    intro c member
    exact bne_iff_ne.mpr fun dot => plain (dot ▸ List.mem_reverse.mp member)
  -- Read from the end, the first dot is the one before the extension.
  have cut : ((name ++ "." ++ extension).toList.reverse.dropWhile (· != '.')) =
      '.' :: name.toList.reverse := by
    simp only [String.toList_append, List.reverse_append]
    rw [List.dropWhile_append_of_pos kept]
    rfl
  simp only [stem, cut]
  by_cases empty : name = ""
  · simp [empty]
  · obtain ⟨c, rest, chars⟩ := List.exists_cons_of_ne_nil
      (l := name.toList.reverse) (by simpa using empty)
    simp only [if_neg empty, chars]
    rw [← chars, List.reverse_reverse, String.ofList_toList]

/-! ### The parts of a joined path -/

theorem parent_mem_filterMap_iff (segments : List String) :
    .parent ∈ segments.filterMap component? ↔ ".." ∈ segments := by
  constructor
  · intro member
    obtain ⟨segment, inside, part⟩ := List.mem_filterMap.mp member
    obtain ⟨-, -, which⟩ := component?_eq_some_iff.mp part
    split at which
    · rename_i up
      exact up ▸ inside
    · cases which
  · intro up
    exact List.mem_filterMap.mpr ⟨"..", up, by decide⟩

/-- A relative path adds its parts to those of a directory. -/
theorem components_join {dir path : String} (present : dir ≠ "")
    (relative : isAbsolute path = false) :
    components (join dir path) = components dir ++ (segments path).filterMap component? := by
  obtain ⟨first, rest, parts⟩ := List.exists_cons_of_ne_nil (segments_ne_nil dir)
  -- The joined path begins as the directory does, so the first segment counts alike in both.
  have beginning := isAbsolute_join present relative
  rcases segments_join dir relative with joined | ⟨before, slash, joined⟩
  · rw [parts, List.cons_append] at joined
    rw [components_eq joined, components_eq parts, beginning]
    simp only [← List.cons_append, List.filterMap_append]
    split
    · rfl
    · split <;> rfl
  · -- The slash at the end of the directory stands for the one in between.
    cases before with
    | nil =>
      have empty : segments dir = [""] := slash
      have root : dir = "" := by
        have whole := Text.intercalate_split '/' dir.toList
        have single : Text.split (· == '/') dir.toList = [[]] := by
          simpa [segments, ← String.toList_inj] using empty
        rw [single] at whole
        simpa [List.intercalate] using whole.symm
      exact absurd root present
    | cons head middle =>
      rw [parts] at slash
      obtain ⟨rfl, behind⟩ := List.cons.inj slash
      have cut : rest = middle ++ [""] := behind
      subst cut
      rw [List.cons_append] at joined
      have idle : [""].filterMap component? = [] := rfl
      rw [components_eq joined, components_eq parts, beginning]
      simp only [← List.cons_append, List.filterMap_append, idle, List.append_nil]
      split
      · rfl
      · split <;> rfl

/-- Without a directory a path is itself, of which a leading sign for the place is kept. -/
theorem components_join_empty {path : String} (relative : isAbsolute path = false) :
    components (join "" path) = (segments path).filterMap component? ∨
      components (join "" path) = .current :: (segments path).filterMap component? := by
  have own : join "" path = path := by simp [join, relative]
  obtain ⟨first, rest, parts⟩ := List.exists_cons_of_ne_nil (segments_ne_nil path)
  rw [own, components_eq parts, parts, relative]
  simp only [Bool.false_eq_true, if_false]
  split
  · rename_i current
    subst current
    exact .inr rfl
  · exact .inl rfl

/-- A path is a directory with parts behind it, none of which leads up. -/
def Below (dir path : String) : Prop :=
  ∃ rest, components path = components dir ++ rest ∧ .parent ∉ rest

/-- An absolute path is not below a relative directory, so not below every one. -/
theorem not_below_of_isAbsolute {path : String} (absolute : isAbsolute path = true) :
    ¬Below "scripts" path := by
  rintro ⟨rest, same, -⟩
  obtain ⟨first, more, parts⟩ := List.exists_cons_of_ne_nil (segments_ne_nil path)
  have relative : components "scripts" = [.normal "scripts"] := by decide
  rw [components_eq parts, if_pos absolute, relative] at same
  cases (List.cons.inj same).1

/-- A relative path stays below a directory exactly if it never leads up. -/
theorem below_join_iff (dir : String) {path : String} (relative : isAbsolute path = false) :
    Below dir (join dir path) ↔ ".." ∉ segments path := by
  have shown (lead : List Component) (plain : .parent ∉ lead)
      (parts : components (join dir path) =
        components dir ++ (lead ++ (segments path).filterMap component?)) :
      Below dir (join dir path) ↔ ".." ∉ segments path := by
    have up : .parent ∉ lead ++ (segments path).filterMap component? ↔ ".." ∉ segments path := by
      rw [List.mem_append, parent_mem_filterMap_iff]
      simp only [plain, false_or]
    rw [← up]
    constructor
    · rintro ⟨rest, same, down⟩
      rwa [List.append_cancel_left (parts.symm.trans same)]
    · intro down
      exact ⟨_, parts, down⟩
  by_cases empty : dir = ""
  · subst empty
    have none : components "" = [] := by decide
    rcases components_join_empty relative with parts | parts
    · exact shown [] (by simp) (by simpa [none] using parts)
    · exact shown [.current] (by simp) (by simpa [none] using parts)
  · exact shown [] (by simp) (by simpa using components_join empty relative)

/-- Paths that have the same parts in a directory have them anywhere. -/
theorem filterMap_eq_of_components_join {dir path other : String}
    (relative : isAbsolute path = false) (relative' : isAbsolute other = false)
    (same : components (join dir path) = components (join dir other)) :
    (segments path).filterMap component? = (segments other).filterMap component? := by
  -- A sign for the place is kept only at the beginning, so it can be left out on both sides.
  have settled (path : String) : ((segments path).filterMap component?).filter (· != .current) =
      (segments path).filterMap component? := by
    refine List.filter_eq_self.mpr fun c member => ?_
    obtain ⟨segment, -, part⟩ := List.mem_filterMap.mp member
    obtain ⟨-, -, rfl⟩ := component?_eq_some_iff.mp part
    split <;> rfl
  by_cases empty : dir = ""
  · subst empty
    have filtered (path : String) (relative : isAbsolute path = false) :
        (components (join "" path)).filter (· != .current) =
          (segments path).filterMap component? := by
      rcases components_join_empty relative with parts | parts
      · rw [parts, settled]
      · rw [parts, List.filter_cons_of_neg (by decide), settled]
    rw [← filtered path relative, ← filtered other relative', same]
  · rw [components_join empty relative, components_join empty relative'] at same
    exact List.append_cancel_left same

end Path

end ActionServer
