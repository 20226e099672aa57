import ActionServer.File.Path
import Mathlib.Data.List.Basic

/-!
# Texts of paths

The segments of a path are the texts between its slashes, so writing two paths with a slash between
them gives the segments of both. What a path consists of, and whether it begins at the root, can be
read from its segments. Taking a path apart and writing the parts down again drops segments that lead
nowhere and keeps the others, so the directory of a file is written differently from how the path
begins, but leads there all the same.
-/

namespace ActionServer

/-- What stands before a separator and what stands after it are split apart from each other. -/
theorem Text.split_append_cons {separates : Char → Bool} {c : Char} (mark : separates c = true)
    (before after : List Char) :
    split separates (before ++ c :: after) = split separates before ++ split separates after := by
  induction before with
  | nil => simp [split, mark]
  | cons d rest ih =>
    simp only [List.cons_append, split, ih]
    split
    · rfl
    · obtain ⟨part, more, parts⟩ := List.exists_cons_of_ne_nil (split_ne_nil separates rest)
      simp [parts]

namespace Path

theorem segments_ne_nil (path : String) : segments path ≠ [] := by
  simp [segments, Text.split_ne_nil]

theorem segments_append_slash (s t : String) :
    segments (s ++ "/" ++ t) = segments s ++ segments t := by
  simp [segments, Text.split_append_cons]

/-- A path that ends in a slash is a path with an empty segment after it. -/
theorem exists_of_endsInSlash {dir : String} (ends : dir.toList.getLast? = some '/') :
    ∃ s, dir = s ++ "/" := by
  obtain ⟨before, parts⟩ := List.getLast?_eq_some_iff.mp ends
  refine ⟨String.ofList before, ?_⟩
  rw [← String.toList_inj, parts]
  simp

theorem isAbsolute_append {dir : String} (present : dir ≠ "") (rest : String) :
    isAbsolute (dir ++ rest) = isAbsolute dir := by
  have chars : dir.toList ≠ [] := by simpa using present
  simp [isAbsolute, String.toList_append, List.head?_append_of_ne_nil _ chars]

/-- A relative path that is joined to a directory is as absolute as the directory. -/
theorem isAbsolute_join {dir path : String} (present : dir ≠ "") (plain : isAbsolute path = false) :
    isAbsolute (join dir path) = isAbsolute dir := by
  simp only [join, plain, Bool.false_eq_true, if_false, present, false_or]
  split
  · exact isAbsolute_append present path
  · rw [String.append_assoc]
    exact isAbsolute_append present _

/-- An absolute directory makes absolute paths of what is joined to it. -/
theorem isAbsolute_join_of_dir {dir : String} (absolute : isAbsolute dir = true)
    (path : String) : isAbsolute (join dir path) = true := by
  by_cases own : isAbsolute path = true
  · simp [join, own]
  · have present : dir ≠ "" := by rintro rfl; cases absolute
    exact (isAbsolute_join present (by simpa using own)).trans absolute

/-- The segments of a joined path, up to empty ones in between: those of the directory, then those of
the path. -/
theorem segments_join (dir : String) {path : String} (plain : isAbsolute path = false) :
    segments (join dir path) = segments dir ++ segments path ∨
      ∃ before, segments dir = before ++ [""] ∧ segments (join dir path) = before ++ segments path := by
  simp only [join, plain, Bool.false_eq_true, if_false]
  by_cases empty : dir = ""
  · subst empty
    exact .inr ⟨[], by simp [segments, Text.split], by simp⟩
  by_cases ends : dir.toList.getLast? = some '/'
  · obtain ⟨s, rfl⟩ := exists_of_endsInSlash ends
    refine .inr ⟨segments s, ?_, ?_⟩
    · have same := segments_append_slash s ""
      simpa [segments, Text.split] using same
    · simp only [ends, or_true, if_true, segments_append_slash]
  · left
    simp only [empty, ends, or_self, if_false, segments_append_slash]

theorem component?_eq_some_iff {segment : String} {c : Component} :
    component? segment = some c ↔ segment ≠ "" ∧ segment ≠ "." ∧
      c = if segment = ".." then .parent else .normal segment := by
  simp only [component?]
  by_cases still : segment = "" ∨ segment = "."
  · obtain rfl | rfl := still <;> simp
  · rw [not_or] at still
    by_cases up : segment = ".." <;> simp [still, up, eq_comm (b := c)]

/-- Segments after the first one are names, unless one of them is the parent. -/
theorem names_of_segments_iff (segments : List String) :
    (∀ c ∈ segments.filterMap component?, ∃ name, c = .normal name) ↔ ".." ∉ segments := by
  constructor
  · intro named up
    obtain ⟨name, other⟩ := named .parent (List.mem_filterMap.mpr ⟨"..", up, by decide⟩)
    cases other
  · intro plain c member
    obtain ⟨segment, found, part⟩ := List.mem_filterMap.mp member
    obtain ⟨-, -, rfl⟩ := component?_eq_some_iff.mp part
    have other : segment ≠ ".." := by rintro rfl; exact plain found
    exact ⟨segment, by simp [other]⟩

/-- The parts of a path by its first segment: only there the root and the place itself count. -/
theorem components_eq {path first : String} {rest : List String}
    (parts : segments path = first :: rest) :
    components path = if isAbsolute path then .root :: rest.filterMap component?
      else if first = "." then .current :: rest.filterMap component?
      else (first :: rest).filterMap component? := by
  simp only [components, parts]
  split
  · rfl
  split
  · rfl
  · rw [List.filterMap_cons]
    cases component? first <;> rfl

/-- Below the root the first segment is empty. -/
theorem eq_empty_of_isAbsolute {path first : String} {rest : List String}
    (parts : segments path = first :: rest) (absolute : isAbsolute path = true) : first = "" := by
  obtain ⟨cs, chars⟩ := List.head?_eq_some_iff.mp (eq_of_beq absolute)
  simp [segments, chars, Text.split] at parts
  exact parts.1 ▸ rfl

/-- Segments that lead somewhere: neither empty nor a sign for the place itself. -/
def Leads (segment : String) : Prop :=
  segment ≠ "" ∧ segment ≠ "."

instance (segment : String) : Decidable (Leads segment) :=
  inferInstanceAs (Decidable (segment ≠ "" ∧ segment ≠ "."))

theorem name_filterMap_component? (segments : List String) :
    (segments.filterMap component?).map ofComponents.name = segments.filter Leads := by
  induction segments with
  | nil => rfl
  | cons segment rest ih =>
    by_cases still : segment = "" ∨ segment = "."
    · have idle : ¬Leads segment := fun leads => still.elim leads.1 leads.2
      simp [idle, component?, still, ih]
    · have leads : Leads segment := not_or.mp still
      rw [List.filterMap_cons]
      by_cases up : segment = ".."
      · subst up
        simpa [leads, component?, ofComponents.name] using ih
      · simpa [leads, component?, still, up, ofComponents.name] using ih

/-- The parts of a path lead where its segments do. -/
theorem name_components (path : String) :
    ((components path).map ofComponents.name).filter Leads = (segments path).filter Leads := by
  have twice (segments : List String) :
      (segments.filter Leads).filter Leads = segments.filter Leads := by simp
  obtain ⟨first, rest, parts⟩ := List.exists_cons_of_ne_nil (segments_ne_nil path)
  rw [components_eq parts, parts]
  split
  · rename_i absolute
    obtain rfl := eq_empty_of_isAbsolute parts absolute
    simp [ofComponents.name, show ¬Leads "" by decide, name_filterMap_component?]
  split
  · rename_i current
    subst current
    simp [ofComponents.name, show ¬Leads "." by decide, name_filterMap_component?]
  · rw [name_filterMap_component?, twice]

/-! ### The directory that a path names first -/

theorem noSlash_of_mem_segments {path segment : String} (member : segment ∈ segments path) :
    '/' ∉ segment.toList := by
  intro slash
  obtain ⟨part, between, rfl⟩ := List.mem_map.mp member
  rw [String.toList_ofList] at slash
  simpa using Text.not_separates_of_mem_split between slash

theorem noSlash_of_mem_components {path : String} {c : Component} (member : c ∈ components path) :
    '/' ∉ (ofComponents.name c).toList := by
  obtain ⟨first, rest, parts⟩ := List.exists_cons_of_ne_nil (segments_ne_nil path)
  have named (found : c ∈ (first :: rest).filterMap component?) :
      '/' ∉ (ofComponents.name c).toList := by
    obtain ⟨segment, inside, part⟩ := List.mem_filterMap.mp found
    obtain ⟨-, -, rfl⟩ := component?_eq_some_iff.mp part
    split
    · decide
    · exact noSlash_of_mem_segments (parts ▸ inside)
  have later (found : c ∈ rest.filterMap component?) : '/' ∉ (ofComponents.name c).toList :=
    named (((List.sublist_cons_self first rest).filterMap component?).subset found)
  rw [components_eq parts] at member
  split at member
  · obtain rfl | found := List.mem_cons.mp member
    · decide
    · exact later found
  split at member
  · obtain rfl | found := List.mem_cons.mp member
    · decide
    · exact later found
  · exact named member

theorem segments_of_noSlash {s : String} (bare : '/' ∉ s.toList) : segments s = [s] := by
  have whole {cs : List Char} (plain : '/' ∉ cs) : Text.split (· == '/') cs = [cs] := by
    induction cs with
    | nil => rfl
    | cons c rest ih =>
      obtain ⟨other, plain⟩ := not_or.mp (mt List.mem_cons.mpr plain)
      simp [Text.split, ih plain, Ne.symm other]
  simp [segments, whole bare]

/-- Names with slashes between them are the segments of the whole. -/
theorem segments_intercalate {names : List String} (present : names ≠ [])
    (bare : ∀ n ∈ names, '/' ∉ n.toList) : segments ("/".intercalate names) = names := by
  induction names with
  | nil => exact absurd rfl present
  | cons n rest ih =>
    have single := segments_of_noSlash (bare n (by simp))
    cases rest with
    | nil => rw [String.intercalate_singleton, single]
    | cons m more =>
      rw [String.intercalate_cons_cons, segments_append_slash, single,
        ih (by simp) fun k member => bare k (List.mem_cons_of_mem _ member)]
      rfl

/-- The text of parts leads where the parts do. -/
theorem filter_segments_ofComponents {cs : List Component}
    (bare : ∀ c ∈ cs, '/' ∉ (ofComponents.name c).toList) :
    (segments (ofComponents cs)).filter Leads = (cs.map ofComponents.name).filter Leads := by
  have joined {parts : List Component} (bare : ∀ c ∈ parts, '/' ∉ (ofComponents.name c).toList) :
      (segments ("/".intercalate (parts.map ofComponents.name))).filter Leads =
        (parts.map ofComponents.name).filter Leads := by
    cases parts with
    | nil => decide
    | cons c rest =>
      rw [segments_intercalate (by simp)]
      simpa using bare
  cases cs with
  | nil => exact joined bare
  | cons c rest =>
    cases c with
    | root =>
      have below := joined fun c member => bare c (List.mem_cons_of_mem _ member)
      have split := segments_append_slash "" ("/".intercalate (rest.map ofComponents.name))
      rw [String.empty_append] at split
      have idle : ¬Leads "" := by decide
      simp only [ofComponents, split, List.filter_append, below]
      simp [ofComponents.name, idle, segments, Text.split]
    | current | parent | normal name => exact joined bare

/-- A single empty segment is all of an empty path; before others it is the root. -/
theorem isAbsolute_of_eq_empty {path : String} {rest : List String} (present : rest ≠ [])
    (parts : segments path = "" :: rest) : isAbsolute path = true := by
  cases chars : path.toList with
  | nil =>
    simp only [segments, chars, Text.split, List.map_cons, List.map_nil, List.cons.injEq] at parts
    exact absurd parts.2.symm present
  | cons c cs =>
    by_cases slash : c = '/'
    · simp [isAbsolute, chars, slash]
    · obtain ⟨part, more, split⟩ :=
        List.exists_cons_of_ne_nil (Text.split_ne_nil (· == '/') cs)
      simp [segments, chars, Text.split, slash, split, ← String.toList_inj] at parts

/-- The parts of a path that ends in a name, after other segments. The first part is the root just if
the path is absolute; else it has a text. -/
theorem components_of_segments {path first last : String} {middle : List String}
    (parts : segments path = first :: middle ++ [last]) (leads : Leads last) (name : last ≠ "..") :
    ∃ head, components path = (head :: middle.filterMap component?) ++ [.normal last] ∧
      (isAbsolute path = true ∧ head = .root ∨
        isAbsolute path = false ∧ head ≠ .root ∧ ofComponents.name head ≠ "") := by
  have ending : component? last = some (.normal last) := by
    simp [component?_eq_some_iff, leads.1, leads.2, name]
  rw [components_eq parts]
  split
  · rename_i absolute
    exact ⟨.root, by simp [ending], .inl ⟨absolute, rfl⟩⟩
  rename_i relative
  have apart : isAbsolute path = false := by simpa using relative
  split
  · exact ⟨.current, by simp [ending], .inr ⟨apart, by decide, by decide⟩⟩
  · rename_i other
    have text : first ≠ "" := by
      rintro rfl
      exact relative (isAbsolute_of_eq_empty (by simp) parts)
    have part := component?_eq_some_iff.mpr ⟨text, other, rfl⟩
    refine ⟨if first = ".." then .parent else .normal first, by simp [part, ending],
      .inr ⟨apart, ?_, ?_⟩⟩
    · split <;> simp
    · split <;> simp [ofComponents.name, text]

/-- A path whose last segment is a name, after others, has a directory before it: with the same
beginning, and leading where the segments before the name do. -/
theorem parent?_of_segments {path last : String} {before : List String} (present : before ≠ [])
    (parts : segments path = before ++ [last]) (leads : Leads last) (name : last ≠ "..") :
    ∃ dir, parent? path = some dir ∧ dir ≠ "" ∧ isAbsolute dir = isAbsolute path ∧
      (segments path).filter Leads = (segments dir).filter Leads ++ [last] := by
  obtain ⟨first, middle, rfl⟩ := List.exists_cons_of_ne_nil present
  obtain ⟨head, whole, start⟩ := components_of_segments parts leads name
  generalize middle.filterMap component? = rest at whole
  have bare : ∀ c ∈ head :: rest, '/' ∉ (ofComponents.name c).toList := fun c member =>
    noSlash_of_mem_components (whole ▸ List.mem_append_left _ member)
  have led : (segments path).filter Leads =
      (segments (ofComponents (head :: rest))).filter Leads ++ [last] := by
    rw [← name_components, whole, filter_segments_ofComponents bare, List.map_append,
      List.filter_append]
    simp [ofComponents.name, leads]
  refine ⟨ofComponents (head :: rest), by simp [parent?, whole], ?_⟩
  obtain ⟨absolute, rfl⟩ | ⟨relative, other, text⟩ := start
  · refine ⟨?_, ?_, led⟩
    · simp [ofComponents, ← String.toList_inj]
    · rw [absolute]
      simp [ofComponents, isAbsolute]
  · -- The text of the directory begins with that of its first part, which has no slash.
    have shown : segments (ofComponents (head :: rest)) =
        ofComponents.name head :: rest.map ofComponents.name := by
      cases head with
      | root => exact absurd rfl other
      | current | parent | normal name =>
        exact segments_intercalate (by simp) (by simpa using bare)
    refine ⟨fun empty => ?_, ?_, led⟩
    · rw [empty] at shown
      exact text (List.cons.inj shown).1.symm
    · rw [relative]
      exact Bool.eq_false_iff.mpr fun absolute => text (eq_empty_of_isAbsolute shown absolute)

/-- With a slash in it a path has segments before the last one. -/
theorem before_ne_nil {path last : String} {before : List String} (slash : '/' ∈ path.toList)
    (parts : segments path = before ++ [last]) : before ≠ [] := by
  rintro rfl
  have split : Text.split (· == '/') path.toList = [last.toList] := by
    have single := congrArg (List.map String.toList) parts
    simpa [segments, Function.comp_def] using single
  have whole := Text.intercalate_split '/' path.toList
  rw [split] at whole
  rw [← whole] at slash
  have member : last ∈ segments path := by simp [parts]
  exact noSlash_of_mem_segments member (by simpa [List.intercalate] using slash)

theorem slash_mem_join {dir : String} (present : dir ≠ "") (path : String) :
    '/' ∈ (join dir path).toList := by
  simp only [join]
  split
  · rename_i absolute
    exact List.mem_of_head? (eq_of_beq absolute)
  split
  · rename_i ends
    have slash := List.mem_of_getLast? (ends.resolve_left present)
    simp [String.toList_append, slash]
  · simp [String.toList_append]

end Path

end ActionServer
