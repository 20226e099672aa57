import ActionServer.Text.Blank
import Mathlib.Data.List.DropRight

/-!
# Beginnings and ends of texts

A text goes on from a given beginning in one way, which is what stripping gives. Trimming takes the
slashes off the end of a text and nothing else, so it changes just the texts that end in one.
-/

namespace ActionServer.Text

/-- A text ends in a slash. -/
def EndsInSlash (s : String) : Prop :=
  s.toList.getLast? = some '/'

instance (s : String) : Decidable (EndsInSlash s) :=
  inferInstanceAs (Decidable (s.toList.getLast? = some '/'))

private theorem stripPrefix?_go_eq_some_iff {beginning cs rest : List Char} :
    stripPrefix?.go beginning cs = some rest ↔ cs = beginning ++ rest := by
  induction beginning generalizing cs with
  | nil => simp [stripPrefix?.go]
  | cons p ps ih =>
    cases cs with
    | nil => simp [stripPrefix?.go]
    | cons c cs =>
      simp only [stripPrefix?.go, List.cons_append, List.cons.injEq]
      split
      · rename_i same
        simp [same, ih]
      · rename_i other
        simp [Ne.symm other]

theorem stripPrefix?_eq_some_iff {beginning s rest : String} :
    stripPrefix? beginning s = some rest ↔ s = beginning ++ rest := by
  simp only [stripPrefix?, Option.map_eq_some_iff, stripPrefix?_go_eq_some_iff]
  constructor
  · rintro ⟨cs, parts, rfl⟩
    rw [← String.toList_inj]
    simpa using parts
  · rintro rfl
    exact ⟨rest.toList, by simp, by simp⟩

private theorem toList_trimTrailingSlashes (s : String) :
    (trimTrailingSlashes s).toList = s.toList.rdropWhile (· == '/') := by
  simp [trimTrailingSlashes, List.rdropWhile]

theorem not_endsInSlash_trimTrailingSlashes (s : String) :
    ¬EndsInSlash (trimTrailingSlashes s) := by
  rw [EndsInSlash, toList_trimTrailingSlashes]
  intro last
  have present : s.toList.rdropWhile (· == '/') ≠ [] := by
    rintro empty
    simp [empty] at last
  have kept := List.rdropWhile_last_not (· == '/') s.toList present
  rw [List.getLast?_eq_getLast_of_ne_nil present] at last
  simp [Option.some.inj last] at kept

theorem trimTrailingSlashes_eq_self_iff {s : String} :
    trimTrailingSlashes s = s ↔ ¬EndsInSlash s := by
  constructor
  · intro same
    rw [← same]
    exact not_endsInSlash_trimTrailingSlashes s
  · intro plain
    rw [← String.toList_inj, toList_trimTrailingSlashes, List.rdropWhile_eq_self_iff]
    intro present slash
    rw [EndsInSlash, List.getLast?_eq_getLast_of_ne_nil present] at plain
    simp_all

/-- A number of slashes. -/
def slashes (n : Nat) : String :=
  String.ofList (List.replicate n '/')

theorem slashes_zero : slashes 0 = "" := rfl

theorem slashes_succ (n : Nat) : slashes (n + 1) = "/" ++ slashes n := by
  rw [← String.toList_inj]
  simp [slashes, List.replicate_succ]

/-- Slashes at the end make no difference to what is left without them. -/
theorem trimTrailingSlashes_append_slashes (s : String) (n : Nat) :
    trimTrailingSlashes (s ++ slashes n) = trimTrailingSlashes s := by
  rw [← String.toList_inj, toList_trimTrailingSlashes, toList_trimTrailingSlashes]
  simp only [slashes, String.toList_append, String.toList_ofList]
  induction n with
  | zero => simp
  | succ n ih =>
    rw [List.replicate_succ', ← List.append_assoc, List.rdropWhile_concat_pos _ _ _ (by simp), ih]

/-- A text is what is left without its slashes at the end, and these. -/
theorem exists_eq_append_slashes (s : String) : ∃ n, s = trimTrailingSlashes s ++ slashes n := by
  have whole := List.rdropWhile_append_rtakeWhile (p := (· == '/')) (l := s.toList)
  have all : ∀ c ∈ s.toList.rtakeWhile (· == '/'), c = '/' := by
    intro c member
    simpa using List.mem_rtakeWhile_imp member
  refine ⟨(s.toList.rtakeWhile (· == '/')).length, ?_⟩
  rw [← String.toList_inj, String.toList_append, toList_trimTrailingSlashes]
  simp only [slashes, String.toList_ofList]
  rw [← List.eq_replicate_of_mem all]
  exact whole.symm

/-- What is left is known by not ending in a slash. -/
theorem trimTrailingSlashes_eq_iff {s t : String} :
    trimTrailingSlashes s = t ↔ ¬EndsInSlash t ∧ ∃ n, s = t ++ slashes n := by
  constructor
  · rintro rfl
    exact ⟨not_endsInSlash_trimTrailingSlashes s, exists_eq_append_slashes s⟩
  · rintro ⟨plain, n, rfl⟩
    rw [trimTrailingSlashes_append_slashes]
    exact trimTrailingSlashes_eq_self_iff.mpr plain

/-- A text that goes on with another one ends as that does. -/
theorem endsInSlash_append_iff {s t : String} (present : t ≠ "") :
    EndsInSlash (s ++ t) ↔ EndsInSlash t := by
  have chars : t.toList ≠ [] := by simpa using present
  rw [EndsInSlash, EndsInSlash, String.toList_append, List.getLast?_append_of_ne_nil _ chars]

/-- Trimming goes no further than to what does not end in a slash. -/
theorem trimTrailingSlashes_append {s : String} (plain : ¬EndsInSlash s) (t : String) :
    trimTrailingSlashes (s ++ t) = s ++ trimTrailingSlashes t := by
  obtain ⟨n, whole⟩ := exists_eq_append_slashes t
  refine trimTrailingSlashes_eq_iff.mpr ⟨?_, n, ?_⟩
  · by_cases empty : trimTrailingSlashes t = ""
    · rwa [empty, String.append_empty]
    · rw [endsInSlash_append_iff empty]
      exact not_endsInSlash_trimTrailingSlashes t
  · rw [String.append_assoc, ← whole]

end ActionServer.Text
