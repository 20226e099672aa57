/-!
# Splitting at separators

A list of settings, the segments of a path, the labels of a host and the parts of a query are all the
texts between separators. Splitting keeps the empty ones, so that writing the separators back between
the parts gives the text again.
-/

namespace ActionServer.Text

/-- The texts between the characters that separate them, empty ones included. -/
def split (separates : Char → Bool) : List Char → List (List Char)
  | [] => [[]]
  | c :: rest =>
    if separates c then [] :: split separates rest
    else match split separates rest with
      | part :: more => (c :: part) :: more
      | [] => [[c]]

theorem split_ne_nil (separates : Char → Bool) (cs : List Char) : split separates cs ≠ [] := by
  cases cs with
  | nil => simp [split]
  | cons c rest =>
    simp only [split]
    split
    · simp
    · split <;> simp

/-- No part holds a separator. -/
theorem not_separates_of_mem_split {separates : Char → Bool} {cs part : List Char} {c : Char}
    (between : part ∈ split separates cs) (member : c ∈ part) : separates c = false := by
  induction cs generalizing part with
  | nil => simp_all [split]
  | cons d rest ih =>
    simp only [split] at between
    split at between
    · rcases List.mem_cons.mp between with rfl | later
      · simp at member
      · exact ih later member
    · rename_i plain
      split at between
      · rename_i first more parts
        rcases List.mem_cons.mp between with rfl | later
        · rcases List.mem_cons.mp member with rfl | inFirst
          · simpa using plain
          · exact ih (parts ▸ List.mem_cons_self) inFirst
        · exact ih (parts ▸ List.mem_cons_of_mem _ later) member
      · simp_all

/-- Writing the separator between the parts gives the text again. -/
theorem intercalate_split (mark : Char) (cs : List Char) :
    [mark].intercalate (split (· == mark) cs) = cs := by
  induction cs with
  | nil => simp [split, List.intercalate]
  | cons c rest ih =>
    have whole := split_ne_nil (· == mark) rest
    simp only [split]
    split
    · rename_i same
      obtain ⟨part, more, parts⟩ := List.exists_cons_of_ne_nil whole
      rw [parts] at ih ⊢
      simp_all [List.intercalate]
    · split
      · rename_i first more parts
        rw [parts] at ih
        cases more with
        | nil => simp_all [List.intercalate]
        | cons second others => simp_all [List.intercalate]
      · simp_all

end ActionServer.Text
