import ActionServer.Json.Shape
import ActionServer.Proofs.Outcome

/-!
# Records read field by field

A record is read from its fields one after the other. A field that is known is read into the draft, if
it has not been there before, and any other is skipped.
-/

namespace ActionServer.Raw

section

variable {α : Type} {known : String → Option (Raw → Except ShapeFault (α → α))}
  {read : Raw → Except ShapeFault (α → α)} {seen : List String} {draft done : α} {key : String}
  {r : Raw} {change : α → α} {rest : List (Option String × Raw)}

theorem walk_known (asked : known key = some read) (fresh : key ∉ seen)
    (readable : read r = .ok change) :
    walk known seen draft ((some key, r) :: rest) = walk known (key :: seen) (change draft) rest := by
  have unseen : seen.contains key = false := by simpa using fresh
  simp only [walk, asked, unseen, readable]
  rfl

theorem walk_skipped (other : known key = none) :
    walk known seen draft ((some key, r) :: rest) = walk known seen draft rest := by
  simp only [walk, other]

/-- Where the reading ends well, the first field was skipped, or it was read as a new one. -/
theorem walk_cons_eq_ok_iff :
    walk known seen draft ((some key, r) :: rest) = .ok done ↔
      (known key = none ∧ walk known seen draft rest = .ok done) ∨
        ∃ read change, known key = some read ∧ key ∉ seen ∧ read r = .ok change ∧
          walk known (key :: seen) (change draft) rest = .ok done := by
  constructor
  · intro ended
    cases asked : known key with
    | none => exact .inl ⟨rfl, walk_skipped asked ▸ ended⟩
    | some read =>
      simp only [walk, asked] at ended
      split at ended
      · cases ended
      · rename_i fresh
        obtain ⟨change, readable, later⟩ := eq_ok_of_bind ended
        exact .inr ⟨read, change, rfl, by simpa using fresh, readable, later⟩
  · rintro (⟨other, later⟩ | ⟨read, change, asked, fresh, readable, later⟩)
    · rw [walk_skipped other, later]
    · rw [walk_known asked fresh readable, later]

/-- Dropping fields that would be skipped changes nothing. -/
theorem walk_filter {keep : Option String × Raw → Bool}
    (skipped : ∀ f, keep f = false → ∃ key, f.1 = some key ∧ known key = none)
    (fields : List (Option String × Raw)) :
    walk known seen draft (fields.filter keep) = walk known seen draft fields := by
  induction fields generalizing seen draft with
  | nil => rfl
  | cons f rest ih =>
    obtain ⟨name, r⟩ := f
    cases kept : keep (name, r) with
    | true =>
      -- Field by field the two readings do the same, and go on with the same draft.
      rw [List.filter_cons_of_pos kept]
      cases name with
      | none => simp only [walk]
      | some key => simp only [walk, ih]
    | false =>
      obtain ⟨key, named, other⟩ := skipped (name, r) kept
      obtain rfl : name = some key := named
      rw [List.filter_cons_of_neg (by rw [kept]; decide), ih, walk_skipped other]

end

end ActionServer.Raw
