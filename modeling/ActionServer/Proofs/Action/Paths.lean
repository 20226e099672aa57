import ActionServer.Action.Dispatcher
import ActionServer.Proofs.Text.Affix

/-!
# Action paths

A path is an action path if it is the route prefix or goes on from it with a slash, and no other path
is. What it names is the rest behind that slash, without the slashes at its end. So a path is kept
from the actions either because the prefix does not begin it or because no slash follows the prefix.
-/

namespace ActionServer.Dispatcher

/-- A path is another one or lies below it. -/
def Within (top path : String) : Prop :=
  path = top ∨ ∃ rest, path = top ++ "/" ++ rest

theorem append_slash_ne (top rest : String) : top ++ "/" ++ rest ≠ top := fun same => by
  have slash : "/".length = 1 := rfl
  have lengths := congrArg String.length same
  simp only [String.length_append, slash] at lengths
  omega

/-- The first segment of a path tells within which single segment it lies. -/
theorem takeWhile_of_within {name path : String} (plain : '/' ∉ name.toList)
    (within : Within ("/" ++ name) path) :
    path.toList.tail.takeWhile (· != '/') = name.toList := by
  have whole : ∀ c ∈ name.toList, (c != '/') = true := by
    intro c member
    exact bne_iff_ne.mpr fun slash => plain (slash ▸ member)
  rcases within with rfl | ⟨rest, rfl⟩
  · simpa using List.takeWhile_eq_self_iff.mpr whole
  · simp [List.takeWhile_append_of_pos whole]

theorem eq_of_within {name other path : String} (plain : '/' ∉ name.toList)
    (plain' : '/' ∉ other.toList) (within : Within ("/" ++ name) path)
    (within' : Within ("/" ++ other) path) : name = other := by
  rw [← String.toList_inj, ← takeWhile_of_within plain within, takeWhile_of_within plain' within']

/-- The bare prefix has the empty name, and a path below it the name behind the slash. -/
theorem actionName?_eq_some_iff {routePrefix path name : String} :
    actionName? routePrefix path = some name ↔
      path = routePrefix ∧ name = "" ∨
        ∃ rest, path = routePrefix ++ "/" ++ rest ∧ Text.trimTrailingSlashes rest = name := by
  simp only [actionName?]
  cases behind : Text.stripPrefix? routePrefix path with
  | none =>
    -- The prefix does not begin the path, so the path is neither.
    have apart (rest : String) : path ≠ routePrefix ++ rest := fun same => by
      rw [Text.stripPrefix?_eq_some_iff.mpr same] at behind
      cases behind
    have bare : path ≠ routePrefix := by simpa using apart ""
    simp [bare, String.append_assoc, apart]
  | some rest =>
    obtain rfl := Text.stripPrefix?_eq_some_iff.mp behind
    by_cases bare : rest = ""
    · have longer (more : String) : routePrefix ≠ routePrefix ++ "/" ++ more :=
        (append_slash_ne routePrefix more).symm
      simp only [bare, String.append_empty, if_true, Option.some_inj, true_and, longer, false_and,
        exists_false, or_false, eq_comm]
    · have more : routePrefix ++ rest ≠ routePrefix := fun same => bare (by simpa using same)
      simp only [if_neg bare, Option.map_eq_some_iff, Text.stripPrefix?_eq_some_iff, more,
        false_and, false_or, String.append_assoc, String.append_right_inj]

theorem isSome_actionName?_iff {routePrefix path : String} :
    (actionName? routePrefix path).isSome = true ↔ Within routePrefix path := by
  simp only [Option.isSome_iff_exists, actionName?_eq_some_iff, Within]
  constructor
  · rintro ⟨name, ⟨bare, -⟩ | ⟨rest, below, -⟩⟩
    · exact .inl bare
    · exact .inr ⟨rest, below⟩
  · rintro (bare | ⟨rest, below⟩)
    · exact ⟨"", .inl ⟨bare, rfl⟩⟩
    · exact ⟨_, .inr ⟨rest, below, rfl⟩⟩

theorem actionName?_eq_none_iff {routePrefix path : String} :
    actionName? routePrefix path = none ↔ ¬Within routePrefix path := by
  rw [← isSome_actionName?_iff, Option.not_isSome_iff_eq_none]

variable {d : Dispatcher} {r : ActionRequest}

/-- A request for another path is declined. -/
theorem handle_of_not_within (other : ¬Within d.routePrefix r.path) (w : World) :
    d.handle r w = (.declined, w) := by
  simp only [handle, actionName?_eq_none_iff.mpr other]

/-- A request for an action path is answered here. -/
theorem handle_of_within (asked : Within d.routePrefix r.path) (w : World) :
    ∃ result, (d.handle r w).1 = .completed result := by
  obtain ⟨name, named⟩ := Option.isSome_iff_exists.mp (isSome_actionName?_iff.mpr asked)
  exact ⟨(d.invoke name r w).1, by simp only [handle, named]⟩

end ActionServer.Dispatcher
