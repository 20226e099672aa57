import ActionServer.Proofs.Outcome
import ActionServer.Server.Settings

/-!
# What accepted settings are

The settings that are accepted, read back to the variables that they come from.
-/

namespace ActionServer.ServerSettings

variable {lookup : String → Option String}

theorem parts_of_accepted {settings : ServerSettings} (accepted : ofVariables lookup = .ok settings) :
    origins lookup = .ok settings.corsOrigins ∧ actionSettings lookup = .ok settings.actions := by
  obtain ⟨port, -, accepted⟩ := eq_ok_of_bind accepted
  obtain ⟨corsOrigins, listed, accepted⟩ := eq_ok_of_bind accepted
  obtain ⟨requestTimeoutSecs, -, accepted⟩ := eq_ok_of_bind accepted
  obtain ⟨shutdownTimeoutSecs, -, accepted⟩ := eq_ok_of_bind accepted
  obtain ⟨actions, chosen, accepted⟩ := eq_ok_of_bind accepted
  cases accepted
  exact ⟨listed, chosen⟩

/-- The origins are those of the list, which is checked but not changed. -/
theorem eq_originsOf {found : List String} (read : origins lookup = .ok found) :
    found = originsOf ((given lookup "CORS_ORIGINS").getD "http://localhost:5173") := by
  simp only [origins] at read
  split at read
  · cases read
  · exact (Except.ok.inj read).symm

/-- The name and the directories of accepted settings. -/
theorem actionSettings_eq {s : ActionSettings} (chosen : actionSettings lookup = .ok s) :
    isRouteSegment s.resourceName = true ∧
      s.resourceName = (given lookup "RESOURCE_NAME").getD "action" ∧
      s.actionsDir = (given lookup "ACTIONS_DIR").getD "./resources/action" ∧
      s.libDir = (given lookup "ACTION_LIB_DIR").getD (Path.join s.actionsDir "lib") := by
  simp only [actionSettings] at chosen
  split at chosen
  · cases chosen
  · rename_i segment
    obtain ⟨-, -, chosen⟩ := eq_ok_of_bind chosen
    obtain ⟨scriptTimeoutSecs, -, chosen⟩ := eq_ok_of_bind chosen
    obtain ⟨nameRule, -, chosen⟩ := eq_ok_of_bind chosen
    cases chosen
    exact ⟨by simpa using segment, rfl, rfl, rfl⟩

/-- A variable that is set is not empty. -/
theorem getD_given_ne_empty {name default : String} (present : default ≠ "") :
    (given lookup name).getD default ≠ "" := by
  cases set : given lookup name with
  | none => exact present
  | some value =>
    rintro rfl
    have blank := (Option.filter_eq_some_iff.mp set).2
    exact absurd blank (by decide)

theorem actionsDir_ne_empty {s : ActionSettings} (chosen : actionSettings lookup = .ok s) :
    s.actionsDir ≠ "" := by
  obtain ⟨-, -, dir, -⟩ := actionSettings_eq chosen
  exact dir ▸ getD_given_ne_empty (by decide)

theorem resourceName_ne_empty {s : ActionSettings} (chosen : actionSettings lookup = .ok s) :
    s.resourceName ≠ "" := by
  obtain ⟨-, name, -⟩ := actionSettings_eq chosen
  exact name ▸ getD_given_ne_empty (by decide)

/-- A segment of a route is not one of the server's own paths and has none of the characters that
end a segment or open a parameter. -/
theorem plain_of_isRouteSegment {name : String} (segment : isRouteSegment name = true) :
    name ≠ "actions" ∧ name ≠ "health" ∧ '/' ∉ name.toList ∧ '\x7b' ∉ name.toList := by
  simp only [isRouteSegment, Bool.and_eq_true, Bool.not_eq_true', reservedNames,
    List.contains_eq_mem, List.mem_cons, List.not_mem_nil, or_false, decide_eq_false_iff_not, not_or,
    List.all_eq_true] at segment
  obtain ⟨⟨notActions, notHealth⟩, allowed⟩ := segment
  refine ⟨notActions, notHealth, fun slash => ?_, fun brace => ?_⟩
  · exact absurd (allowed _ slash) (by decide)
  · exact absurd (allowed _ brace) (by decide)

end ActionServer.ServerSettings
