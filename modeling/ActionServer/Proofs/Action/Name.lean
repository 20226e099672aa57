import ActionServer.Proofs.Action.Construction
import ActionServer.Proofs.Text.Lowercase
import Mathlib.Data.List.Nodup

/-!
# Names of registered actions

The name under which an action is known is made character by character out of the configured one. It
is empty only if that is, which the check of a configuration rules out, and it has a slash or a dot
only where that has.

The rule for all spaces is the coarser one of the two: it can be applied to what the other rule gives
and comes to the same. A hyphen has no more case than a space has and is not passed over either, so
it does not matter which of the two stands beside a capital sigma.
-/

namespace ActionServer

namespace NameRule

theorem length_hyphenFirst (cs : List Char) : (hyphenFirst cs).length = cs.length := by
  induction cs with
  | nil => rfl
  | cons c rest ih =>
    simp only [hyphenFirst]
    split
    · rfl
    · simp [ih]

/-- A character other than a space and a hyphen is neither replaced nor put in. -/
theorem mem_hyphenFirst_iff {d : Char} (space : d ≠ ' ') (hyphen : d ≠ '-') (cs : List Char) :
    d ∈ hyphenFirst cs ↔ d ∈ cs := by
  induction cs with
  | nil => rfl
  | cons c rest ih =>
    simp only [hyphenFirst]
    split
    · rename_i replaced
      simp [replaced, space, hyphen]
    · simp [ih]

theorem mem_hyphenAll_iff {d : Char} (space : d ≠ ' ') (hyphen : d ≠ '-') (cs : List Char) :
    d ∈ hyphenAll cs ↔ d ∈ cs := by
  induction cs with
  | nil => rfl
  | cons c rest ih =>
    simp only [hyphenAll, List.map_cons, List.mem_cons] at ih ⊢
    rw [ih]
    split
    · rename_i replaced
      simp [replaced, space, hyphen]
    · rfl

theorem apply_eq_empty_iff (rule : NameRule) (name : String) : rule.apply name = "" ↔ name = "" := by
  have whole (cs : List Char) (same : cs.length = name.toList.length) :
      String.ofList cs = "" ↔ name = "" := by
    have empty (s : String) : s = "" ↔ s.toList.length = 0 := by simp
    rw [empty, empty, String.toList_ofList, same]
  cases rule with
  | firstSpace =>
    simp only [apply, Text.lowercase_eq_empty_iff]
    exact whole _ (length_hyphenFirst _)
  | allSpaces =>
    simp only [apply, Text.lowercase_eq_empty_iff]
    exact whole _ (by simp [hyphenAll])

theorem mem_apply_iff {d : Char} (sign : d.toNat < 0x41) (space : d ≠ ' ') (hyphen : d ≠ '-')
    (rule : NameRule) (name : String) : d ∈ (rule.apply name).toList ↔ d ∈ name.toList := by
  cases rule with
  | firstSpace =>
    simp only [apply, Text.mem_lowercase_iff sign, String.toList_ofList]
    exact mem_hyphenFirst_iff space hyphen _
  | allSpaces =>
    simp only [apply, Text.mem_lowercase_iff sign, String.toList_ofList]
    exact mem_hyphenAll_iff space hyphen _

/-! ### The two rules -/

theorem space_notMem_hyphenAll (cs : List Char) : ' ' ∉ hyphenAll cs := by
  simp only [hyphenAll, List.mem_map, not_exists, not_and]
  intro c member same
  split at same
  · cases same
  · rename_i other
    exact other same

/-- One space less, if there is one. -/
theorem count_hyphenFirst (cs : List Char) :
    (hyphenFirst cs).count ' ' + (if ' ' ∈ cs then 1 else 0) = cs.count ' ' := by
  induction cs with
  | nil => rfl
  | cons c rest ih =>
    simp only [hyphenFirst]
    split
    · rename_i space
      simp [space]
    · rename_i other
      simpa [other, Ne.symm other] using ih

theorem hyphenAll_hyphenFirst (cs : List Char) : hyphenAll (hyphenFirst cs) = hyphenAll cs := by
  induction cs with
  | nil => rfl
  | cons c rest ih =>
    simp only [hyphenFirst]
    split
    · rename_i space
      simp [hyphenAll, space]
    · simpa [hyphenAll] using ih

theorem hyphenAll_hyphenAll (cs : List Char) : hyphenAll (hyphenAll cs) = hyphenAll cs := by
  induction cs with
  | nil => rfl
  | cons c rest ih =>
    simp only [hyphenAll, List.map_cons] at ih ⊢
    rw [ih]
    split <;> simp_all

/-- A hyphen has the small form of a hyphen, and nothing but a space becomes a space. -/
theorem lowerAt_hyphen (before : List Char) (c : Char) (after : List Char) :
    Text.lowerAt before (if c = ' ' then '-' else c) after =
      (Text.lowerAt before c after).map fun d => if d = ' ' then '-' else d := by
  by_cases space : c = ' '
  · subst space
    rw [if_pos rfl, Text.lowerAt_of_isSmall (by decide +kernel),
      Text.lowerAt_of_isSmall (by decide +kernel), List.map_singleton, if_pos rfl]
  · have others : ' ' ∉ Text.lowerAt before c after := by
      rw [← List.count_eq_zero, Text.count_lowerAt (by decide), if_neg space]
    have stays : ∀ d ∈ Text.lowerAt before c after, (if d = ' ' then '-' else d) = d :=
      fun d member => if_neg fun same : d = ' ' => others (same ▸ member)
    rw [if_neg space, List.map_congr_left stays, List.map_id']

/-- Hyphens may be put in before or after lower-casing. -/
theorem lowercase_hyphenAll (name : String) :
    Text.lowercase (String.ofList (hyphenAll name.toList)) =
      String.ofList (hyphenAll (Text.lowercase name).toList) := by
  have alike (test : Char → Bool) (same : test '-' = test ' ') (c : Char) :
      test (if c = ' ' then '-' else c) = test c := by
    split
    · rename_i space
      rw [space, same]
    · rfl
  -- A hyphen beside a sigma is seen as a space would be.
  have commutes := Text.lowerChars_map (alike Text.isCaseIgnorable (by decide +kernel))
    (alike Text.isCased (by decide +kernel)) lowerAt_hyphen [] name.toList
  rw [Text.lowercase, String.toList_ofList, Text.lowercase, String.toList_ofList]
  exact congrArg String.ofList commutes

theorem space_notMem_allSpaces (name : String) : ' ' ∉ (allSpaces.apply name).toList := by
  rw [apply, Text.mem_lowercase_iff (by decide), String.toList_ofList]
  exact space_notMem_hyphenAll name.toList

theorem count_firstSpace (name : String) :
    (firstSpace.apply name).toList.count ' ' + (if ' ' ∈ name.toList then 1 else 0) =
      name.toList.count ' ' := by
  rw [apply, Text.count_lowercase (by decide), String.toList_ofList]
  exact count_hyphenFirst name.toList

/-- What is known under a rule gets the name that it would have got from the start. -/
theorem allSpaces_apply (rule : NameRule) (name : String) :
    allSpaces.apply (rule.apply name) = allSpaces.apply name := by
  have later (cs : List Char) (same : hyphenAll cs = hyphenAll name.toList) :
      allSpaces.apply (Text.lowercase (String.ofList cs)) = allSpaces.apply name := by
    simp only [apply, lowercase_hyphenAll, Text.lowercase_lowercase]
    rw [← lowercase_hyphenAll, ← lowercase_hyphenAll, String.toList_ofList, same]
  cases rule with
  | firstSpace => exact later _ (hyphenAll_hyphenFirst _)
  | allSpaces => exact later _ (hyphenAll_hyphenAll _)

end NameRule

theorem ActionConfig.name_ne_empty {c : ActionConfig} (fit : c.check = .ok ()) : c.name ≠ "" := by
  rintro empty
  simp [check, empty] at fit

namespace Registry

theorem keyOf_ne_empty {c : ActionConfig} (fit : c.check = .ok ()) (settings : RegistrySettings) :
    keyOf settings c ≠ "" := by
  intro empty
  exact c.name_ne_empty fit ((settings.nameRule.apply_eq_empty_iff c.name).mp empty)

theorem slash_mem_keyOf_iff (settings : RegistrySettings) (c : ActionConfig) :
    '/' ∈ (keyOf settings c).toList ↔ '/' ∈ c.name.toList :=
  NameRule.mem_apply_iff (by decide) (by decide) (by decide) settings.nameRule c.name

/-- **The two rules for names are compatible.** The rule for all spaces leaves no space and nothing
to do for itself; the rule for the first space takes away one space if there is one; and the former
does not see whether the latter was applied before. So names that the rule for the first space does
not tell apart are not told apart by the other one either, and a list without namesakes under that
has none under the rule for the first space: the registry takes it up as well. -/
theorem rules_compatible :
    (∀ name : String,
      ' ' ∉ (NameRule.allSpaces.apply name).toList ∧
      NameRule.allSpaces.apply (NameRule.allSpaces.apply name) = NameRule.allSpaces.apply name ∧
      (NameRule.firstSpace.apply name).toList.count ' ' + (if ' ' ∈ name.toList then 1 else 0) =
        name.toList.count ' ' ∧
      NameRule.allSpaces.apply (NameRule.firstSpace.apply name) = NameRule.allSpaces.apply name) ∧
    (∀ name other : String, NameRule.firstSpace.apply name = NameRule.firstSpace.apply other →
      NameRule.allSpaces.apply name = NameRule.allSpaces.apply other) ∧
    ∀ (settings : RegistrySettings) (configs : List ActionConfig),
      (configs.map (keyOf { settings with nameRule := .allSpaces })).Nodup →
        (configs.map (keyOf { settings with nameRule := .firstSpace })).Nodup ∧
        ∀ extension s g t,
          build { settings with nameRule := .allSpaces } extension configs s = .ok (g, t) →
          ∃ g' t', build { settings with nameRule := .firstSpace } extension configs s =
            .ok (g', t') := by
  have coarser (name : String) :
      NameRule.allSpaces.apply (NameRule.firstSpace.apply name) = NameRule.allSpaces.apply name :=
    NameRule.allSpaces_apply .firstSpace name
  refine ⟨fun name => ⟨NameRule.space_notMem_allSpaces name, NameRule.allSpaces_apply .allSpaces name,
    NameRule.count_firstSpace name, coarser name⟩, fun name other same => ?_,
    fun settings configs distinct => ?_⟩
  · rw [← coarser name, same, coarser other]
  · have image : (configs.map (keyOf { settings with nameRule := .firstSpace })).map
        NameRule.allSpaces.apply = configs.map (keyOf { settings with nameRule := .allSpaces }) := by
      rw [List.map_map]
      exact List.map_congr_left fun c _ => coarser c.name
    have finer : (configs.map (keyOf { settings with nameRule := .firstSpace })).Nodup :=
      List.Nodup.of_map _ (image ▸ distinct)
    refine ⟨finer, fun extension s g t built => ?_⟩
    obtain ⟨fit, -, opens⟩ := exists_build_iff.mp ⟨g, t, built⟩
    exact exists_build_iff.mpr ⟨fit, finer, opens⟩

theorem rules_compatible_mail :
    NameRule.allSpaces.apply "Send Mail now" = NameRule.allSpaces.apply "SEND mail now" ∧
    ∃ g t, build ⟨"action", "/srv/actions", .firstSpace⟩ "sh"
      [.named "Send Mail now", .named "Read mail now"] (Stores.new (fun _ _ => "x") .memory {}) =
        .ok (g, t) := by
  obtain ⟨-, coarser, finer⟩ := rules_compatible
  let settings : RegistrySettings := ⟨"action", "/srv/actions", .firstSpace⟩
  let configs : List ActionConfig := [.named "Send Mail now", .named "Read mail now"]
  have distinct : (configs.map (keyOf { settings with nameRule := .allSpaces })).Nodup := by
    decide +kernel
  have fit : ∀ c ∈ configs, c.check = .ok () := by
    have send : (ActionConfig.named "Send Mail now").check = .ok () :=
      eq_ok_of_toOption (by decide +kernel)
    have read : (ActionConfig.named "Read mail now").check = .ok () :=
      eq_ok_of_toOption (by decide +kernel)
    simp [configs, send, read]
  let s := Stores.new (fun _ _ => "x") .memory {}
  obtain ⟨g, t, built⟩ : ∃ g t, build { settings with nameRule := .allSpaces } "sh" configs s =
      .ok (g, t) :=
    exists_build_iff.mpr ⟨fit, distinct, fun _ _ name _ => ⟨_, rfl⟩⟩
  exact ⟨coarser _ _ (by decide +kernel), (finer settings configs distinct).2 "sh" s g t built⟩

end Registry

end ActionServer
