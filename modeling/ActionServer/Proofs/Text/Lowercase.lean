import ActionServer.Text.Lowercase
import Mathlib.Data.List.Count
import Mathlib.Data.Nat.ModEq

/-!
# What lower-casing leaves alone

Lower-casing writes at least one character for each that it reads, so only the empty text becomes
empty. Signs and digits, which stand before the letters in ASCII, are neither changed nor made out of
other characters; so a text has as many spaces, slashes or hyphens as before.

No small letter is a capital again, so a text in small letters stays as it is. A capital sigma looks
at its neighbours, but only at their case: characters may be exchanged that have the same.
-/

namespace ActionServer.Text

/-! ### One character after the other -/

theorem lowerChars_eq_append (before out cs : List Char) :
    lowerChars before out cs = out.reverse ++ lowerChars before [] cs := by
  induction cs generalizing before out with
  | nil => simp [lowerChars]
  | cons c rest ih =>
    simp only [lowerChars]
    rw [ih, ih (c :: before) ((lowerAt before c rest).reverse ++ [])]
    simp

theorem lowerChars_cons (before : List Char) (c : Char) (rest : List Char) :
    lowerChars before [] (c :: rest) = lowerAt before c rest ++ lowerChars (c :: before) [] rest := by
  rw [lowerChars, lowerChars_eq_append]
  simp

theorem lowerAt_ne_nil (before : List Char) (c : Char) (after : List Char) :
    lowerAt before c after ≠ [] := by
  simp only [lowerAt]
  split
  · simp
  · split <;> simp

theorem lowercase_eq_empty_iff {s : String} : lowercase s = "" ↔ s = "" := by
  constructor
  · intro empty
    have none : lowerChars [] [] s.toList = [] := by
      simpa [lowercase, ← String.toList_inj] using empty
    cases chars : s.toList with
    | nil => simpa using chars
    | cons c rest =>
      rw [chars, lowerChars_cons] at none
      exact absurd (List.append_eq_nil_iff.mp none).1 (lowerAt_ne_nil [] c rest)
  · rintro rfl
    rfl

/-! ### Signs and digits -/

/-- The small letters of a run are characters, and they stand behind the signs and digits. -/
private theorem small_of_mem_capitalRuns : ∀ run ∈ capitalRuns,
    0x41 ≤ run.first + run.offset ∧
      (run.last + run.offset < 0xD800 ∨
        0xE000 ≤ run.first + run.offset ∧ run.last + run.offset < 0x110000) := by
  decide +kernel

private theorem toNat_ofNat_of_isValidChar {n : Nat} (valid : n.isValidChar) :
    (Char.ofNat n).toNat = n := by
  rw [Char.ofNat, dif_pos valid]
  rfl

/-- Of the runs only that of the letters A to Z lies in ASCII. -/
private theorem ascii_of_mem_capitalRuns : ∀ run ∈ capitalRuns,
    0x80 ≤ run.first ∨ run.first = 0x41 ∧ run.last = 0x5A ∧ run.stride = 1 ∧ run.offset = 32 := by
  decide +kernel

private theorem toNat_toLower (c : Char) :
    c.toLower.toNat = if 0x41 ≤ c.toNat ∧ c.toNat ≤ 0x5A then c.toNat + 32 else c.toNat := by
  have capital : c.val ≥ 'A'.val ∧ c.val ≤ 'Z'.val ↔ 0x41 ≤ c.toNat ∧ c.toNat ≤ 0x5A :=
    and_congr UInt32.le_iff_toNat_le UInt32.le_iff_toNat_le
  delta Char.toLower
  split
  · rename_i high
    rw [if_pos (capital.mp high)]
    have bounds := capital.mp high
    change (c.val + ('a'.val - 'A'.val)).toNat = c.toNat + 32
    rw [UInt32.toNat_add]
    change (c.toNat + 32) % 4294967296 = c.toNat + 32
    omega
  · rename_i low
    rw [if_neg fun bounds => low (capital.mpr bounds)]

/-- A character stays, or it is moved by the run that has it. -/
private theorem smallLetter_moves (c : Char) :
    smallLetter c = c ∧ (∀ run ∈ capitalRuns, run.holds c.toNat = false) ∨
      ∃ run ∈ capitalRuns, run.holds c.toNat = true ∧
        (smallLetter c).toNat = (c.toNat + run.offset).toNat := by
  by_cases ascii : c.toNat < 0x80
  · have lower : smallLetter c = c.toLower := by rw [smallLetter, if_pos ascii]
    by_cases capital : 0x41 ≤ c.toNat ∧ c.toNat ≤ 0x5A
    · refine .inr ⟨⟨0x41, 0x5A, 1, 32⟩, List.mem_cons_self, ?_, ?_⟩
      · simp [CapitalRun.holds, capital, Nat.mod_one]
      · rw [lower, toNat_toLower, if_pos capital]
        rfl
    · refine .inl ⟨?_, fun run member => ?_⟩
      · rw [lower, ← Char.toNat_inj, toNat_toLower, if_neg capital]
      · refine Bool.eq_false_iff.mpr fun held => ?_
        simp only [CapitalRun.holds, Bool.and_eq_true, decide_eq_true_eq] at held
        rcases ascii_of_mem_capitalRuns run member with high | ⟨first, last, -⟩ <;> omega
  · rw [smallLetter, if_neg ascii]
    split
    · rename_i run found
      have member := List.mem_of_find?_eq_some found
      have held : run.holds c.toNat = true := by simpa using List.find?_some found
      refine .inr ⟨run, member, held, toNat_ofNat_of_isValidChar ?_⟩
      simp only [CapitalRun.holds, Bool.and_eq_true, decide_eq_true_eq] at held
      obtain ⟨behind, valid⟩ := small_of_mem_capitalRuns run member
      simp only [Nat.isValidChar]
      omega
    · rename_i missing
      exact .inl ⟨rfl, fun run member => by simpa using List.find?_eq_none.mp missing run member⟩

/-- A sign or digit is no small letter, and has none. -/
theorem smallLetter_eq_iff {c d : Char} (sign : d.toNat < 0x41) : smallLetter c = d ↔ c = d := by
  rcases smallLetter_moves c with ⟨stays, -⟩ | ⟨run, member, held, moved⟩
  · rw [stays]
  · obtain ⟨behind, -⟩ := small_of_mem_capitalRuns run member
    simp only [CapitalRun.holds, Bool.and_eq_true, decide_eq_true_eq] at held
    have letter : 0x41 ≤ run.first := by
      rcases ascii_of_mem_capitalRuns run member with high | ⟨first, -⟩ <;> omega
    constructor <;> rintro rfl <;> omega

theorem count_lowerAt {d : Char} (sign : d.toNat < 0x41) (before : List Char) (c : Char)
    (after : List Char) : (lowerAt before c after).count d = if c = d then 1 else 0 := by
  have apart {e : Char} (letter : 0x41 ≤ e.toNat) : e ≠ d := by
    rintro rfl
    omega
  simp only [lowerAt]
  split
  · rename_i sigma
    subst sigma
    rw [if_neg (apart (by decide))]
    split
    · simp [apart (e := 'ς') (by decide)]
    · simp [apart (e := 'σ') (by decide)]
  split
  · rename_i dotted
    subst dotted
    rw [if_neg (apart (by decide))]
    simp [apart (e := 'i') (by decide), apart (e := '\u0307') (by decide)]
  · simp [List.count_singleton, smallLetter_eq_iff sign]

/-- A text has as many of a sign or digit as before. -/
theorem count_lowercase {d : Char} (sign : d.toNat < 0x41) (s : String) :
    (lowercase s).toList.count d = s.toList.count d := by
  have counted (before cs : List Char) : (lowerChars before [] cs).count d = cs.count d := by
    induction cs generalizing before with
    | nil => rfl
    | cons c rest ih =>
      rw [lowerChars_cons, List.count_append, count_lowerAt sign, ih, List.count_cons]
      simp [Nat.add_comm]
  simpa [lowercase] using counted [] s.toList

theorem mem_lowercase_iff {d : Char} (sign : d.toNat < 0x41) (s : String) :
    d ∈ (lowercase s).toList ↔ d ∈ s.toList := by
  rw [← List.count_pos_iff, ← List.count_pos_iff, count_lowercase sign]

/-! ### Small letters stay -/

/-- Whether the small letters of a run keep clear of the capitals of another one: they stand before
or behind them, or in the gaps between them. -/
private def CapitalRun.keepsClear (run other : CapitalRun) : Bool :=
  let first := (run.first + run.offset).toNat
  let last := (run.last + run.offset).toNat
  last.blt other.first || other.last.blt first ||
    (run.last.beq run.first || (run.stride % other.stride).beq 0) &&
      !(first % other.stride).beq (other.first % other.stride)

private theorem all_keepClear :
    (capitalRuns.all fun run => capitalRuns.all run.keepsClear) = true := by
  decide +kernel

/-- The small letter of a capital is not among the capitals of a run that is kept clear of. -/
private theorem not_holds_of_keepsClear {run other : CapitalRun} {n : Nat}
    (letters : 0 ≤ run.first + run.offset) (clear : run.keepsClear other = true)
    (held : run.holds n = true) : other.holds (n + run.offset).toNat = false := by
  simp only [CapitalRun.holds, Bool.and_eq_true, decide_eq_true_eq, beq_iff_eq] at held
  obtain ⟨⟨low, high⟩, step⟩ := held
  simp only [CapitalRun.keepsClear, Bool.or_eq_true, Bool.and_eq_true, Nat.blt_eq, Nat.beq_eq,
    Bool.not_eq_true', ← Bool.not_eq_true] at clear
  refine Bool.eq_false_iff.mpr fun again => ?_
  simp only [CapitalRun.holds, Bool.and_eq_true, decide_eq_true_eq, beq_iff_eq] at again
  obtain ⟨⟨low', high'⟩, step'⟩ := again
  have place : other.first ≡ (n + run.offset).toNat [MOD other.stride] :=
    (Nat.modEq_iff_dvd' low').mpr (Nat.dvd_of_mod_eq_zero step')
  rcases clear with (before | behind) | ⟨single | divides, gap⟩
  · omega
  · omega
  · obtain rfl : n = run.first := by omega
    exact gap place.symm
  · -- The run goes in steps of the other one, so it stays in its gaps.
    have moved : (n + run.offset).toNat = (run.first + run.offset).toNat + (n - run.first) := by
      omega
    have whole : n - run.first ≡ 0 [MOD other.stride] := Nat.modEq_zero_iff_dvd.mpr
      ((Nat.dvd_of_mod_eq_zero divides).trans (Nat.dvd_of_mod_eq_zero step))
    rw [moved] at place
    exact gap (place.trans (whole.add_left _)).symm

theorem smallLetter_smallLetter (c : Char) : smallLetter (smallLetter c) = smallLetter c := by
  rcases smallLetter_moves c with ⟨stays, -⟩ | ⟨run, member, held, moved⟩
  · rw [stays, stays]
  rcases smallLetter_moves (smallLetter c) with ⟨stays, -⟩ | ⟨other, member', held', -⟩
  · exact stays
  · have clear := List.all_eq_true.mp (List.all_eq_true.mp all_keepClear run member) other member'
    obtain ⟨behind, -⟩ := small_of_mem_capitalRuns run member
    rw [moved, not_holds_of_keepsClear (by omega) clear held] at held'
    cases held'

/-- The dotted capital I is nobody's small letter. -/
private theorem dotted_of_mem_capitalRuns : ∀ run ∈ capitalRuns,
    run.last + run.offset < 0x130 ∨ 0x130 < run.first + run.offset := by
  decide +kernel

private theorem smallLetter_ne_dotted {c : Char} (other : c ≠ 'İ') : smallLetter c ≠ 'İ' := by
  rcases smallLetter_moves c with ⟨stays, -⟩ | ⟨run, member, held, moved⟩
  · rwa [stays]
  · intro dotted
    have code : (c.toNat + run.offset).toNat = 0x130 := by rw [← moved, dotted]; rfl
    simp only [CapitalRun.holds, Bool.and_eq_true, decide_eq_true_eq] at held
    rcases dotted_of_mem_capitalRuns run member with below | above <;> omega

/-- A character that lower-casing leaves alone wherever it stands. -/
def IsSmall (c : Char) : Prop :=
  c ≠ 'Σ' ∧ c ≠ 'İ' ∧ smallLetter c = c

instance (c : Char) : Decidable (IsSmall c) :=
  inferInstanceAs (Decidable (_ ∧ _))

theorem isSmall_of_mem_lowerAt {before : List Char} {c d : Char} {after : List Char}
    (written : d ∈ lowerAt before c after) : IsSmall d := by
  simp only [lowerAt] at written
  split at written
  · rw [List.mem_singleton] at written
    subst written
    split <;> decide +kernel
  split at written
  · simp only [List.mem_cons, List.not_mem_nil, or_false] at written
    rcases written with rfl | rfl <;> decide +kernel
  · rename_i sigma dotted
    rw [List.mem_singleton] at written
    subst written
    refine ⟨fun capital => ?_, smallLetter_ne_dotted dotted, smallLetter_smallLetter c⟩
    -- Its small letter would be itself.
    have again := smallLetter_smallLetter c
    rw [capital] at again
    exact absurd again (by decide +kernel)

theorem lowerAt_of_isSmall {c : Char} (small : IsSmall c) (before after : List Char) :
    lowerAt before c after = [c] := by
  rw [lowerAt, if_neg small.1, if_neg small.2.1, small.2.2]

theorem lowerChars_of_isSmall {cs : List Char} (small : ∀ c ∈ cs, IsSmall c) (before : List Char) :
    lowerChars before [] cs = cs := by
  induction cs generalizing before with
  | nil => rfl
  | cons c rest ih =>
    rw [lowerChars_cons, lowerAt_of_isSmall (small c List.mem_cons_self),
      ih fun d member => small d (List.mem_cons_of_mem _ member)]
    rfl

theorem isSmall_of_mem_lowerChars {before cs : List Char} {d : Char}
    (written : d ∈ lowerChars before [] cs) : IsSmall d := by
  induction cs generalizing before with
  | nil => cases written
  | cons c rest ih =>
    rw [lowerChars_cons] at written
    rcases List.mem_append.mp written with first | later
    · exact isSmall_of_mem_lowerAt first
    · exact ih later

/-- A text in small letters stays as it is. -/
theorem lowercase_lowercase (s : String) : lowercase (lowercase s) = lowercase s := by
  have small : ∀ c ∈ (lowercase s).toList, IsSmall c := fun c member =>
    isSmall_of_mem_lowerChars (by simpa [lowercase] using member)
  rw [lowercase, lowerChars_of_isSmall small, String.ofList_toList]

/-! ### Exchanging characters -/

section

variable {f : Char → Char} (passed : ∀ c, isCaseIgnorable (f c) = isCaseIgnorable c)
  (cased : ∀ c, isCased (f c) = isCased c)

include passed cased

theorem meetsCased_map (cs : List Char) : meetsCased (cs.map f) = meetsCased cs := by
  have same : isCaseIgnorable ∘ f = isCaseIgnorable := funext passed
  rw [meetsCased, List.dropWhile_map, same, meetsCased]
  cases cs.dropWhile isCaseIgnorable with
  | nil => rfl
  | cons c rest => exact cased c

/-- Characters may be exchanged before or after, if that does not change what has case. -/
theorem lowerChars_map
    (one : ∀ before c after, lowerAt before (f c) after = (lowerAt before c after).map f)
    (before cs : List Char) :
    lowerChars (before.map f) [] (cs.map f) = (lowerChars before [] cs).map f := by
  have around (before : List Char) (c : Char) (after : List Char) :
      lowerAt (before.map f) c (after.map f) = lowerAt before c after := by
    simp only [lowerAt, meetsCased_map passed cased]
  induction cs generalizing before with
  | nil => rfl
  | cons c rest ih =>
    rw [List.map_cons, lowerChars_cons, around, one, ← List.map_cons, ih, lowerChars_cons,
      List.map_append]

end

end ActionServer.Text
