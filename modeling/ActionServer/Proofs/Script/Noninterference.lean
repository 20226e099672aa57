import ActionServer.Proofs.Document.Order
import ActionServer.Proofs.Domain.View
import ActionServer.Proofs.Script.Interleaving

/-!
# Hidden data has no influence

The same commands on two domains that are the same but for what a key holds in the view. No command
decides by the view what it does; only the answer to `data` shows it. So until the key is hidden the
runs differ at most in these answers, and hiding the key takes the difference away for good: what
comes later is the same in both.
-/

namespace ActionServer

namespace Domain

/-- The same but for what the views, both in order, hold under a key. -/
structure SameBut (k : String) (one other : Domain) : Prop where
  rest : other = { one with data := other.data }
  view : ∀ j, j ≠ k → one.data.get? j = other.data.get? j
  ordered : one.data.Ordered ∧ other.data.Ordered

variable {k : String} {one other : Domain}

/-- Without the key nothing is left to differ. -/
theorem SameBut.hide_eq (differ : one.SameBut k other) : one.hide k = other.hide k := by
  obtain ⟨rest, view, first, second⟩ := differ
  have erased : one.data.erase k = other.data.erase k := by
    refine (first.erase k).ext (second.erase k) fun j => ?_
    rw [Document.get?_erase, Document.get?_erase]
    split
    · rfl
    · rename_i different
      exact view j (Ne.symm different)
  rw [rest]
  simp only [hide, erased]
  rfl

/-- The step: whatever the command, it does the same to the world, its answer is the same unless it
asks for the data, and the domains differ nowhere else than before. -/
theorem SameBut.apply (differ : one.SameBut k other) (command : Command) (w : World) :
    (one.apply command w).2.1.SameBut k (other.apply command w).2.1 ∧
      (one.apply command w).2.2 = (other.apply command w).2.2 ∧
      (command ≠ .data → (one.apply command w).1 = (other.apply command w).1) := by
  obtain ⟨rest, view, first, second⟩ := differ
  generalize other.data = shown at rest view second
  subst rest
  -- Three commands write the view, both views alike; the others leave them alone.
  cases command with
  | hide property =>
    refine ⟨⟨rfl, fun j different => ?_, first.erase _, second.erase _⟩, rfl, fun _ => rfl⟩
    simp only [Domain.apply, hide, Document.get?_erase, view j different]
  | set key value =>
    refine ⟨⟨rfl, fun j different => ?_, first.insert _ _, second.insert _ _⟩, rfl, fun _ => rfl⟩
    simp only [Domain.apply, set, Document.get?_insert, view j different]
  | merge incoming =>
    refine ⟨⟨rfl, fun j different => ?_, first.insertAll _, second.insertAll _⟩, rfl, fun _ => rfl⟩
    simp only [Domain.apply, get?_merge, view j different]
    rfl
  | data => exact ⟨⟨rfl, view, first, second⟩, rfl, fun other => absurd rfl other⟩
  | error | hasErrors | store | fetch | require | call | done =>
    exact ⟨⟨rfl, view, first, second⟩, rfl, fun _ => rfl⟩

/-- The run: so it is with any commands, one after the other. -/
theorem SameBut.applyAll (differ : one.SameBut k other) (commands : List Command) (w : World) :
    (one.applyAll w commands).2.1.SameBut k (other.applyAll w commands).2.1 ∧
      (one.applyAll w commands).2.2 = (other.applyAll w commands).2.2 ∧
      ∀ (i : Nat) (command : Command), commands[i]? = some command → command ≠ .data →
        (one.applyAll w commands).1[i]? = (other.applyAll w commands).1[i]? := by
  -- The worlds stay one, so the next command begins in the same world on both sides.
  induction commands generalizing one other w with
  | nil => exact ⟨differ, rfl, fun _ _ _ _ => rfl⟩
  | cons command rest ih =>
    obtain ⟨next, world, step⟩ := differ.apply command w
    obtain ⟨final, worlds, steps⟩ := ih next (one.apply command w).2.2
    simp only [Domain.applyAll, ← world]
    refine ⟨final, worlds, fun i command found asks => ?_⟩
    cases i with
    | zero =>
      obtain rfl := Option.some.inj found
      simpa using step asks
    | succ i => exact steps i command found asks

/-- Where the key is hidden the runs become one. -/
theorem SameBut.applyAll_hide (differ : one.SameBut k other) (later : List Command) (w : World) :
    one.applyAll w (.hide k :: later) = other.applyAll w (.hide k :: later) := by
  simp only [Domain.applyAll, Domain.apply, differ.hide_eq]

theorem applyAll_append (d : Domain) (w : World) (first second : List Command) :
    d.applyAll w (first ++ second) =
      let (steps, e, v) := d.applyAll w first
      (steps ++ (e.applyAll v second).1, (e.applyAll v second).2) := by
  induction first generalizing d w with
  | nil => rfl
  | cons command rest ih =>
    simp only [List.cons_append, applyAll, ih]

theorem length_applyAll (d : Domain) (w : World) (commands : List Command) :
    (d.applyAll w commands).1.length = commands.length := by
  induction commands generalizing d w with
  | nil => rfl
  | cons command rest ih => rw [applyAll, List.length_cons, ih, List.length_cons]

/-- The commands alone decide whether and how a run comes to `done`. -/
theorem completion?_applyAll (d e : Domain) (w v : World) (commands : List Command) :
    Step.completion? (d.applyAll w commands).1 = Step.completion? (e.applyAll v commands).1 := by
  induction commands generalizing d e w v with
  | nil => rfl
  | cons command rest ih =>
    cases command with
    | done error => rfl
    | error | hide | set | merge | hasErrors | data | store | fetch | require | call =>
      simp only [applyAll, apply, Step.completion?]
      exact ih _ _ _ _

/-- **Hidden data has no influence.** Commands that hide a key, before any `done`, are carried out on
two domains that differ in nothing but what the view holds under that key. Then every answer is the
same, but for those with the data that come before the key is first hidden; at every point the same
has been done to the collections; and errors, view and completion are the same in the end. -/
theorem applyAll_eq_of_hides {commands : List Command} (differ : one.SameBut k other)
    (hides : Command.hide k ∈ Command.carriedOut commands) (w : World) :
    ∃ before later, Command.carriedOut commands = before ++ .hide k :: later ∧
      Command.hide k ∉ before ∧
      let mine := one.applyAll w (Command.carriedOut commands)
      let theirs := other.applyAll w (Command.carriedOut commands)
      mine.1.drop before.length = theirs.1.drop before.length ∧
      (∀ (i : Nat) (command : Command), before[i]? = some command → command ≠ .data →
        mine.1[i]? = theirs.1[i]?) ∧
      (∀ n, (one.applyAll w ((Command.carriedOut commands).take n)).2.2 =
        (other.applyAll w ((Command.carriedOut commands).take n)).2.2) ∧
      mine.2.1 = theirs.2.1 ∧
      Step.completion? mine.1 = Step.completion? theirs.1 := by
  obtain ⟨before, later, parts, first⟩ := List.eq_append_cons_of_mem hides
  refine ⟨before, later, parts, first, ?_⟩
  obtain ⟨reached, world, steps⟩ := differ.applyAll before w
  -- From the hiding on there is one run.
  have joined := reached.applyAll_hide later (one.applyAll w before).2.2
  rw [world] at joined
  have mine := one.length_applyAll w before
  have theirs := other.length_applyAll w before
  refine ⟨?_, fun i command found asks => ?_, fun n => (differ.applyAll _ w).2.1, ?_,
    completion?_applyAll _ _ _ _ _⟩
  · rw [parts, applyAll_append, applyAll_append]
    simp only [List.drop_left' mine, List.drop_left' theirs, world, joined]
  · obtain ⟨inside, -⟩ := List.getElem?_eq_some_iff.mp found
    rw [parts, applyAll_append, applyAll_append]
    simp only [List.getElem?_append_left (mine.symm ▸ inside : i < (one.applyAll w before).1.length),
      List.getElem?_append_left (theirs.symm ▸ inside : i < (other.applyAll w before).1.length)]
    exact steps i command found asks
  · rw [parts, applyAll_append, applyAll_append]
    simp only [world, joined]

/-- A secret in the view of one run is shown by its first answer, and by nothing after it has been
hidden, though it is merged in again. -/
theorem applyAll_eq_of_hides_secret :
    let other := Domain.new "keep" ⟨[("open", .bool true)]⟩ ⟨"keep", some "mail"⟩ .disabled none
    let one := { other with data := other.data.insert "secret" (.string "s") }
    let w := World.ofStores (.new (fun _ _ => "x") .memory {})
    let commands : List Command := [.data, .hide "secret", .merge ⟨[("secret", .null)]⟩, .store ∅,
      .data, .done none, .data]
    let shown := fun (d : Domain) => (d.applyAll w (Command.carriedOut commands)).1.map
      fun step => step.toJson.text
    (shown one).drop 1 = (shown other).drop 1 ∧ shown one ≠ shown other := by
  intro other one w commands shown
  have differ : one.SameBut "secret" other := by
    refine ⟨rfl, fun j different => ?_, by decide +kernel, by decide +kernel⟩
    exact (Document.get?_insert _ _ _ _).trans (if_neg (Ne.symm different))
  have hides : Command.hide "secret" ∈ Command.carriedOut commands :=
    List.mem_cons_of_mem _ List.mem_cons_self
  obtain ⟨before, later, parts, first, rest, -⟩ := applyAll_eq_of_hides differ hides w
  -- One command comes before the key is hidden.
  have one_before : before.length = 1 := by
    match before, parts, first with
    | [_], _, _ => rfl
    | _ :: _ :: _, parts, first =>
      obtain ⟨-, rfl, -⟩ := List.cons.inj parts |>.imp_right List.cons.inj
      simp at first
  rw [one_before] at rest
  exact ⟨by simpa only [shown, ← List.map_drop] using congrArg (List.map _) rest,
    by decide +kernel⟩

end Domain

end ActionServer
