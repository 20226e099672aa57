import ActionServer.Proofs.Action.View
import ActionServer.Proofs.Document.Order
import ActionServer.Proofs.Domain.Behaviour
import ActionServer.Proofs.Script.Session

/-!
# The errors of a run

What an action reports is kept apart from all else that it does with its domain: nothing but a
report writes errors and flag, and nothing that a domain does depends on them. So both can be read
off the reports of a log, the last one of a key counting, and they would be the same had the action
done nothing but report. Had it reported nothing, all else would be the same.
-/

namespace ActionServer

namespace Domain

/-- One thing that is done with a domain: a use, or a change of the view at will. -/
inductive Act where
  | use (u : Use)
  | edit (change : Document → Document)

/-- What an act lets the action know. -/
inductive Shown where
  | view (data : Document)
  | answer (told : Told)

/-- The reply by which a script is told. -/
def Told.reply? : Told → Option Reply
  | nothing => none
  | stored result => some (.ofExcept StoreError.message (result.map Document.toJson))
  | fetched result => some (.ofExcept StoreError.message (result.map Fetched.toJson))
  | library result => some (.ofExcept LibraryError.message (result.map Json.string))
  | called result => some (.ofExcept ClientError.message result)

def Shown.reply? : Shown → Option Reply
  | view data => some (.ofResult data.toJson)
  | answer told => told.reply?

/-- What a list of acts showed, and what it left. -/
@[ext]
structure Aftermath where
  shown : List Shown
  domain : Domain
  world : World

namespace Act

/-- Whether an act is there to report an error, even if its condition may keep it from doing so. -/
def mayReport : Act → Bool
  | use (.error _ _) | use (.errorIf _ _ _) | use (.errorUnless _ _ _) => true
  | _ => false

/-- The error that an act reports: its key, and its value if there is one. -/
def report? : Act → Option (String × Option Json)
  | use (.error key value) => some (key, value)
  | use (.errorIf condition key value) => if condition then some (key, value) else none
  | use (.errorUnless condition key value) => if condition then none else some (key, value)
  | _ => none

/-- The field that the report of an act writes. -/
def field? (a : Act) : Option (String × Json) :=
  a.report?.map fun (key, value) => (key, errorValue value)

theorem field?_of_report? {a : Act} {k : String} {value : Option Json}
    (reported : a.report? = some (k, value)) : a.field? = some (k, errorValue value) := by
  rw [field?, reported]
  rfl

theorem isSome_field? (a : Act) : a.field?.isSome = a.report?.isSome :=
  Option.isSome_map

theorem field?_of_not_mayReport {a : Act} (silent : a.mayReport = false) : a.field? = none := by
  obtain u | change := a
  · cases u with
    | error | errorIf | errorUnless => cases silent
    | hide | set | merge | insertRaw | data | store | fetch | require | call => rfl
  · rfl

end Act

def act (d : Domain) (w : World) : Act → Domain × World
  | .use u => d.use w u
  | .edit change => ({ d with data := change d.data }, w)

def shown? (d : Domain) (w : World) : Act → Option Shown
  | .use .data => some (.view d.data)
  | .use u =>
    match d.told w u with
    | .nothing => none
    | answer => some (.answer answer)
  | .edit _ => none

/-- Acts one after the other. -/
def perform (d : Domain) (w : World) : List Act → Aftermath
  | [] => ⟨[], d, w⟩
  | a :: rest =>
    let later := perform (d.act w a).1 (d.act w a).2 rest
    { later with shown := (d.shown? w a).toList ++ later.shown }

theorem perform_append (d : Domain) (w : World) (log more : List Act) :
    d.perform w (log ++ more) =
      let first := d.perform w log
      let second := first.domain.perform first.world more
      { second with shown := first.shown ++ second.shown } := by
  induction log generalizing d w with
  | nil => rfl
  | cons a rest ih => simp only [List.cons_append, perform, ih, List.append_assoc]

/-- To report on a condition is to report, or else to do nothing. -/
theorem perform_errorIf (d : Domain) (w : World) (log : List Act) (condition : Bool) (key : String)
    (value : Option Json) :
    d.perform w (log ++ [.use (.errorIf condition key value)]) =
      if condition then d.perform w (log ++ [.use (.error key value)]) else d.perform w log := by
  cases condition with
  | true => simp only [perform_append]; rfl
  | false =>
    rw [perform_append]
    exact Aftermath.ext (List.append_nil _) rfl rfl

theorem perform_errorUnless (d : Domain) (w : World) (log : List Act) (condition : Bool)
    (key : String) (value : Option Json) :
    d.perform w (log ++ [.use (.errorUnless condition key value)]) =
      if condition then d.perform w log else d.perform w (log ++ [.use (.error key value)]) := by
  -- The one act is the other with the condition turned around.
  have other := perform_errorIf d w log (!condition) key value
  rw [perform_append] at other ⊢
  cases condition <;> exact other

/-! ### What is recorded -/

/-- The step: an act writes what it reports, and sets the flag if it reports. -/
theorem errors_act (d : Domain) (w : World) (a : Act) :
    (d.act w a).1.errors = d.errors.insertAll a.field?.toList ∧
      (d.act w a).1.hasErrors = (d.hasErrors || a.field?.isSome) := by
  obtain u | change := a
  · cases u with
    | error key value => exact ⟨rfl, (Bool.or_true _).symm⟩
    | errorIf condition key value | errorUnless condition key value =>
      cases condition <;>
        exact ⟨rfl, by simp [act, use, errorIf, errorUnless, error, Act.field?, Act.report?]⟩
    | hide | set | merge | insertRaw | data | store | fetch | require | call =>
      exact ⟨rfl, (Bool.or_false _).symm⟩
  · exact ⟨rfl, (Bool.or_false _).symm⟩

/-- The run: the errors hold what the reports write, one after the other. -/
theorem errors_perform (d : Domain) (w : World) (log : List Act) :
    (d.perform w log).domain.errors = d.errors.insertAll (log.filterMap Act.field?) ∧
      (d.perform w log).domain.hasErrors =
        (d.hasErrors || !(log.filterMap Act.field?).isEmpty) := by
  induction log generalizing d w with
  | nil => exact ⟨rfl, (Bool.or_false _).symm⟩
  | cons a rest ih =>
    obtain ⟨errors, flag⟩ := d.errors_act w a
    obtain ⟨later, flagged⟩ := ih (d.act w a).1 (d.act w a).2
    rw [errors] at later
    rw [flag] at flagged
    simp only [perform, later, flagged]
    cases reported : a.field? <;> simp [reported, Document.insertAll]

theorem mem_fields_iff {log : List Act} {k : String} {v : Json} :
    (k, v) ∈ log.filterMap Act.field? ↔
      ∃ a ∈ log, ∃ value, a.report? = some (k, value) ∧ errorValue value = v := by
  simp [Act.field?]

/-- Errors and flag of a domain are what the reports of a log make of them. -/
structure Records (d : Domain) (log : List Act) : Prop where
  keys : ∀ k, (∃ v, d.errors.get? k = some v) ↔ ∃ a ∈ log, ∃ value, a.report? = some (k, value)
  last : ∀ before a after k value, log = before ++ a :: after → a.report? = some (k, value) →
    (∀ later ∈ after, ∀ other, later.report? ≠ some (k, other)) →
      (value = none ∨ value = some .null → d.errors.get? k = some (.bool true)) ∧
      ∀ v, value = some v → v ≠ .null → d.errors.get? k = some v
  noNull : ∀ field ∈ d.errors.fields, field.2 ≠ .null
  flag : d.hasErrors = true ↔ ∃ a ∈ log, a.report?.isSome = true
  nonempty : d.hasErrors = true ↔ d.errors.fields ≠ []

theorem errorValue_ne_null (value : Option Json) : errorValue value ≠ .null := by
  rcases value with _ | v
  · nofun
  · cases v <;> nofun

theorem errorValue_of_ne_null {v : Json} (given : v ≠ .null) : errorValue (some v) = v := by
  cases v with
  | null => exact absurd rfl given
  | _ => rfl

/-- It is enough that the errors are the document of all that was reported. -/
theorem Records.of_entries {d : Domain} {log : List Act}
    (errors : d.errors = .ofFields (log.filterMap Act.field?))
    (flag : d.hasErrors = !(log.filterMap Act.field?).isEmpty) : d.Records log where
  keys k := by
    constructor
    · rintro ⟨v, found⟩
      rw [errors] at found
      obtain ⟨a, member, value, reported, -⟩ :=
        mem_fields_iff.mp (Document.mem_of_get?_ofFields found)
      exact ⟨a, member, value, reported⟩
    · rintro ⟨a, member, value, reported⟩
      rw [← Option.ne_none_iff_exists', errors, Ne, Document.get?_ofFields_eq_none_iff]
      exact fun absent => absent _ (mem_fields_iff.mpr ⟨a, member, value, reported, rfl⟩) rfl
  last before a after k value := by
    rintro rfl reported last
    have found : d.errors.get? k = some (errorValue value) := by
      rw [errors, List.filterMap_append, List.filterMap_cons_some (Act.field?_of_report? reported)]
      refine Document.get?_ofFields_of_last _ _ ?_
      -- A later field under the key would be a later report for it.
      rintro ⟨_, v⟩ written rfl
      obtain ⟨later, position, other, again, -⟩ := mem_fields_iff.mp written
      exact last later position other again
    refine ⟨?_, ?_⟩
    · rintro (rfl | rfl) <;> exact found
    · rintro v rfl given
      rwa [errorValue_of_ne_null given] at found
  noNull := by
    rintro ⟨k, v⟩ member
    rw [errors, (Document.ordered_ofFields _).mem_fields_iff] at member
    obtain ⟨-, -, value, -, rfl⟩ := mem_fields_iff.mp (Document.mem_of_get?_ofFields member)
    exact errorValue_ne_null value
  flag := by
    rw [flag, Bool.not_eq_true', List.isEmpty_eq_false_iff, Ne, List.filterMap_eq_nil_iff]
    simp [← Act.isSome_field?, Option.isSome_iff_ne_none]
  nonempty := by
    rw [flag, Bool.not_eq_true', List.isEmpty_eq_false_iff, errors, Ne, Ne,
      Document.fields_ofFields_eq_nil_iff]

/-- A fresh domain comes to hold what is reported. -/
theorem records_perform (action : String) (start : Document) (persistence : Persistence)
    (library : Library) (client : Option InternalClient) (w : World) (log : List Act) :
    ((Domain.new action start persistence library client).perform w log).domain.Records log :=
  have ⟨errors, flag⟩ :=
    (Domain.new action start persistence library client).errors_perform w log
  .of_entries errors flag

/-! ### What is not recorded -/

/-- The same but for errors and flag. -/
def SameButErrors (one other : Domain) : Prop :=
  ∃ errors hasErrors, other = { one with errors, hasErrors }

/-- The step: an act on domains that are the same but for the errors leaves such domains, does the
same to the world and shows the same. -/
theorem SameButErrors.act {one other : Domain} (same : one.SameButErrors other) (w : World)
    (a : Act) :
    (one.act w a).1.SameButErrors (other.act w a).1 ∧ (one.act w a).2 = (other.act w a).2 ∧
      one.shown? w a = other.shown? w a := by
  obtain ⟨errors, hasErrors, rfl⟩ := same
  obtain u | change := a
  · cases u with
    | errorIf condition key value | errorUnless condition key value =>
      cases condition <;> exact ⟨⟨_, _, rfl⟩, rfl, rfl⟩
    | error | hide | set | merge | insertRaw | data | store | fetch | require | call =>
      exact ⟨⟨_, _, rfl⟩, rfl, rfl⟩
  · exact ⟨⟨_, _, rfl⟩, rfl, rfl⟩

/-- An act that may report does nothing but that. -/
theorem SameButErrors.act_of_mayReport {one other : Domain} (same : one.SameButErrors other)
    (w : World) {a : Act} (reports : a.mayReport = true) :
    (one.act w a).1.SameButErrors other ∧ (one.act w a).2 = w ∧ one.shown? w a = none := by
  obtain ⟨errors, hasErrors, rfl⟩ := same
  obtain u | change := a
  · cases u with
    | errorIf condition key value | errorUnless condition key value =>
      cases condition <;> exact ⟨⟨_, _, rfl⟩, rfl, rfl⟩
    | error => exact ⟨⟨_, _, rfl⟩, rfl, rfl⟩
    | hide | set | merge | insertRaw | data | store | fetch | require | call => cases reports
  · cases reports

/-- The run: leaving out what may report makes no difference outside of the errors. -/
theorem SameButErrors.perform_filter {one other : Domain} (same : one.SameButErrors other)
    (w : World) (log : List Act) :
    let full := one.perform w log
    let silent := other.perform w (log.filter fun a => !a.mayReport)
    full.domain.SameButErrors silent.domain ∧ full.world = silent.world ∧
      full.shown = silent.shown := by
  -- Both domains are general: an act that is left out moves only the first of them.
  induction log generalizing one other w with
  | nil => exact ⟨same, rfl, rfl⟩
  | cons a rest ih =>
    cases reports : a.mayReport with
    | true =>
      obtain ⟨next, world, nothing⟩ := same.act_of_mayReport w reports
      simpa [perform, reports, world, nothing] using ih next w
    | false =>
      -- Both runs make the act and go on in one world.
      obtain ⟨next, world, answer⟩ := same.act w a
      have later := ih next (one.act w a).2
      simpa [perform, reports, ← world, answer] using later

/-- Leaving out all else makes no difference to what is recorded. -/
theorem filterMap_field?_filter (log : List Act) :
    (log.filter Act.mayReport).filterMap Act.field? = log.filterMap Act.field? := by
  rw [List.filterMap_filter]
  refine List.filterMap_congr fun a _ => ?_
  cases reports : a.mayReport with
  | true => rfl
  | false => exact (Act.field?_of_not_mayReport reports).symm

/-- The commands of a script are acts. -/
theorem applyAll_eq_perform (d : Domain) (w : World) (commands : List Command) :
    let left := d.perform w (commands.filterMap fun command => command.use?.map .use)
    (d.applyAll w commands).2 = (left.domain, left.world) := by
  induction commands generalizing d w with
  | nil => rfl
  | cons command rest ih =>
    -- Two commands are no acts and leave the domain and the world alone.
    cases command with
    | hasErrors | done => exact ih d w
    | error | hide | set | merge | data | store | fetch | require | call => exact ih _ _

/-- What the acts show is what the script is told, unless it asks for the flag. -/
theorem replies_applyAll (d : Domain) (w : World) {commands : List Command}
    (plain : .hasErrors ∉ commands) :
    (d.applyAll w commands).1.filterMap Step.reply? =
      (d.perform w (commands.filterMap fun command => command.use?.map .use)).shown.filterMap
        Shown.reply? := by
  induction commands generalizing d w with
  | nil => rfl
  | cons command rest ih =>
    have later := fun e v => ih e v (List.not_mem_of_not_mem_cons plain)
    cases command with
    | hasErrors => exact absurd List.mem_cons_self plain
    | done => exact later d w
    | error | hide | set | merge => exact later _ _
    | data | store | fetch | require | call => exact congrArg (_ :: ·) (later _ _)

/-- **The error log.** After any acts, the keys of the errors are those for which an error was
reported, each with what was last reported for it, or `true` in place of nothing and of `null`. The
flag says whether there was any report, as the errors themselves do, and stays once it is set. To
report on a condition is to report or to do nothing, as the condition has it. Without the acts that
may report, the view, the hidden keys, the world and all that was shown are the same; without all
others, errors and flag are. The commands of a script are such acts, and what these show is what it
is told, unless it asks for the flag. -/
theorem perform_errors (action : String) (start : Document) (persistence : Persistence)
    (library : Library) (client : Option InternalClient) (w : World) (log : List Act) :
    let fresh := Domain.new action start persistence library client
    let full := fresh.perform w log
    let silent := fresh.perform w (log.filter fun a => !a.mayReport)
    let bare := fresh.perform w (log.filter Act.mayReport)
    full.domain.Records log ∧
    (full.domain.hasErrors = true →
      ∀ more, (fresh.perform w (log ++ more)).domain.hasErrors = true) ∧
    (∀ condition key value,
      let reported := fresh.perform w (log ++ [.use (.error key value)])
      fresh.perform w (log ++ [.use (.errorIf condition key value)]) =
        (if condition then reported else full) ∧
      fresh.perform w (log ++ [.use (.errorUnless condition key value)]) =
        if condition then full else reported) ∧
    (silent.domain.data = full.domain.data ∧ silent.domain.hidden = full.domain.hidden ∧
      silent.shown = full.shown ∧ silent.world = full.world) ∧
    (bare.domain.errors = full.domain.errors ∧
      bare.domain.hasErrors = full.domain.hasErrors) ∧
    ∀ commands : List Command,
      let left := fresh.perform w (commands.filterMap fun command => command.use?.map .use)
      (fresh.applyAll w commands).2 = (left.domain, left.world) ∧
      (.hasErrors ∉ commands →
        (fresh.applyAll w commands).1.filterMap Step.reply? =
          left.shown.filterMap Shown.reply?) := by
  intro fresh full silent bare
  refine ⟨records_perform action start persistence library client w log, fun flagged more => ?_,
    fun condition key value => ⟨fresh.perform_errorIf w log condition key value,
      fresh.perform_errorUnless w log condition key value⟩, ?_, ?_,
    fun commands => ⟨fresh.applyAll_eq_perform w commands, fresh.replies_applyAll w⟩⟩
  · have flag := (full.domain.errors_perform full.world more).2
    rw [flagged, Bool.true_or] at flag
    simpa only [perform_append] using flag
  · -- The two runs start from one domain.
    have same : fresh.SameButErrors fresh := ⟨_, _, rfl⟩
    obtain ⟨⟨errors, hasErrors, domain⟩, world, shown⟩ := same.perform_filter w log
    exact ⟨(congrArg data domain :), (congrArg hidden domain :), shown.symm, world.symm⟩
  · obtain ⟨errors, flag⟩ := fresh.errors_perform w log
    obtain ⟨alone, flagged⟩ := fresh.errors_perform w (log.filter Act.mayReport)
    rw [filterMap_field?_filter] at alone flagged
    exact ⟨alone.trans errors.symm, flagged.trans flag.symm⟩

example (w : World) :
    let d := ((Domain.new "send-mail" ∅ ⟨"send-mail", none⟩ .disabled none).perform w
      [.use (.errorIf false "to" none), .use (.error "k" (some (.string "first"))),
        .use (.hide "k"), .use (.error "k" (some .null))]).domain
    d.errors.fields = [("k", .bool true)] ∧ d.hasErrors = true :=
  ⟨rfl, rfl⟩

end Domain

end ActionServer
