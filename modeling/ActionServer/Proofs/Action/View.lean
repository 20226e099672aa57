import ActionServer.Proofs.Action.Run
import ActionServer.Proofs.Domain.View
import ActionServer.Proofs.Script.Process

/-!
# What an answer shows

An answer with a result is the view that a run leaves. The commands of a script are uses of the
domain and none of them is a raw write, so a script cannot show what it has hidden, whatever it
writes and whatever becomes of its calls.
-/

namespace ActionServer

/-- The use of the domain that a command is, unless it only asks for errors or ends the session. -/
def Command.use? : Command → Option Domain.Use
  | error key value => some (.error key value)
  | hide property => some (.hide property)
  | set key value => some (.set key value)
  | merge incoming => some (.merge incoming)
  | data => some .data
  | store element => some (.store element)
  | fetch query => some (.fetch (.ofOption query))
  | require name => some (.require name)
  | call method path body => some (.call method path body)
  | hasErrors | done _ => none

/-- No command is a raw write. -/
theorem Command.isRaw_of_use? {command : Command} {u : Domain.Use} (used : command.use? = some u) :
    u.isRaw = false := by
  cases command <;> cases used <;> rfl

namespace Domain

theorem apply_eq_use (d : Domain) (w : World) (command : Command) :
    (d.apply command w).2.1 = (command.use?.map fun u => (d.use w u).1).getD d := by
  cases command <;> rfl

theorem Veiled.apply {d : Domain} (now : d.Veiled) (command : Command) (w : World) :
    (d.apply command w).2.1.Veiled := by
  rw [apply_eq_use]
  cases used : command.use? with
  | none => exact now
  | some u => exact now.use w (Command.isRaw_of_use? used)

theorem Veiled.hear {d : Domain} (now : d.Veiled) (line : List UInt8) (w : World) :
    (d.hear line w).2.1.Veiled := by
  simp only [Domain.hear]
  split
  · exact now
  split
  · exact now
  split
  · exact now
  · rename_i command _
    have next := now.apply command w
    split <;> rename_i applied <;> rw [applied] at next <;> exact next

theorem Veiled.converse {d : Domain} (now : d.Veiled) (w : World) (lines : List (List UInt8)) :
    (d.converse w lines).domain.Veiled := by
  induction lines generalizing d w with
  | nil => exact now
  | cons line rest ih =>
    have next := now.hear line w
    simp only [Domain.converse]
    split <;> rename_i heard <;> rw [heard] at next
    · exact ih next _
    · exact ih next _
    · exact next
    · exact next

end Domain

/-- An exchange that ends well leaves the domain that the whole conversation leaves. -/
theorem Exchange.domain_of_finished {child : Child} {context : Context} {d : Domain} {w : World}
    {limit : Nat} {ending : Ending} {x : Exchange}
    (ran : run child (start context d w limit) = (ending, x)) (well : ending.failure? = none) :
    x.domain = (d.converse w (x.written.splitOn 0x0A)).domain := by
  have kept := run_concludes child (start_follows context d w limit)
  rw [ran] at kept
  cases kept with
  | timeout => cases well
  | broken => cases well
  | exited follows closed mute status =>
    obtain ⟨replies, told⟩ := follows
    have talk := told.talk [] fun _ => rfl
    rw [List.append_nil] at talk
    rw [talk]
    simp [outlook, closed, Talk.after]

/-- A script that ends well leaves a view without hidden keys. -/
theorem ProcessSettings.run_veiled (s : ProcessSettings) (path : String) (context : Context)
    {d : Domain} (start : d.Veiled) (w : World)
    (well : (s.run path context d w).1.failure? = none) :
    (s.run path context d w).2.1.Veiled := by
  simp only [run] at well ⊢
  split at well
  · cases well
  split at well
  · cases well
  split at well
  · cases well
  simp only [*, if_false]
  rw [Exchange.domain_of_finished rfl well]
  exact start.converse w _

namespace Domain

/-- **The view follows the log.** After any uses, a key is hidden when the last use of its mark was
to hide it, and the view holds what the last touch of the key left, or the data of the start. Without
raw writes no hidden key is in the view, so it is in no reply with the data and in no answer of a run
that leaves this domain. Scripts in processes write nothing raw, so their answers never show what
they have hidden. -/
theorem after_view (action : String) (start : Document) (persistence : Persistence)
    (library : Library) (client : Option InternalClient) (log : List Use) (w : World)
    (k : String) :
    let d := (Domain.new action start persistence library client).after w log
    (d.isHidden k = true ↔ Marked k log) ∧
    d.data.get? k = ((touches k log).getLast?).getD (start.get? k) ∧
    ((∀ u ∈ log, u.isRaw = false) → Marked k log →
      d.data.get? k = none ∧
      (∀ now : World, ∃ fields,
        (d.apply .data now).1 = .reply (.ofResult (.object fields)) ∧
          ∀ field ∈ fields, field.1 ≠ k) ∧
      ∀ (dispatcher : Dispatcher) (a : Action) (executable : Executable) (r : ActionRequest)
        (now : World) (shown : Document),
        (dispatcher.runOnce a executable r now).2.1 = d →
          (dispatcher.execute a executable r now).1 = .ok shown →
            ∀ field ∈ shown.fields, field.1 ≠ k) ∧
    ∀ (dispatcher : Dispatcher) (a : Action) (s : ProcessSettings) (path : String)
      (r : ActionRequest) (now : World) (shown : Document),
      (dispatcher.runOnce a (s.executable path) r now).2.1.isHidden k = true →
        (dispatcher.execute a (s.executable path) r now).1 = .ok shown →
          ∀ field ∈ shown.fields, field.1 ≠ k := by
  intro d
  have reflected := (Reflects.new action start persistence library client).run w log
  simp only [List.nil_append] at reflected
  -- The last part is about the runs of scripts and needs nothing of this log.
  refine ⟨reflected.hidden k, reflected.view k, fun plain marked => ?_, ?_⟩
  · have absent : d.data.get? k = none :=
      (Veiled.new action start persistence library client).run w plain k
        ((reflected.hidden k).mpr marked)
    have away := (Document.get?_eq_none_iff _ _).mp absent
    refine ⟨absent, fun now => ⟨d.data.fields, rfl, away⟩, ?_⟩
    intro dispatcher a executable r now shown left success
    rw [Dispatcher.execute_eq] at success
    obtain ⟨-, view⟩ := Dispatcher.outcome_eq_ok success
    rw [left] at view
    exact view ▸ away
  · intro dispatcher a s path r now shown marked success
    rw [Dispatcher.execute_eq] at success
    obtain ⟨well, view⟩ := Dispatcher.outcome_eq_ok success
    have veiled : (dispatcher.runOnce a (s.executable path) r now).2.1.Veiled :=
      s.run_veiled path _ (Veiled.new _ _ _ _ _) now well
    exact view ▸ (Document.get?_eq_none_iff _ _).mp (veiled k marked)

end Domain

end ActionServer
