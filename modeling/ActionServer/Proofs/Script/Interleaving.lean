import ActionServer.Proofs.Script.Session
import Mathlib.Data.List.Forall2
import Mathlib.Logic.Function.Basic

/-!
# Sessions side by side

Invocations run at the same time and take turns: each turn carries out one command, on the domain of
its invocation and on the world that all of them share. No command reads of the world what it writes
into the domain, so turns of others can only change what a store, a collection or the server's own
interface answers. Everything else of an invocation is what it would be alone.
-/

namespace ActionServer

namespace Command

/-- Whether the answer to a command comes from outside the invocation. -/
def asksWorld : Command → Bool
  | store _ | fetch _ | call _ _ _ => true
  | _ => false

/-- The commands that are carried out: all of them, or those up to and with the first `done`. -/
def carriedOut : List Command → List Command
  | [] => []
  | .done payload :: _ => [.done payload]
  | command :: rest => command :: carriedOut rest

/-- The same step, or an answer from outside in both. -/
def Alike (command : Command) (one other : Step) : Prop :=
  if command.asksWorld then one.reply?.isSome ∧ other.reply?.isSome else one = other

end Command

theorem Command.length_carriedOut_le (commands : List Command) :
    (carriedOut commands).length ≤ commands.length := by
  induction commands with
  | nil => exact Nat.le_refl 0
  | cons command rest ih => cases command <;> simp [carriedOut, ih]

/-- The message with which steps come to `done`, if they do. -/
def Step.completion? : List Step → Option (Option String)
  | [] => none
  | .done message :: _ => some message
  | _ :: rest => completion? rest

/-- Steps that are alike come to `done` alike. -/
theorem Step.completion?_eq {entries : List (Command × Step)} {steps : List Step}
    (alike : List.Forall₂ (fun entry step => entry.1.Alike entry.2 step) entries steps) :
    completion? (entries.map Prod.snd) = completion? steps := by
  induction alike with
  | nil => rfl
  | @cons entry step entries steps same _ ih =>
    obtain ⟨command, first⟩ := entry
    simp only [Command.Alike] at same
    rw [List.map_cons]
    split at same
    · -- Two answers: neither is the end.
      obtain ⟨one, other⟩ := same
      cases first <;> cases step <;> simp_all [reply?, completion?]
    · subst same
      cases first <;> simp [completion?, ih]

/-- What a command makes of the domain, and what it is answered from there, is the same in every
world. -/
theorem Domain.apply_alike (d : Domain) (command : Command) (w w' : World) :
    (d.apply command w).2.1 = (d.apply command w').2.1 ∧
      command.Alike (d.apply command w).1 (d.apply command w').1 := by
  cases command with
  | store | fetch | call => exact ⟨rfl, rfl, rfl⟩
  | error | hide | set | merge | hasErrors | data | require | done => exact ⟨rfl, rfl⟩

/-- An invocation in the middle of its session. -/
structure Invocation where
  domain : Domain
  pending : List Command
  /-- The commands carried out so far, each with what came of it, in their order. -/
  history : List (Command × Step)

namespace Invocation

/-- An invocation that has not had a turn. -/
def start (d : Domain) (commands : List Command) : Invocation :=
  ⟨d, commands, []⟩

/-- One turn: the next command is carried out. After `done` nothing is left to do. -/
def turn (v : Invocation) (w : World) : Invocation × World :=
  match v.pending with
  | [] => (v, w)
  | command :: rest =>
    let (step, domain, w) := v.domain.apply command w
    let pending := match step with
      | .done _ => []
      | _ => rest
    (⟨domain, pending, v.history ++ [(command, step)]⟩, w)

/-- What an invocation has become by commands: its domain is what they make of it alone, in some
world, and each was answered as there or from outside. -/
structure Did (v final : Invocation) (commands : List Command) (w : World) : Prop where
  domain : final.domain = (v.domain.applyAll w commands).2.1
  history : ∃ later, final.history = v.history ++ later ∧ later.map Prod.fst = commands ∧
    List.Forall₂ (fun entry step => entry.1.Alike entry.2 step) later
      (v.domain.applyAll w commands).1

theorem Did.nothing (v : Invocation) (w : World) : Did v v [] w :=
  ⟨rfl, [], by simp, rfl, .nil⟩

/-- A command that is carried out in one world goes before others that follow in another. -/
theorem Did.cons {v next final : Invocation} {command : Command} {commands : List Command}
    {w w' : World} (domain : next.domain = (v.domain.apply command w).2.1)
    (history : next.history = v.history ++ [(command, (v.domain.apply command w).1)])
    (later : Did next final commands (v.domain.apply command w').2.2) :
    Did v final (command :: commands) w' := by
  obtain ⟨same, alike⟩ := v.domain.apply_alike command w w'
  obtain ⟨finalDomain, entries, told, given, steps⟩ := later
  rw [domain, same] at finalDomain steps
  refine ⟨finalDomain, (command, (v.domain.apply command w).1) :: entries, ?_, ?_, ?_⟩
  · rw [told, history, List.append_assoc, List.singleton_append]
  · rw [List.map_cons, given]
  · exact .cons alike steps

/-- The step: a turn carries out the first of the commands that are still to come. -/
theorem turn_of_pending {v : Invocation} {command : Command} {rest : List Command}
    (waiting : v.pending = command :: rest) (w : World) :
    let next := (v.turn w).1
    Command.carriedOut v.pending = command :: Command.carriedOut next.pending ∧
      next.domain = (v.domain.apply command w).2.1 ∧
      next.history = v.history ++ [(command, (v.domain.apply command w).1)] := by
  simp only [turn, waiting, and_true]
  cases command <;> rfl

end Invocation

section

variable {ι : Type} [DecidableEq ι]

/-- Turns of invocations in a world they share, in an order. -/
def interleave (all : ι → Invocation) (w : World) : List ι → (ι → Invocation) × World
  | [] => (all, w)
  | i :: rest => interleave (Function.update all i ((all i).turn w).1) ((all i).turn w).2 rest

/-- The run: after any turns of all, an invocation has done what its own turns make of it alone, in
whatever world that is. -/
theorem interleave_did (all : ι → Invocation) (w : World) (order : List ι) (i : ι) (w' : World) :
    (all i).Did ((interleave all w order).1 i)
      ((Command.carriedOut (all i).pending).take (order.count i)) w' := by
  induction order generalizing all w w' with
  | nil => exact .nothing (all i) w'
  | cons j rest ih =>
    rw [interleave]
    by_cases own : j = i
    · subst own
      rw [List.count_cons_self]
      cases waiting : (all j).pending with
      | nil =>
        have idle : (all j).turn w = (all j, w) := by simp only [Invocation.turn, waiting]
        have turned := ih all w w'
        rw [waiting] at turned
        rw [idle, Function.update_eq_self]
        simpa [Command.carriedOut] using turned
      | cons command others =>
        obtain ⟨given, domain, history⟩ := Invocation.turn_of_pending waiting w
        -- Alone, the rest follows in the world that the command leaves there.
        have turned := ih (Function.update all j ((all j).turn w).1) ((all j).turn w).2
          ((all j).domain.apply command w').2.2
        rw [Function.update_self] at turned
        rw [← waiting, given, List.take_succ_cons]
        exact .cons domain history turned
    · -- The turn of another leaves this invocation as it is.
      have turned := ih (Function.update all j ((all j).turn w).1) ((all j).turn w).2 w'
      rw [Function.update_of_ne (Ne.symm own)] at turned
      rwa [List.count_cons_of_ne own]

/-- **Invocations side by side do not share domains.** However the commands of any invocations are
interleaved, each of them ends with the view, the hidden fields, the errors and the flag with which
it ends alone, in whatever world; it has carried out the same commands and come to the same `done`,
and each of its answers is the same, but for those from stores, collections and the server itself. -/
theorem interleave_solo (starts : ι → Domain) (commands : ι → List Command) (w : World)
    (order : List ι) (complete : ∀ i, (commands i).length ≤ order.count i) (i : ι) (w' : World) :
    let final := (interleave (fun i => .start (starts i) (commands i)) w order).1 i
    let (steps, solo, _) := (starts i).applyAll w' (Command.carriedOut (commands i))
    final.domain = solo ∧
    final.history.map Prod.fst = Command.carriedOut (commands i) ∧
    Step.completion? (final.history.map Prod.snd) = Step.completion? steps ∧
    List.Forall₂ (fun entry step => entry.1.Alike entry.2 step) final.history steps := by
  have whole : (Command.carriedOut (commands i)).take (order.count i) =
      Command.carriedOut (commands i) :=
    List.take_of_length_le (Nat.le_trans (Command.length_carriedOut_le _) (complete i))
  obtain ⟨domain, later, told, given, steps⟩ :=
    interleave_did (fun i => .start (starts i) (commands i)) w order i w'
  simp only [Invocation.start, List.nil_append, whole] at domain told given steps
  subst told
  exact ⟨domain, given, Step.completion?_eq steps, steps⟩

end

/-- Two invocations that share a collection, one of which fetches what the other has stored. Alone it
would have found nothing. -/
theorem interleave_solo_mail :
    let w := World.ofStores (.new (fun _ _ => "x") .memory {})
    let d := Domain.new "keep" ∅ ⟨"keep", some "mail"⟩ .disabled none
    let commands : Bool → List Command := fun i =>
      if i then [.hide "a", .fetch none, .hasErrors, .done none] else [.store ∅, .error "a" none]
    let order := [true, false, true, false, true, true]
    let final := (interleave (fun i => .start d (commands i)) w order).1
    let solo := d.applyAll w (Command.carriedOut (commands true))
    (∀ i, (commands i).length ≤ order.count i) ∧
      (final true).domain = solo.2.1 ∧
      Step.completion? ((final true).history.map Prod.snd) = Step.completion? solo.1 ∧
      (final true).history.map (fun entry => entry.2.toJson.text) ≠
        solo.1.map (fun step => step.toJson.text) := by
  intro w d commands order final solo
  have complete : ∀ i, (commands i).length ≤ order.count i := by decide +kernel
  obtain ⟨domain, -, completion, -⟩ := interleave_solo (fun _ => d) commands w order complete true w
  exact ⟨complete, domain, completion, by decide +kernel⟩

end ActionServer
