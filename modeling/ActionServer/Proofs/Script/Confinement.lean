import ActionServer.Proofs.Domain.Behaviour
import ActionServer.Script.Process
import Mathlib.Tactic.Choose

/-!
# Scripts in processes only use their domain

The host carries out what a script writes, and the script knows of the world what the host writes
back. So the exchange between the two is a behaviour over the domain: its state carries domain and
world along, the commands among its lines are uses, and nothing else in it asks for the world.
`Plays` says so of an exchange that goes on in some way, and taking a line keeps it.
-/

namespace ActionServer

open Domain (Behaviour Told)

/-- What a line that is a command leads to. -/
private def heard : Step → Hearing
  | .proceed => .quiet
  | .reply r => .answer r
  | .done none => .done
  | .done (some message) => .failed (.failed message)

/-- A command is a use of the domain and what is made of the answer, or it asks for the domain. -/
theorem Domain.apply_behaves (d : Domain) (command : Command) :
    ∃ b : Behaviour Step, ∀ w, b.run d w = d.apply command w := by
  cases command with
  | error key value => exact ⟨.use (.error key value) fun _ => .finish .proceed, fun _ => rfl⟩
  | hide property => exact ⟨.use (.hide property) fun _ => .finish .proceed, fun _ => rfl⟩
  | set key value => exact ⟨.use (.set key value) fun _ => .finish .proceed, fun _ => rfl⟩
  | merge incoming => exact ⟨.use (.merge incoming) fun _ => .finish .proceed, fun _ => rfl⟩
  | hasErrors | data | require | done => exact ⟨.finish _, fun _ => rfl⟩
  | store element =>
    exact ⟨.use (.store element) fun
      | .stored result =>
        .finish (.reply (.ofExcept StoreError.message (result.map Document.toJson)))
      | _ => .finish .proceed, fun _ => rfl⟩
  | fetch query =>
    exact ⟨.use (.fetch (.ofOption query)) fun
      | .fetched result =>
        .finish (.reply (.ofExcept StoreError.message (result.map Fetched.toJson)))
      | _ => .finish .proceed, fun _ => rfl⟩
  | call method path body =>
    exact ⟨.use (.call method path body) fun
      | .called result => .finish (.reply (.ofExcept ClientError.message result))
      | _ => .finish .proceed, fun _ => rfl⟩

theorem Domain.hear_behaves (d : Domain) (line : List UInt8) :
    ∃ b : Behaviour Hearing, ∀ w, b.run d w = d.hear line w := by
  simp only [hear]
  split
  · exact ⟨.finish _, fun _ => rfl⟩
  split
  · exact ⟨.finish _, fun _ => rfl⟩
  split
  · exact ⟨.finish _, fun _ => rfl⟩
  · rename_i command _
    obtain ⟨b, applied⟩ := d.apply_behaves command
    refine ⟨b.bind fun step => .finish (heard step), fun w => ?_⟩
    rw [Behaviour.run_bind, applied]
    rcases d.apply command w with ⟨_ | _ | _ | _, _, _⟩ <;> rfl

namespace Exchange

/-- The exchange in another world. -/
def inWorld (x : Exchange) (w : World) : Exchange :=
  { x with world := w }

/-- Going on from an exchange is a behaviour over its domain, in whatever world. -/
def Plays (go : Exchange → Ending × Exchange) (x : Exchange) : Prop :=
  ∃ b : Behaviour Ending, ∀ w, b.run x.domain w =
    ((go (x.inWorld w)).1, (go (x.inWorld w)).2.domain, (go (x.inWorld w)).2.world)

/-- Goes on with what a step of the exchange leaves, unless it failed. -/
def goOn (go : Exchange → Ending × Exchange) :
    Except (Failure × Exchange) Exchange → Ending × Exchange
  | .error e => fail e
  | .ok x => go x

section

variable {go next : Exchange → Ending × Exchange} {x y : Exchange}

/-- One way to go on is as good as another that does the same, over the same domain. -/
theorem Plays.of_eq (plays : Plays next y) (domain : y.domain = x.domain)
    (same : ∀ w, go (x.inWorld w) = next (y.inWorld w)) : Plays go x := by
  obtain ⟨b, played⟩ := plays
  refine ⟨b, fun w => ?_⟩
  rw [← domain, played, same]

theorem goOn_bind (r : Except (Failure × Exchange) Exchange)
    (step : Exchange → Except (Failure × Exchange) Exchange) :
    goOn go (r >>= step) = goOn (fun x => goOn go (step x)) r := by
  cases r <;> rfl

/-- What is done on a hearing, over the domain that it leaves. -/
private def onHearing (next : Exchange → Behaviour Ending) (x : Exchange) (d : Domain) :
    Hearing → Behaviour Ending
  | .quiet => next { x with domain := d }
  | .answer r => next ({ x with domain := d }.send r.toJson.text)
  | .done => next { x with domain := d, closed := true, incoming := [] }
  | .failed cause => .finish (.failed cause)

private theorem send_inWorld (x : Exchange) (line : String) (w : World) :
    (x.inWorld w).send line = (x.send line).inWorld w ∧ (x.send line).domain = x.domain := by
  cases deaf : x.deaf <;> simp [send, inWorld, deaf]

/-- Taking a line: what the host hears decides on what goes on, and over which domain. -/
theorem Plays.take (plays : ∀ x, Plays go x) (line : List UInt8) (x : Exchange) :
    Plays (fun x => goOn go (x.take line)) x := by
  obtain ⟨b, hears⟩ := x.domain.hear_behaves line
  choose next played using plays
  refine ⟨b.bind fun hearing => .look fun d => onHearing next x d hearing, fun w => ?_⟩
  have same : (x.inWorld w).domain.hear line (x.inWorld w).world = x.domain.hear line w := rfl
  rw [Behaviour.run_bind, hears]
  simp only [Behaviour.run, Exchange.take, same]
  rcases x.domain.hear line w with ⟨_ | r | _ | cause, d, v⟩
  · exact played { x with domain := d } v
  · obtain ⟨sent, kept⟩ := send_inWorld { x with domain := d } r.toJson.text v
    have goes := played ({ x with domain := d }.send r.toJson.text) v
    rw [kept, ← sent] at goes
    exact goes
  · exact played { x with domain := d, closed := true, incoming := [] } v
  · rfl

/-- Taking lines: on each of them follow the lines that are left. -/
theorem Plays.takeLines (plays : ∀ x, Plays go x) (steps : Nat) (x : Exchange) :
    Plays (fun x => goOn go (Exchange.takeLines steps x)) x := by
  induction steps generalizing x with
  | zero => exact plays x
  | succ steps ih =>
    by_cases stuck : (x.closed || x.isHeldUp) = true
    · have stops : ∀ w, Exchange.takeLines (steps + 1) (x.inWorld w) = .ok (x.inWorld w) :=
        fun w => if_pos stuck
      exact (plays x).of_eq rfl fun w => by rw [stops]; rfl
    have goes : ∀ w, Exchange.takeLines (steps + 1) (x.inWorld w) = _ := fun w => if_neg stuck
    have incoming : ∀ w, (x.inWorld w).incoming = x.incoming := fun w => rfl
    cases parts : splitLine? x.incoming with
    | some found =>
      refine (Plays.take ih found.1 { x with incoming := found.2 }).of_eq rfl fun w => ?_
      simp only [goes, incoming, parts, goOn_bind]
      rfl
    | none =>
      have isMute : ∀ w, (x.inWorld w).mute = x.mute := fun w => rfl
      simp only [incoming, parts, isMute] at goes
      -- Without a whole line there is at most a last one, and only if no more is to come.
      cases mute : x.mute with
      | false => exact (plays x).of_eq rfl fun w => by rw [goes, mute]; rfl
      | true =>
        cases rest : x.incoming.isEmpty with
        | true =>
          refine (plays { x with closed := true }).of_eq rfl fun w => ?_
          rw [goes, mute, rest]
          rfl
        | false =>
          have closing : ∀ y, Plays (fun y => goOn go (.ok { y with closed := true })) y :=
            fun y => (plays { y with closed := true }).of_eq rfl fun _ => rfl
          refine (Plays.take closing x.incoming { x with incoming := [] }).of_eq rfl fun w => ?_
          rw [goes, mute, rest]
          exact goOn_bind _ _

theorem Plays.advance (plays : ∀ x, Plays go x) (x : Exchange) :
    Plays (fun x => goOn go (Exchange.advance x)) x :=
  .takeLines plays (x.incoming.length + 2) x

end

private theorem timeout_plays (x : Exchange) : Plays timeout x :=
  ⟨.finish (.failed (.timeout x.limit)), fun _ => rfl⟩

/-- Goes on if there is still time. -/
def inTime (go : Exchange → Ending × Exchange) (x : Exchange) : Option Exchange → Ending × Exchange
  | some y => go y
  | none => timeout x

private theorem Plays.wait {go : Exchange → Ending × Exchange} (plays : ∀ x, Plays go x) (ms : Nat)
    (x : Exchange) : Plays (fun x => inTime go x (x.wait? ms)) x := by
  by_cases early : x.elapsed + ms < x.limit
  · refine (plays { x with elapsed := x.elapsed + ms }).of_eq rfl fun w => ?_
    have waits : (x.inWorld w).wait? ms =
        some { x.inWorld w with elapsed := x.elapsed + ms } := if_pos early
    rw [waits]
    rfl
  · refine (timeout_plays x).of_eq rfl fun w => ?_
    have late : (x.inWorld w).wait? ms = none := if_neg early
    rw [late]
    rfl

private theorem write_plays {next : Bool → Child} (plays : ∀ told x, Plays (run (next told)) x)
    (bytes : List UInt8) (x : Exchange) : Plays (run (.write bytes next)) x := by
  cases mute : x.mute with
  | true => exact (plays false x).of_eq rfl fun w => if_pos mute
  | false =>
    let written := { x with output := bytes :: x.output }
    have takes : ∀ w, run (.write bytes next) (x.inWorld w) = _ := fun w =>
      if_neg (Bool.eq_false_iff.mp mute)
    cases closed : x.closed with
    | true => exact (plays false written).of_eq rfl fun w => (takes w).trans (if_pos closed)
    | false =>
      -- What is there is taken; if too much is left, nobody goes on.
      have goes : ∀ y : Exchange, Plays (fun y =>
          if (y.incoming.length > pipeCapacity && y.isHeldUp) = true then timeout y
          else run (next true) y) y := by
        intro y
        by_cases full : (y.incoming.length > pipeCapacity && y.isHeldUp) = true
        · exact (timeout_plays y).of_eq rfl fun w => if_pos full
        · exact (plays true y).of_eq rfl fun w => if_neg full
      let after := { written with incoming := x.incoming ++ bytes }
      refine (Plays.advance goes after).of_eq rfl fun w => (takes w).trans ?_
      exact (if_neg (Bool.eq_false_iff.mp closed)).trans rfl

private theorem read_plays {next : Input → Child} (plays : ∀ given x, Plays (run (next given)) x)
    (limit : Option Nat) (x : Exchange) : Plays (run (.read limit next)) x := by
  cases outgoing : x.outgoing with
  | cons b rest =>
    have sent : ∀ w, (x.inWorld w).outgoing = b :: rest := fun _ => outgoing
    let after :=
      { x with outgoing := rest, outgoingSize := x.outgoingSize - 1, heard := b :: x.heard }
    cases heldUp : x.isHeldUp with
    | true =>
      -- The byte that is read makes room, and the host may take lines again.
      refine (Plays.advance (plays (.byte b)) after).of_eq rfl fun w => ?_
      have waits : (x.inWorld w).isHeldUp = true := heldUp
      rw [run.eq_def]
      simp only [sent, waits, if_true]
      rfl
    | false =>
      refine (plays (.byte b) after).of_eq rfl fun w => ?_
      have free : (x.inWorld w).isHeldUp = false := heldUp
      rw [run.eq_def]
      simp only [sent, free, Bool.false_eq_true, if_false]
      rfl
  | nil =>
    have sent : ∀ w, (x.inWorld w).outgoing = [] := fun _ => outgoing
    cases closed : x.closed with
    | true =>
      refine (plays .ended x).of_eq rfl fun w => ?_
      rw [run.eq_def]
      simp only [sent]
      exact if_pos closed
    | false =>
      -- Nothing is there to be read, so the script waits, for ever or up to its limit.
      have still : ∀ w, ¬(x.inWorld w).closed = true := fun _ => Bool.eq_false_iff.mp closed
      cases limit with
      | none =>
        refine (timeout_plays x).of_eq rfl fun w => ?_
        rw [run.eq_def]
        simp only [sent]
        exact if_neg (still w)
      | some ms =>
        refine (Plays.wait (plays .timedOut) ms x).of_eq rfl fun w => ?_
        rw [run.eq_def]
        simp only [sent]
        exact if_neg (still w)

/-- The exchange with a script is a behaviour, one case for each thing that the script can do. -/
theorem run_plays (child : Child) (x : Exchange) : Plays (run child) x := by
  induction child generalizing x with
  | tick next ih => exact ih () x
  | write bytes next ih => exact write_plays ih bytes x
  | complain bytes next ih =>
    let listened := decide (x.complaintSize < complaintLimit) &&
      decide (x.complaintSize + bytes.length ≤ complaintLimit + pipeCapacity)
    exact (ih listened (x.complain bytes)).of_eq rfl fun w => rfl
  | read limit next ih => exact read_plays ih limit x
  | closeInput next ih =>
    let after := { x with deaf := true, outgoing := [], outgoingSize := 0 }
    exact (Plays.advance (ih ()) after).of_eq rfl fun w => rfl
  | closeOutput next ih =>
    exact (Plays.advance (ih ()) { x with mute := true }).of_eq rfl fun w => rfl
  | sleep ms next ih => exact .wait (ih ()) ms x
  | exit code =>
    have ends : ∀ y, Plays (fun y => (y.exited code, y)) y := fun y =>
      ⟨.finish (y.exited code), fun w => rfl⟩
    let after := { x with deaf := true, mute := true, status := some code }
    exact (Plays.advance ends after).of_eq rfl fun w => rfl
  | hang => exact timeout_plays x

end Exchange

/-- Scripts in processes only use their domain. -/
theorem ProcessSettings.executable_onlyUsesDomain (s : ProcessSettings) (path : String) :
    (s.executable path).OnlyUsesDomain := by
  intro context
  simp only [executable, run]
  split
  · exact ⟨.finish _, fun _ _ => rfl⟩
  split
  · exact ⟨.finish _, fun _ _ => rfl⟩
  split
  · exact ⟨.finish _, fun _ _ => rfl⟩
  · -- The exchange starts over the domain, so the behaviour looks at it first.
    rename_i _ files _ _ interpreter _ _
    let child := interpreter.start ⟨files, [(nameVariable, context.action)], true⟩ [path]
    have plays := fun d => Exchange.run_plays child (Exchange.start context d
      (.ofStores (.new (fun _ _ => "") .memory {})) s.timeoutMs)
    choose b played using plays
    exact ⟨.look b, fun d w => (played d w).symm⟩

end ActionServer
