import ActionServer.Shell.Process

/-!
# Scheduling

Of several processes one runs at a time: it goes on until it has to wait, and then the one that has
been waiting longest gets its turn. Time passes when all of them wait, and a little when one of them
runs for long. Only when nothing else can be done is something read from the host.

Seen from outside, the processes of a script are one `Child`, which ends when the first process has
ended and no other one holds an output any more.
-/

namespace ActionServer.Shell

/-- A process that waits. -/
structure Waiting where
  process : Nat
  isReady : Shared → Bool
  deadline : Option Nat
  next : Bool → Process

/-- A process that waits for input. -/
structure Reader where
  process : Nat
  limit : Option Nat
  next : Input → Process

/-- All processes of a script. -/
structure Crew where
  shared : Shared
  ready : List (Nat × Process)
  waiting : List Waiting
  readers : List Reader
  /-- The first process. -/
  main : Nat
  /-- How the first process ended: with a status, or by a signal. -/
  ending : Option (Option Nat)
  /-- Steps since time passed. -/
  steps : Nat

namespace Crew

/-- The status of a process that a signal ended. -/
def signalStatus (signal : Nat) : Nat := 128 + signal

/-- Signals that change nothing if they are not expected. -/
def harmlessSignals : List Nat := [0, 17, 18, 19, 20, 21, 22, 23, 28]

/-- Signals that cannot be handled. -/
def inexorableSignals : List Nat := [9]

/-- A signal that ends a process. -/
def fatalSignal? (s : Shared) (process : Nat) : Option Nat :=
  (s.pending process).find? fun n =>
    !harmlessSignals.contains n && (inexorableSignals.contains n || !s.handles process n)

/-- A process has ended. -/
def finish (c : Crew) (process : Nat) (status : Nat) (signal : Option Nat) : Crew :=
  { c with
    shared := c.shared.remove process status signal
    ending := if process = c.main then some (if signal.isSome then none else some status)
      else c.ending }

/-- Ends the waiting processes that a signal ends. -/
def reap (c : Crew) : Crew :=
  let fatal (process : Nat) : Option Nat := fatalSignal? c.shared process
  let doomed := (c.waiting.map (·.process) ++ c.readers.map (·.process)).filterMap fun p =>
    (fatal p).map fun n => (p, n)
  let others : Crew := { c with
    waiting := c.waiting.filter fun w => (fatal w.process).isNone
    readers := c.readers.filter fun r => (fatal r.process).isNone }
  doomed.foldl (fun c (p, n) => c.finish p (signalStatus n) (some n)) others

/-- Lets the waiting processes go on whose wait is over. -/
def wake (c : Crew) : Crew :=
  let isOver (w : Waiting) : Bool :=
    w.isReady c.shared || w.deadline.any fun d => d ≤ c.shared.elapsed
  let (due, waiting) := c.waiting.partition isOver
  { c with
    waiting
    ready := c.ready ++ due.map fun w => (w.process, w.next (w.isReady c.shared)) }

/-- The moment when the first of the waits ends. -/
def nextDeadline? (c : Crew) : Option Nat := (c.waiting.filterMap (·.deadline)).min?

/-- Whether everything is over that can be seen from outside. -/
def isOver (c : Crew) : Bool :=
  c.ending.isSome && !c.shared.isHeld .output && !c.shared.isHeld .errors

/-- Tells the host which of its pipes nobody holds any more. -/
def release (before : Shared) (c : Crew) (next : Unit → Child) : Child :=
  let isLost (channel : Channel) : Bool :=
    c.ending.isNone && before.isHeld channel && !c.shared.isHeld channel
  let onOutput (k : Unit → Child) : Child := if isLost .output then .closeOutput k else k ()
  let onInput (k : Unit → Child) : Child := if isLost .input then .closeInput k else k ()
  onOutput fun _ => onInput next

/-- Steps of one process after which others get their turn. -/
def slice : Nat := 200

/-- What the processes do, step by step. -/
def run : Nat → Crew → Child
  | 0, _ => .hang
  | n + 1, c =>
    if c.isOver then .exit (c.ending.getD none)
    else
      match c.ready with
      | (process, p) :: rest =>
        match fatalSignal? c.shared process with
        | some signal =>
          let after := { c with ready := rest }.finish process (signalStatus signal) (some signal)
          release c.shared after fun _ => run n after
        | none =>
          let goOn (p : Process) : Crew := { c with ready := (process, p) :: rest }
          match p with
          | .tick next =>
            let isAlone := rest.isEmpty && c.waiting.all (·.deadline.isNone)
            if isAlone || c.steps < slice then
              let after := { goOn (next ()) with steps := if isAlone then 0 else c.steps + 1 }
              .tick fun _ => run n after
            else
              let shared := { c.shared with elapsed := c.shared.elapsed + 1 }
              let after : Crew := { c with ready := rest ++ [(process, next ())], steps := 0, shared }
              .sleep 1 fun _ => run n after.wake
          | .access next => run n (goOn (next c.shared))
          | .update shared next =>
            let after := { goOn (next ()) with shared }
            release c.shared after fun _ => run n after
          | .spawn channels child next =>
            let number := c.shared.nextProcess
            let shared := { c.shared with
              nextProcess := number + 1
              held := c.shared.held ++ [(number, channels)] }
            run n { c with
              shared
              ready := (process, next number) :: rest ++ [(number, child number)] }
          | .await isReady limit next =>
            if isReady c.shared then run n (goOn (next true))
            else
              let deadline := limit.map (c.shared.elapsed + ·)
              run n { c with
                ready := rest
                waiting := c.waiting ++ [⟨process, isReady, deadline, next⟩] }
          | .write toErrors bytes next =>
            if toErrors then .complain bytes fun heard => run n (goOn (next heard))
            else .write bytes fun heard => run n (goOn (next heard))
          | .read limit next =>
            run n { c with ready := rest, readers := c.readers ++ [⟨process, limit, next⟩] }
          | .exit status =>
            let after := { c with ready := rest }.finish process status none
            release c.shared after fun _ => run n after
          | .die signal =>
            let after := { c with ready := rest }.finish process (signalStatus signal) (some signal)
            release c.shared after fun _ => run n after
          | .hang =>
            run n { c with
              ready := rest, waiting := c.waiting ++ [⟨process, fun _ => false, none, fun _ => .hang⟩] }
      | [] =>
        let reaped := c.reap
        let woken := reaped.wake
        if !woken.ready.isEmpty || woken.isOver then release c.shared woken fun _ => run n woken
        else
          match reaped.readers with
          | r :: others =>
            .read r.limit fun i =>
              run n { reaped with readers := others, ready := [(r.process, r.next i)] }
          | [] =>
            match reaped.nextDeadline? with
            | some moment =>
              let shared := { reaped.shared with elapsed := moment }
              .sleep (moment - reaped.shared.elapsed) fun _ => run n { reaped with shared }.wake
            | none => .hang

/-- Steps of all processes together. -/
def stepLimit : Nat := 1000000000

/-- A script whose first process is given. -/
def child (shared : Shared) (process : Nat) (channels : List Channel) (p : Process) : Child :=
  run stepLimit
    { shared := { shared with held := (process, channels) :: shared.held }
      ready := [(process, p)]
      waiting := [], readers := [], main := process, ending := none, steps := 0 }

end Crew

end ActionServer.Shell
