import ActionServer.Action.Dispatcher

/-!
# Requests while scripts are loaded

Each action of a registry is loaded by a task of its own, in the background, and requests are taken
from the beginning: an invocation waits on the channel of its action until the load is over. Tasks,
arrivals and invocations take turns in any order. A turn that nothing is there to take changes
nothing.
-/

namespace ActionServer

/-- How far the task of a load is. A task that goes before it has sent anything has died. -/
inductive LoadTask where
  | loading
  | sent
  | gone
  deriving DecidableEq, Repr

/-- What waiting on a channel comes to at a moment. -/
inductive Wait where
  | blocked
  | value (state : LoadState)
  | closed

/-- A channel that holds the state last sent. Waiting for a state yields as soon as the current one
will do, and fails only where it will not and the sender is gone. -/
structure Watch where
  waitFor : (wanted : LoadState → Bool) → (current : LoadState) → (senderThere : Bool) → Wait
  yields : ∀ {wanted current} senderThere, wanted current = true →
    waitFor wanted current senderThere = .value current
  blocks : ∀ {wanted current}, wanted current = false → waitFor wanted current true = .blocked
  closes : ∀ {wanted current}, wanted current = false → waitFor wanted current false = .closed

/-- Such a channel that looks at once. -/
def Watch.direct : Watch where
  waitFor wanted current senderThere :=
    if wanted current then .value current else if senderThere then .blocked else .closed
  yields _ will := by simp [will]
  blocks wont := by simp [wont]
  closes wont := by simp [wont]

def LoadState.isSettled : LoadState → Bool
  | pending => false
  | ready _ | failed _ => true

/-- What the task of a load makes of its loader's answer. -/
def LoadOutcome.ofResult : Except LoadError Executable → LoadOutcome
  | .ok executable => ready executable
  | .error cause => refused cause

/-- Waits for the executable of an action; nothing as long as the load goes on. -/
def Action.awaitExecutable (watch : Watch) (a : Action) (task : LoadTask) :
    Option (Except LoadError Executable) :=
  match watch.waitFor LoadState.isSettled a.state (task != .gone) with
  | .blocked => none
  | .value (.ready executable) => some (.ok executable)
  | .value (.failed cause) => some (.error cause)
  | .value .pending | .closed => some (.error loadEnded)

/-- Changes the load state of the action of a name. -/
def Registry.setState (g : Registry) (name : String) (state : LoadState) : Registry :=
  { g with actions := g.actions.map fun a => if a.name = name then { a with state } else a }

/-- How far an invocation is. -/
inductive Stage where
  | waiting
  /-- It has got the executable and is about to run it. -/
  | granted (executable : Executable)
  | ended (result : Except ActionError Document)

/-- An invocation of the action of a name. -/
structure Visit where
  name : String
  request : ActionRequest
  stage : Stage

/-- A dispatcher at work: the tasks of its loads and, in the order of their arrival, the
invocations. -/
structure Traffic where
  dispatcher : Dispatcher
  task : String → LoadTask
  visits : List Visit
  world : World

/-- Who takes a turn. -/
inductive Turn where
  /-- The loader has answered the task of an action. -/
  | send (name : String) (result : Except LoadError Executable)
  /-- The task of an action goes, and with it the sender. -/
  | leave (name : String)
  | arrive (name : String) (request : ActionRequest)
  /-- The invocation with a number looks whether its load is over. -/
  | resume (number : Nat)
  /-- The invocation with a number runs the executable that it has got. -/
  | run (number : Nat)

/-- How far an invocation is once it has been taken: it waits, if there is such an action and it may
be asked for. -/
def Dispatcher.entry (d : Dispatcher) (name : String) (r : ActionRequest) : Stage :=
  match d.registry.get? name with
  | none => .ended (.error (.notFound r.path))
  | some a => if a.internal && !r.internal then .ended (.error (.forbidden name)) else .waiting

namespace Traffic

/-- All loads go on and nobody has asked for anything. -/
def start (d : Dispatcher) (w : World) : Traffic :=
  ⟨d, fun _ => .loading, [], w⟩

/-- An invocation that waits goes on if its load is over. -/
def resume (watch : Watch) (t : Traffic) (v : Visit) : Visit :=
  match v.stage with
  | .waiting =>
    match t.dispatcher.registry.get? v.name with
    | none => v
    | some a =>
      match a.awaitExecutable watch (t.task v.name) with
      | none => v
      | some (.ok executable) => { v with stage := .granted executable }
      | some (.error cause) => { v with stage := .ended (.error (.load v.name cause)) }
  | _ => v

/-- The action, the request and the executable of an invocation that is about to run. -/
def granted? (t : Traffic) (number : Nat) : Option (Action × ActionRequest × Executable) :=
  match t.visits[number]? with
  | some ⟨name, request, .granted executable⟩ =>
    (t.dispatcher.registry.get? name).map fun a => (a, request, executable)
  | _ => none

/-- One turn. -/
def step (watch : Watch) (t : Traffic) : Turn → Traffic
  | .send name result =>
    if t.task name = .loading then
      { t with
        dispatcher := { t.dispatcher with
          registry := t.dispatcher.registry.setState name (.ofOutcome (.ofResult result)) }
        task := fun n => if n = name then .sent else t.task n }
    else t
  | .leave name => { t with task := fun n => if n = name then .gone else t.task n }
  | .arrive name request =>
    { t with visits := t.visits ++ [⟨name, request, t.dispatcher.entry name request⟩] }
  | .resume number => { t with visits := t.visits.modify number (t.resume watch) }
  | .run number =>
    match t.granted? number with
    | none => t
    | some (a, request, executable) =>
      let (result, world) := t.dispatcher.execute a executable request t.world
      { t with
        visits := t.visits.modify number fun v => { v with stage := .ended result }, world }

/-- Turns one after the other. -/
def after (watch : Watch) (t : Traffic) (schedule : List Turn) : Traffic :=
  schedule.foldl (step watch) t

end Traffic

end ActionServer
