import ActionServer.Action.Dispatcher

/-!
# The run of an action

The part of dispatching that has effects is one run of one executable, on a domain made for it. All
else that the dispatcher does is to choose the action before and to read the ending after.
-/

namespace ActionServer.Dispatcher

/-- What an action learns of its request. -/
def contextOf (a : Action) (r : ActionRequest) : Context :=
  { action := a.name, method := r.method, url := r.path, query := r.query, body := r.body
    internal := r.internal }

/-- The domain made for a request to an action. -/
def domainFor (d : Dispatcher) (a : Action) (r : ActionRequest) : Domain :=
  Domain.new a.name (r.query.extend r.body) a.persistence d.library d.client

/-- The one run of an action for a request. -/
def runOnce (d : Dispatcher) (a : Action) (executable : Executable) (r : ActionRequest)
    (w : World) : Ending × Domain × World :=
  executable.run (contextOf a r) (d.domainFor a r) w

/-- The outcome of a run: the view that it leaves, or its failure under the action's name. -/
def outcome (name : String) (ending : Ending) (domain : Domain) : Except ActionError Document :=
  match ending.failure? with
  | none => .ok domain.data
  | some cause => .error (.execution name cause)

theorem execute_eq (d : Dispatcher) (a : Action) (executable : Executable) (r : ActionRequest)
    (w : World) :
    d.execute a executable r w =
      (outcome a.name (d.runOnce a executable r w).1 (d.runOnce a executable r w).2.1,
        (d.runOnce a executable r w).2.2) := by
  simp only [execute, outcome, runOnce, contextOf, domainFor, view]
  split <;> simp [*]

theorem outcome_of_failure {name : String} {ending : Ending} {domain : Domain} {cause : Failure}
    (failed : ending.failure? = some cause) :
    outcome name ending domain = .error (.execution name cause) := by
  simp only [outcome, failed]

theorem outcome_of_finished {name : String} {ending : Ending} {domain : Domain}
    (finished : ending.failure? = none) : outcome name ending domain = .ok domain.data := by
  simp only [outcome, finished]

/-- A successful outcome is the view that a run leaves which ended well. -/
theorem outcome_eq_ok {name : String} {ending : Ending} {domain : Domain} {shown : Document}
    (success : outcome name ending domain = .ok shown) :
    ending.failure? = none ∧ domain.data = shown := by
  simp only [outcome] at success
  split at success
  · exact ⟨‹_›, Except.ok.inj success⟩
  · cases success

end ActionServer.Dispatcher
