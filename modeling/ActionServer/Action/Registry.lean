import ActionServer.Action.Config
import ActionServer.Action.Name
import ActionServer.Script.Executable
import ActionServer.Text.Quoted

/-!
# Registries

A registry holds the configured actions of a server, in the order of their names. It is built from
the configuration in one go: each action is checked, its name must be free, and its collection is
opened. The scripts are loaded afterwards, in the background; a script that does not load leaves the
other actions alone.
-/

namespace ActionServer

/-- What actions of one resource have in common. -/
structure RegistrySettings where
  resourceName : String
  scriptDir : String
  nameRule : NameRule
  deriving DecidableEq, Repr

inductive LoadState where
  | pending
  | ready (executable : Executable)
  | failed (cause : LoadError)

namespace LoadState

def label : LoadState → String
  | pending => "pending"
  | ready _ => "ready"
  | failed _ => "failed"

/-- The state with its reason, for diagnostics. -/
def description : LoadState → String
  | failed (.notFound path) => "Failed(NotFound(" ++ Text.quoted path ++ "))"
  | failed (.invalid reason) => "Failed(Invalid(" ++ Text.quoted reason ++ "))"
  | failed (.io reason) => "Failed(Io(" ++ Text.quoted reason ++ "))"
  | state => state.label

/-- The state after an attempt; one that broke down leaves the action pending for ever. -/
def ofOutcome : LoadOutcome → LoadState
  | .ready executable => ready executable
  | .refused cause => failed cause
  | .died => pending

end LoadState

/-- What an invocation is told that waits for a load which ended without a result. -/
def loadEnded : LoadError := .invalid "load task ended without a result"

structure Action where
  name : String
  description : Option String
  internal : Bool
  resource : Option String
  scriptPath : String
  state : LoadState

namespace Action

/-- The executable, once the load is over. If the action is pending even then, its load has died. -/
def executable (a : Action) : Except LoadError Executable :=
  match a.state with
  | .ready executable => .ok executable
  | .failed cause => .error cause
  | .pending => .error loadEnded

/-- The access of the action to its collection. -/
def persistence (a : Action) : Persistence := ⟨a.name, a.resource⟩

end Action

structure Registry where
  tag : String
  /-- The actions, in increasing order of their names. -/
  actions : List Action

/-- What runs the loads in the background. -/
inductive Scheduler where
  | running
  | absent
  deriving DecidableEq, Repr

namespace Registry

/-- The action of a name. -/
def get? (r : Registry) (name : String) : Option Action :=
  r.actions.find? (·.name == name)

/-- Puts an action where the order of names wants it. -/
def insertAction (a : Action) : List Action → List Action
  | [] => [a]
  | b :: rest => if a.name < b.name then a :: b :: rest else b :: insertAction a rest

/-- The action that a configuration describes, not loaded yet. -/
def actionOf (settings : RegistrySettings) (extension : String) (c : ActionConfig) : Action :=
  let name := settings.nameRule.apply c.name
  { name, description := c.description, internal := c.internal, resource := c.resource
    scriptPath := Path.join settings.scriptDir (name ++ "." ++ extension)
    state := .pending }

/-- Opens the collection of an action. -/
def openResource (resource : Option String) (s : Stores) : Except ActionError Stores :=
  match resource with
  | none => .ok s
  | some name =>
    match s.openCollection name with
    | .ok s => .ok s
    | .error e => .error (.store e)

/-- Adds one configuration to the actions so far. -/
def register (settings : RegistrySettings) (extension : String) (c : ActionConfig)
    (actions : List Action) (s : Stores) : Except ActionError (List Action × Stores) := do
  c.check
  let a := actionOf settings extension c
  if actions.any (·.name == a.name) then
    .error (.validation s!"Duplicate action name '{a.name}' (from '{c.name}')")
  else
    return (insertAction a actions, ← openResource c.resource s)

/-- Adds configurations one after the other. -/
def registerAll (settings : RegistrySettings) (extension : String) :
    List ActionConfig → List Action → Stores → Except ActionError (List Action × Stores)
  | [], actions, s => .ok (actions, s)
  | c :: rest, actions, s => do
    let (actions, s) ← register settings extension c actions s
    registerAll settings extension rest actions s

/-- The registry of a list of configurations. -/
def build (settings : RegistrySettings) (extension : String) (configs : List ActionConfig)
    (s : Stores) : Except ActionError (Registry × Stores) := do
  let (actions, s) ← registerAll settings extension configs [] s
  return (⟨"action-resource::" ++ settings.resourceName, actions⟩, s)

/-- What is answered where nothing would run the loads. -/
def noScheduler : ActionError :=
  .internal ("Action registry needs a runtime: there is no reactor running, " ++
    "must be called from the context of a Tokio 1.x runtime")

/-- The registry of a list of configurations, if something is there to run the loads. -/
def start (scheduler : Scheduler) (settings : RegistrySettings) (extension : String)
    (configs : List ActionConfig) (s : Stores) : Except ActionError (Registry × Stores) :=
  match scheduler with
  | .absent => .error noScheduler
  | .running => build settings extension configs s

/-- The registry after all loads are over. -/
def settle (r : Registry) (loader : Loader) : Registry :=
  { r with actions := r.actions.map fun a =>
      { a with state := .ofOutcome (loader.load a.scriptPath) } }

/-- The actions that cannot run, each with the reason, in the order of their names. -/
def failures (r : Registry) : List (String × LoadError) :=
  r.actions.filterMap fun a =>
    match a.executable with
    | .ok _ => none
    | .error e => some (a.name, e)

end Registry

end ActionServer
