import ActionServer.Action.Registry

/-!
# Dispatching requests to actions

A path belongs to the actions if it is the route prefix or goes on from it with a slash; what comes
after the slash, without slashes at its end, is the name of the action. Such a request is answered
by the action or by one error: no such action, an internal action asked for from outside, a script
that is not there, a run that failed. Each run works on a domain of its own, whose view is the query
overridden by the body.
-/

namespace ActionServer

/-- A request with its parts decoded. -/
structure ActionRequest where
  method : String
  path : String
  query : Document
  body : Document
  internal : Bool
  deriving Repr, Inhabited

inductive Dispatch where
  /-- The path is no action path. -/
  | declined
  | completed (result : Except ActionError Document)

structure Dispatcher where
  routePrefix : String
  registry : Registry
  library : Library
  client : Option InternalClient

namespace Dispatcher

/-- The prefix that is used where none is chosen. -/
def defaultPrefix : String := "/action"

/-- A prefix without the slashes at its end. -/
def trimPrefix (given : String) : String :=
  Text.trimTrailingSlashes given

/-- The action name in a path: the empty name for the bare prefix, nothing for a path that is no
action path. -/
def actionName? (routePrefix path : String) : Option String :=
  match Text.stripPrefix? routePrefix path with
  | none => none
  | some rest =>
    if rest = "" then some ""
    else (Text.stripPrefix? "/" rest).map Text.trimTrailingSlashes

/-- The data that an action starts with. -/
def view (r : ActionRequest) : Document :=
  r.query.extend r.body

/-- Runs an action that may be run. -/
def execute (d : Dispatcher) (a : Action) (executable : Executable) (r : ActionRequest)
    (w : World) : Except ActionError Document × World :=
  let domain := Domain.new a.name (view r) a.persistence d.library d.client
  let context : Context :=
    { action := a.name, method := r.method, url := r.path, query := r.query, body := r.body
      internal := r.internal }
  let (ending, domain, w) := executable.run context domain w
  match ending.failure? with
  | none => (.ok domain.data, w)
  | some cause => (.error (.execution a.name cause), w)

/-- Answers a request to the action of a name. -/
def invoke (d : Dispatcher) (name : String) (r : ActionRequest) (w : World) :
    Except ActionError Document × World :=
  match d.registry.get? name with
  | none => (.error (.notFound r.path), w)
  | some a =>
    if a.internal && !r.internal then (.error (.forbidden name), w)
    else
      match a.executable with
      | .error cause => (.error (.load name cause), w)
      | .ok executable => d.execute a executable r w

/-- Answers a request or declines it. -/
def handle (d : Dispatcher) (r : ActionRequest) (w : World) : Dispatch × World :=
  match actionName? d.routePrefix r.path with
  | none => (.declined, w)
  | some name =>
    let (result, w) := d.invoke name r w
    (.completed result, w)

end Dispatcher

/-- What answers the requests that are not for actions. -/
structure BaseResource where
  handle : ActionRequest → Except ActionError Json

/-- A base resource that knows no path. -/
def BaseResource.none : BaseResource :=
  ⟨fun r => .error (.notFound r.path)⟩

end ActionServer
