import ActionServer.Action.Dispatcher
import ActionServer.Client.Call
import ActionServer.Server.Router

/-!
# The server

Two paths are the server's own: the list of actions and the report on its health. Every other
request goes to the dispatcher, with its path, query and body decoded in this order, and what the
dispatcher declines goes to the base resource. All this has to be done in the time that the settings
give to a request.

The loads of a server are over here, and an action that is pending then has a load that died. Requests
that come earlier wait for the load of their action, as `Traffic` has it.
-/

namespace ActionServer

structure Server where
  settings : ServerSettings
  dispatcher : Dispatcher
  base : BaseResource
  medium : Medium

/-- How long a request takes, in milliseconds: until nothing is left of it but the run of an
executable, and until its answer is there. -/
structure Pace where
  start : Nat
  finish : Nat
  ordered : start ≤ finish

/-- A request that takes no time. -/
def Pace.immediate : Pace := ⟨0, 0, Nat.le_refl 0⟩

/-- Why a server is not set up. -/
inductive SetupError where
  | action (cause : ActionError)
  /-- The router cannot be put together, which in accepted settings only its origins prevent. -/
  | origins
  deriving DecidableEq, Repr

namespace Server

/-- The settings of the client that calls the server itself. -/
def callSettings (s : ServerSettings) : CallSettings :=
  .new s.internalBaseUrl s.internalSecret

/-- Registers the actions and puts the server together; the scripts are not loaded yet. -/
def build (settings : ServerSettings) (files : FileSystem) (link : Link) (extension : String)
    (configs : List ActionConfig) (base : BaseResource) (stores : Stores) :
    Except SetupError (Server × Stores) :=
  match Registry.build settings.actions.registry extension configs stores with
  | .error e => .error (.action e)
  | .ok (registry, stores) =>
    match Router.build settings with
    | none => .error .origins
    | some _ =>
      .ok ({
        settings
        dispatcher := {
          routePrefix := Dispatcher.trimPrefix settings.actions.routePrefix
          registry
          library := ⟨some settings.actions.libDir, files⟩
          client := some ((callSettings settings).client link) }
        base
        medium := stores.medium }, stores)

/-- The server after all loads are over. -/
def settle (s : Server) (loader : Loader) : Server :=
  { s with dispatcher := { s.dispatcher with registry := s.dispatcher.registry.settle loader } }

/-- Whether a request carries the secret of the server. -/
def isInternal (s : Server) (r : HttpRequest) : Bool :=
  r.isInternal s.settings.internalSecret

/-- What the list of actions tells of an action. -/
def summary (a : Action) : Json :=
  Json.ofFields <|
    [("name", .string a.name), ("internal", .bool a.internal), ("state", .string a.state.label)] ++
      (a.description.toList.map fun d => ("description", .string d)) ++
      (a.resource.toList.map fun r => ("resource", .string r))

/-- The list of actions; internal ones are told to internal callers only. -/
def listing (s : Server) (r : HttpRequest) : HttpResponse :=
  let shown := s.dispatcher.registry.actions.filter fun a => s.isInternal r || !a.internal
  .ofData (.array (shown.map summary))

/-- The version that the server reports. -/
def version : String := "0.1.0"

/-- The report on the server's health. -/
def health (s : Server) : HttpResponse :=
  .ofJson 200 (Json.ofFields [
    ("status", .string (if s.medium.isHealthy then "ok" else "degraded")),
    ("version", .string version),
    ("actions", .ofNat s.dispatcher.registry.actions.length),
    ("store", .string s.medium.kind),
    ("store_healthy", .bool s.medium.isHealthy)])

/-- The decoded form of a request. -/
def decode (s : Server) (r : HttpRequest) : Except ServerError ActionRequest := do
  let path ← r.decodedPath
  let query := r.queryDocument
  let body ← r.bodyDocument
  return { method := r.method, path, query, body, internal := s.isInternal r }

/-- What a decoded request leads to. -/
def perform (s : Server) (r : ActionRequest) (w : World) : Except ActionError Json × World :=
  match s.dispatcher.handle r w with
  | (.completed result, w) => (result.map Document.toJson, w)
  | (.declined, w) => (s.base.handle r, w)

/-- Answers a request through the dispatcher. -/
def dispatch (s : Server) (r : HttpRequest) (w : World) : HttpResponse × World :=
  if r.body.length > HttpResponse.bodyLimit then (.tooLarge, w)
  else
    match s.decode r with
    | .error e => (.ofError e, w)
    | .ok request =>
      match s.perform request w with
      | (.ok v, w) => (.ofData v, w)
      | (.error e, w) => (.ofError (.action e), w)

/-- The paths that the server answers itself, as they are written in a request. -/
def ownPaths : List String := ["/actions", "/health"]

/-- Answers a request for one of the server's own paths. -/
def serveOwn (s : Server) (r : HttpRequest) : HttpResponse :=
  if r.method != "GET" && r.method != "HEAD" then .methodNotAllowed
  else if r.path = "/actions" then s.listing r
  else s.health

/-- Answers a request that is no question about origins. -/
def serve (s : Server) (r : HttpRequest) (w : World) : HttpResponse × World :=
  if ownPaths.contains r.path then (s.serveOwn r, w) else s.dispatch r w

/-- The time that a request has, in milliseconds. -/
def timeLimit (s : Server) : Nat := 1000 * s.settings.requestTimeoutSecs

/-- Answers a request that is no question about origins, if there is time for it. A run that has begun
when the time is up goes on to its end, and its result is dropped. -/
def serveIn (s : Server) (pace : Pace) (r : HttpRequest) (w : World) : HttpResponse × World :=
  if pace.finish ≤ s.timeLimit then s.serve r w
  else (.timedOut, if pace.start ≤ s.timeLimit then (s.serve r w).2 else w)

/-- Answers a request. -/
def respondIn (s : Server) (pace : Pace) (r : HttpRequest) (w : World) : HttpResponse × World :=
  let origins := s.settings.corsOrigins
  if Origins.isQuestion r then (Origins.answer origins (ownPaths.contains r.path) r, w)
  else
    let (a, w) := s.serveIn pace r w
    (Origins.addTo origins r ((a.bodyFor r.method).markFor r), w)

/-- Answers a request that is in time. -/
def respond (s : Server) (r : HttpRequest) (w : World) : HttpResponse × World :=
  s.respondIn .immediate r w

end Server

/-- A base resource that gives requests back. -/
def BaseResource.echo : BaseResource :=
  ⟨fun r => .ok (Json.ofFields [
    ("method", .string r.method), ("path", .string r.path), ("query", r.query.toJson),
    ("body", r.body.toJson), ("internal", .bool r.internal)])⟩

/-- A base resource with one answer. -/
def BaseResource.constant (result : Except ActionError Json) : BaseResource :=
  ⟨fun _ => result⟩

end ActionServer
