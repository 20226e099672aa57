import ActionServer.Proofs.Action.Run
import ActionServer.Proofs.Outcome
import ActionServer.Proofs.Server.Layers

/-!
# The way of a request

A request that is not for the server itself passes five stages, and the first that it does not pass
answers it: its parts are decoded, the action is found, it is open to the request, it is loaded, and
it runs. Only the last stage touches the world. `answers_of_dispatch` takes origins and marks off an
answer, so that the stages can be read off the dispatcher. All of this is given a limited time.
-/

namespace ActionServer

/-- The body of an error answer. -/
def errorBody (message code : String) : Json :=
  Json.ofFields [("error", .string message), ("code", .string code)]

namespace HttpRequest

theorem decodedPath_eq_error {r : HttpRequest} {e : ServerError}
    (refused : r.decodedPath = .error e) : ∃ reason, e = .badRequest reason := by
  simp only [decodedPath] at refused
  split at refused
  · cases refused
  · cases refused
    exact ⟨_, rfl⟩

theorem bodyDocument_eq_error {r : HttpRequest} {e : ServerError}
    (refused : r.bodyDocument = .error e) : ∃ reason, e = .badRequest reason := by
  simp only [bodyDocument] at refused
  split at refused
  · cases refused
  · split at refused
    · cases refused
    · cases refused
      exact ⟨_, rfl⟩
    · cases refused
      exact ⟨_, rfl⟩

end HttpRequest

namespace Dispatcher

/-- The action that a decoded path leads to. -/
def actionAt? (d : Dispatcher) (path : String) : Option Action :=
  (actionName? d.routePrefix path).bind d.registry.get?

private theorem name_of_get? {g : Registry} {name : String} {a : Action}
    (found : g.get? name = some a) : a.name = name := by
  simpa using List.find?_some found

/-- The request of an action is handled by its invocation. -/
theorem handle_of_actionAt? {d : Dispatcher} {r : ActionRequest} {a : Action}
    (found : d.actionAt? r.path = some a) (w : World) :
    d.registry.get? a.name = some a ∧
      d.handle r w = (.completed (d.invoke a.name r w).1, (d.invoke a.name r w).2) := by
  obtain ⟨name, named, known⟩ := Option.bind_eq_some_iff.mp found
  obtain rfl := name_of_get? known
  exact ⟨known, by simp only [handle, named]⟩

section

variable {d : Dispatcher} {a : Action} {r : ActionRequest} {w : World}

theorem invoke_forbidden (known : d.registry.get? a.name = some a)
    (closed : a.internal = true ∧ r.internal = false) :
    d.invoke a.name r w = (.error (.forbidden a.name), w) := by
  simp only [invoke, known, closed.1, closed.2]
  rfl

private theorem admitted (permitted : a.internal = true → r.internal = true) :
    (a.internal && !r.internal) = false := by
  cases closed : a.internal with
  | false => rfl
  | true => simp [permitted closed]

theorem invoke_unloaded (known : d.registry.get? a.name = some a)
    (permitted : a.internal = true → r.internal = true) {cause : LoadError}
    (unloaded : a.executable = .error cause) :
    d.invoke a.name r w = (.error (.load a.name cause), w) := by
  simp only [invoke, known, admitted permitted, Bool.false_eq_true, if_false, unloaded]

theorem invoke_loaded (known : d.registry.get? a.name = some a)
    (permitted : a.internal = true → r.internal = true) {executable : Executable}
    (loaded : a.executable = .ok executable) :
    d.invoke a.name r w =
      (outcome a.name (d.runOnce a executable r w).1 (d.runOnce a executable r w).2.1,
        (d.runOnce a executable r w).2.2) := by
  simp only [invoke, known, admitted permitted, Bool.false_eq_true, if_false, loaded, execute_eq]

end

end Dispatcher

namespace Server

/-- The request that the dispatcher gets, once path and body are decoded. -/
def requestOf (s : Server) (r : HttpRequest) (path : String) (body : Document) : ActionRequest :=
  { method := r.method, path, query := r.queryDocument, body, internal := s.isInternal r }

/-- The status, body and world of an answer. HTTP has no body for a `CONNECT` that succeeds. -/
structure Answers (method : String) (given : HttpResponse × World) (status : Nat) (body : Json)
    (after : World) : Prop where
  line : given.1.status = status
  content : method ≠ "CONNECT" ∨ 400 ≤ status → given.1.body = Utf8.encode body.text
  tunnel : method = "CONNECT" → status = 200 → given.1.body = []
  left : given.2 = after

/-- A request for the server's actions, with a body that is taken in. -/
structure IsForActions (r : HttpRequest) : Prop where
  method : r.method ≠ "OPTIONS" ∧ r.method ≠ "HEAD"
  path : r.path ≠ "/actions" ∧ r.path ≠ "/health"
  size : r.body.length ≤ HttpResponse.bodyLimit

variable {s : Server} {r : HttpRequest} {w : World}

/-- What the dispatcher answers goes through the layers around it. -/
theorem respond_of_dispatch (other : r.method ≠ "OPTIONS") (foreign : r.path ∉ ownPaths)
    {a : HttpResponse} {after : World} (served : s.dispatch r w = (a, after)) :
    s.respond r w = (s.delivered r a, after) := by
  rw [respond_of_other other, serve, if_neg (by simpa using foreign), served]

/-- What the dispatcher answers comes out unchanged, up to headers and the body of a `CONNECT`. -/
theorem answers_of_dispatch (request : IsForActions r) {status : Nat} {body : Json} {after : World}
    (served : s.dispatch r w = (.ofJson status body, after)) :
    Answers r.method (s.respond r w) status body after := by
  have foreign : r.path ∉ ownPaths := by
    simp [ownPaths, request.path.1, request.path.2]
  rw [respond_of_dispatch request.method.1 foreign served]
  constructor
  · exact delivered_status s r _
  · intro kept
    exact delivered_body (HttpResponse.isBodiless_eq_false request.method.2 kept)
  · rintro tunnel rfl
    refine delivered_body_of_bodiless ?_
    rw [tunnel]
    rfl
  · rfl

/-- A request that cannot be read is refused. -/
private theorem answers_unread (request : IsForActions r) {reason : String}
    (unread : s.decode r = .error (.badRequest reason)) :
    Answers r.method (s.respond r w) 400 (errorBody reason "BAD_REQUEST") w := by
  refine answers_of_dispatch request ?_
  simp only [dispatch, if_neg (Nat.not_lt.mpr request.size), unread]
  rfl

/-- A path or a body that cannot be read is the error of the request; the path comes first. -/
private theorem decode_eq_badRequest {e : ServerError}
    (refused : r.decodedPath = .error e ∨ r.bodyDocument = .error e) :
    ∃ reason, s.decode r = .error (.badRequest reason) := by
  cases readPath : r.decodedPath with
  | error e' =>
    obtain ⟨reason, rfl⟩ := HttpRequest.decodedPath_eq_error readPath
    exact ⟨reason, by simp only [decode, readPath]; rfl⟩
  | ok path =>
    rw [readPath] at refused
    have readBody := refused.resolve_left nofun
    obtain ⟨reason, rfl⟩ := HttpRequest.bodyDocument_eq_error readBody
    exact ⟨reason, by simp only [decode, readPath, readBody]; rfl⟩

section

variable {path : String} {body : Document} {after : World}

theorem decode_eq_ok (readPath : r.decodedPath = .ok path)
    (readBody : r.bodyDocument = .ok body) : s.decode r = .ok (s.requestOf r path body) := by
  simp only [decode, readPath, readBody]
  rfl

private theorem answers_error (request : IsForActions r) (readPath : r.decodedPath = .ok path)
    (readBody : r.bodyDocument = .ok body) {e : ActionError}
    (performed : s.perform (s.requestOf r path body) w = (.error e, after)) :
    Answers r.method (s.respond r w) (ServerError.action e).status
      (errorBody (ServerError.action e).publicMessage (ServerError.action e).code) after := by
  refine answers_of_dispatch request ?_
  simp only [dispatch, if_neg (Nat.not_lt.mpr request.size), decode_eq_ok readPath readBody,
    performed]
  rfl

private theorem answers_ok (request : IsForActions r) (readPath : r.decodedPath = .ok path)
    (readBody : r.bodyDocument = .ok body) {v : Json}
    (performed : s.perform (s.requestOf r path body) w = (.ok v, after)) :
    Answers r.method (s.respond r w) 200 (Json.ofFields [("data", v)]) after := by
  refine answers_of_dispatch request ?_
  simp only [dispatch, if_neg (Nat.not_lt.mpr request.size), decode_eq_ok readPath readBody,
    performed]
  rfl

end

/-- What a request leads to that no action is there for. -/
private theorem perform_unknown (base : s.base = .none) {q : ActionRequest}
    (unknown : s.dispatcher.actionAt? q.path = none) :
    s.perform q w = (.error (.notFound q.path), w) := by
  simp only [Dispatcher.actionAt?, Option.bind_eq_none_iff] at unknown
  simp only [perform, Dispatcher.handle]
  cases named : Dispatcher.actionName? s.dispatcher.routePrefix q.path with
  | none => simp [base, BaseResource.none]
  | some name => simp [Dispatcher.invoke, unknown name named, Except.map]

/-- What a request to an action leads to. -/
theorem perform_known {q : ActionRequest} {a : Action}
    (found : s.dispatcher.actionAt? q.path = some a) :
    s.perform q w = ((s.dispatcher.invoke a.name q w).1.map Document.toJson,
      (s.dispatcher.invoke a.name q w).2) := by
  obtain ⟨-, handled⟩ := Dispatcher.handle_of_actionAt? found w
  simp only [perform, handled]

/-- **The first stage that a request does not pass answers it.** Where one of the first four does,
nothing has run and nothing has changed. Otherwise the executable of the action has run once, on
the query overridden by the body, and the answer is its failure or the view that it leaves. The loads
are over: an action that is pending has one that died, and a request that had to wait has spent its
time on that (`Traffic.after_arrive_resume_run`). A request that is late is told so instead; a run
that has begun is not given up for that. -/
theorem respondIn_stages (base : s.base = .none) (request : IsForActions r) (pace : Pace) :
    (s.timeLimit < pace.finish →
      (s.respondIn pace r w).1.status = 408 ∧ (s.respondIn pace r w).1.body = [] ∧
        (s.respondIn pace r w).2 =
          if pace.start ≤ s.timeLimit then (s.respondIn .immediate r w).2 else w) ∧
    (pace.finish ≤ s.timeLimit →
      (∀ e, r.decodedPath = .error e ∨ r.bodyDocument = .error e →
        ∃ reason, Answers r.method (s.respondIn pace r w) 400 (errorBody reason "BAD_REQUEST") w) ∧
      ∀ path body, r.decodedPath = .ok path → r.bodyDocument = .ok body →
        (s.dispatcher.actionAt? path = none →
          Answers r.method (s.respondIn pace r w) 404
            (errorBody s!"No action found for path {path}" "ACTION_NOT_FOUND") w) ∧
        ∀ a, s.dispatcher.actionAt? path = some a →
          (a.internal = true ∧ s.isInternal r = false →
            Answers r.method (s.respondIn pace r w) 403 (errorBody
              s!"Action '{a.name}' is only available to internal requests" "FORBIDDEN") w) ∧
          ((a.internal = true → s.isInternal r = true) →
            (∀ cause, a.executable = .error cause →
              Answers r.method (s.respondIn pace r w) 503 (errorBody
                s!"Failed to load action '{a.name}': {cause.message}" "ACTION_LOAD_FAILED") w) ∧
            ∀ executable, a.executable = .ok executable →
              let (ending, domain, after) :=
                s.dispatcher.runOnce a executable (s.requestOf r path body) w
              (∀ failure, ending.failure? = some failure →
                Answers r.method (s.respondIn pace r w) 500 (errorBody
                  s!"Failed executing action '{a.name}': {failure.message}" "ACTION_FAILED") after) ∧
              (ending.failure? = none →
                Answers r.method (s.respondIn pace r w) 200
                  (Json.ofFields [("data", domain.data.toJson)]) after))) := by
  refine ⟨fun late => ?_, fun inTime => ?_⟩
  · rw [respondIn_of_late request.method.1 late]
    exact ⟨delivered_status s r _, delivered_timedOut_body, rfl⟩
  rw [respondIn_of_inTime inTime]
  refine ⟨fun e refused => ?_, fun path body readPath readBody => ⟨fun unknown => ?_, ?_⟩⟩
  · obtain ⟨reason, unread⟩ := decode_eq_badRequest (s := s) refused
    exact ⟨reason, answers_unread request unread⟩
  · exact answers_error request readPath readBody (perform_unknown base unknown)
  intro a found
  have performed := perform_known (s := s) (w := w) (q := s.requestOf r path body) found
  obtain ⟨known, -⟩ := Dispatcher.handle_of_actionAt? (r := s.requestOf r path body) found w
  refine ⟨fun closed => ?_, fun permitted => ⟨fun cause unloaded => ?_, fun executable loaded => ?_⟩⟩
  · rw [Dispatcher.invoke_forbidden known closed] at performed
    exact answers_error request readPath readBody performed
  · rw [Dispatcher.invoke_unloaded known permitted unloaded] at performed
    exact answers_error request readPath readBody performed
  · -- the only stage with a run, whose world is the one that is left
    rw [Dispatcher.invoke_loaded known permitted loaded] at performed
    rcases run : s.dispatcher.runOnce a executable (s.requestOf r path body) w with
      ⟨ending, domain, after⟩
    rw [run] at performed
    refine ⟨fun failure failed => ?_, fun finished => ?_⟩
    · rw [Dispatcher.outcome_of_failure failed] at performed
      exact answers_error request readPath readBody performed
    · rw [Dispatcher.outcome_of_finished finished] at performed
      exact answers_ok request readPath readBody performed

/-- A server with one action, which is open to all and sets a field. -/
private def greeting : Server where
  settings := ⟨"127.0.0.1", 3000, [], 30, 30, none, "http://127.0.0.1", none,
    ⟨"action", "actions", "lib", "bash", "sh", 30, .firstSpace⟩⟩
  dispatcher := ⟨"/action", ⟨"action-resource::action", [⟨"greet", none, false, none, "greet.sh",
    .ready ⟨fun _ d w => (.finished, d.set "greeted" (.bool true), w)⟩⟩]⟩, .disabled, none⟩
  base := .none
  medium := .memory

/-- The action is run in the last millisecond. -/
theorem respondIn_stages_greeting :
    let pace : Pace := ⟨10, 30000, by decide⟩
    let r : HttpRequest := ⟨"POST", "/action/greet?to=you", [], []⟩
    let w := World.ofStores (.new (fun _ _ => "x") .memory {})
    greeting.base = .none ∧ IsForActions r ∧ pace.finish ≤ greeting.timeLimit ∧
      Answers "POST" (greeting.respondIn pace r w) 200 (Json.ofFields [("data",
        ((r.queryDocument.extend ∅).insert "greeted" (.bool true)).toJson)]) w := by
  intro pace r w
  have request : IsForActions r := ⟨by decide, by decide +kernel, by decide⟩
  have readPath : r.decodedPath = .ok "/action/greet" := eq_ok_of_toOption (by decide +kernel)
  have readBody : r.bodyDocument = .ok ∅ := rfl
  have named : Dispatcher.actionName? "/action" "/action/greet" = some "greet" := by
    decide +kernel
  obtain ⟨greet, found, same⟩ : ∃ greet, greeting.dispatcher.actionAt? "/action/greet" = some greet ∧
      greet = ⟨"greet", none, false, none, "greet.sh",
        .ready ⟨fun _ d w => (.finished, d.set "greeted" (.bool true), w)⟩⟩ := by
    refine ⟨_, ?_, rfl⟩
    simp only [Dispatcher.actionAt?, greeting, named]
    rfl
  have inTime : pace.finish ≤ greeting.timeLimit := by decide
  have stages := ((respondIn_stages (s := greeting) (w := w) rfl request pace).2 inTime).2 _ _
    readPath readBody
  subst same
  exact ⟨rfl, request, inTime, (((stages.2 _ found).2 nofun).2 _ rfl).2 rfl⟩

/-- The answer to a `CONNECT` that succeeds is without the view, and a request that is late by a
millisecond is not told of it either. -/
theorem respondIn_ne_view :
    let connect : HttpRequest := ⟨"CONNECT", "/action/greet", [], []⟩
    let post : HttpRequest := ⟨"POST", "/action/greet", [], []⟩
    let w := World.ofStores (.new (fun _ _ => "x") .memory {})
    let view := Utf8.encode (Json.ofFields [("data", .object [("greeted", .bool true)])]).text
    greeting.base = .none ∧
      (IsForActions connect ∧ (greeting.respond connect w).1.status = 200 ∧
        (greeting.respond connect w).1.body ≠ view) ∧
      (IsForActions post ∧ (greeting.respond post w).1.body = view ∧
        (greeting.respondIn ⟨10, 30001, by decide⟩ post w).1.status = 408) := by
  refine ⟨rfl, ⟨⟨by decide, by decide +kernel, by decide⟩, ?_, ?_⟩,
    ⟨by decide, by decide +kernel, by decide⟩, ?_, ?_⟩ <;> decide +kernel

end Server

end ActionServer
