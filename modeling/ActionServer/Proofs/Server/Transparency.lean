import ActionServer.Proofs.Json.RoundTrip
import ActionServer.Proofs.Server.Dispatch
import ActionServer.Server.Loopback

/-!
# Views through the own client

An action that is called through the server's own client answers with its view, and the caller gets
that view: the server wraps and prints it, the client reads and unwraps it. The envelope is one level
of nesting, so this holds of views that are nested one level less than what can be read.
-/

namespace ActionServer

/-! ### Envelopes -/

section

variable {v : Json}

/-- What the client reads is what was printed, if it can be read, and otherwise its text. -/
theorem CallSettings.payload_encode_text (whole : v.all Json.isWhole = true)
    (ordered : v.all Json.isOrdered = true) (unmarked : v.all Json.isUnmarked = true) :
    payload (Utf8.encode v.text) =
      if v.depth ≤ Json.nestingLimit then v else .string (Utf8.lossy (Utf8.encode v.text)) := by
  have present : (Utf8.encode v.text).isEmpty = false := by
    obtain ⟨first, others, written, -⟩ := Raw.opens_chars whole
    refine Bool.eq_false_iff.mpr fun empty => ?_
    have same : v.text = "" := by
      refine Utf8.encode_injective ((List.isEmpty_iff.mp empty).trans ?_)
      simp [Utf8.encode_eq]
    rw [Json.text, written] at same
    exact absurd (congrArg String.toList same) (by simp)
  rw [payload, present, Json.ofBytes?_encode_text whole ordered unmarked]
  by_cases fits : v.depth ≤ Json.nestingLimit
  · rw [if_pos fits, if_pos fits]
    rfl
  · rw [if_neg fits, if_neg fits]
    rfl

/-- An envelope is opened to what it was closed around, if that leaves a level of nesting for it;
otherwise its text is handed on. -/
theorem CallSettings.answered_envelope (whole : v.all Json.isWhole = true)
    (ordered : v.all Json.isOrdered = true) (unmarked : v.all Json.isUnmarked = true) :
    answered 200 (Utf8.encode (HttpResponse.envelope v).text) =
      .ok (if v.depth < Json.nestingLimit then v
        else .string (Utf8.lossy (Utf8.encode (HttpResponse.envelope v).text))) := by
  have shape : HttpResponse.envelope v = .object [("data", v)] := rfl
  have levels : (HttpResponse.envelope v).depth = v.depth + 1 := by
    simp [shape, Json.depth, Json.depthOfFields]
  have read := payload_encode_text (v := HttpResponse.envelope v)
    (by simp [shape, Json.all, Json.allFields, Json.isWhole, whole])
    (by simp [shape, Json.all, Json.allFields, Json.isOrdered, ordered])
    (by simp [shape, Json.all, Json.allFields, Json.isUnmarked, unmarked, Raw.wrapKey])
  rw [answered, read, levels]
  have success : Status.isSuccess 200 = true := rfl
  simp only [success, if_true, Nat.add_one_le_iff]
  by_cases fits : v.depth < Json.nestingLimit
  · simp [fits, shape, unwrap]
  · simp [fits, unwrap]

end

namespace Server

/-- The link that leads to a server: what it answers arrives whole. -/
def asLink (s : Server) : Link :=
  .up fun r w =>
    let (a, w) := s.respond (.ofOutgoing r) w
    (.whole a.status a.body, w)

/-- The loop of a server is the link to it with a shorter loop. -/
theorem loopback_succ (s : Server) (depth : Nat) :
    s.loopback (depth + 1) = (s.withLink (s.loopback depth)).asLink := rfl

variable {s : Server} {c : CallSettings} {method path : String} {body : Option Json}
  {outgoing : OutgoingRequest} {w after : World}

/-- A call is what the client makes of the answer to its request. -/
theorem request_asLink (sent : c.prepare method path body = .ok outgoing) :
    c.request s.asLink method path body w =
      (CallSettings.answered (s.respond (.ofOutgoing outgoing) w).1.status
        (s.respond (.ofOutgoing outgoing) w).1.body, (s.respond (.ofOutgoing outgoing) w).2) := by
  simp only [CallSettings.request, sent, asLink]
  exact CallSettings.send_of_redirected_eq_none rfl _

/-- A request that an action answers comes back as its view in an envelope. -/
private theorem request_eq_answered (sent : c.prepare method path body = .ok outgoing)
    (request : IsForActions (.ofOutgoing outgoing)) (answered : outgoing.method ≠ "CONNECT")
    {q : ActionRequest} (read : s.decode (.ofOutgoing outgoing) = .ok q) {view : Document}
    (completed : s.dispatcher.handle q w = (.completed (.ok view), after)) :
    c.request s.asLink method path body w = (CallSettings.answered 200
      (Utf8.encode (HttpResponse.envelope view.toJson).text), after) := by
  have served : s.dispatch (.ofOutgoing outgoing) w =
      (.ofJson 200 (HttpResponse.envelope view.toJson), after) := by
    simp only [dispatch, if_neg (Nat.not_lt.mpr request.size), read, perform, completed]
    rfl
  have answer := answers_of_dispatch request served
  rw [request_asLink sent, answer.line, answer.content (.inl answered), answer.left]

/-- **The view of an action reaches the caller of the client unchanged.** It may be nested one level
less than what can be read, and it is not marked as a wrapping; the method is one whose answers have
a body. -/
theorem request_eq_view (sent : c.prepare method path body = .ok outgoing)
    (request : IsForActions (.ofOutgoing outgoing)) (answered : outgoing.method ≠ "CONNECT")
    {q : ActionRequest} (read : s.decode (.ofOutgoing outgoing) = .ok q) {view : Document}
    (completed : s.dispatcher.handle q w = (.completed (.ok view), after))
    (whole : view.toJson.all Json.isWhole = true) (ordered : view.toJson.all Json.isOrdered = true)
    (unmarked : view.toJson.all Json.isUnmarked = true)
    (nested : view.toJson.depth < Json.nestingLimit) :
    c.request s.asLink method path body w = (.ok view.toJson, after) := by
  rw [request_eq_answered sent request answered read completed,
    CallSettings.answered_envelope whole ordered unmarked, if_pos nested]

/-! ### Views that do not come through -/

/-- An answer without a body is no object to the client. -/
theorem answered_empty_ne (status : Nat) (view : Document) :
    CallSettings.answered status [] ≠ .ok view.toJson := by
  have nothing : CallSettings.payload [] = .null := rfl
  simp only [CallSettings.answered, nothing]
  split
  · exact fun same => by cases Except.ok.inj same
  · nofun

/-- A server with one action, which leaves the same view whatever it is asked. -/
def showing (view : Document) : Server :=
  { settings := ⟨"127.0.0.1", 3000, [], 30, 30, none, "http://127.0.0.1:3000", none,
      ⟨"action", "actions", "lib", "bash", "sh", 30, .firstSpace⟩⟩
    dispatcher := ⟨"/action", ⟨"action-resource::action", [⟨"show", none, false, none, "show.sh",
      .ready ⟨fun _ d w => (.finished, { d with data := view }, w)⟩⟩]⟩, .disabled, none⟩
    base := .none, medium := .memory }

/-- The client of that server. -/
def showingClient : CallSettings :=
  callSettings (showing ∅).settings

/-- Whether a call of the action goes out, with a method in its written form and without a body. -/
def sends (method sentMethod : String) : Bool :=
  (showingClient.prepare method "/action/show" none).toOption.any fun o =>
    o.url.target = "/action/show" ∧ o.method = sentMethod ∧ o.body.isNone

/-- The action of the server is called and comes to its end. -/
structure Shows (method : String) (outgoing : OutgoingRequest) (q : ActionRequest)
    (view : Document) : Prop where
  sent : showingClient.prepare method "/action/show" none = .ok outgoing
  read : (showing view).decode (.ofOutgoing outgoing) = .ok q
  completed : ∀ w, (showing view).dispatcher.handle q w = (.completed (.ok view), w)

private theorem handle_showing (view : Document) {q : ActionRequest}
    (path : q.path = "/action/show") :
    (showing view).dispatcher.handle q w = (.completed (.ok view), w) := by
  have named : Dispatcher.actionName? "/action" "/action/show" = some "show" := by
    decide +kernel
  simp only [Dispatcher.handle, showing, path, named]
  rfl

private theorem exists_shows (method sentMethod : String) (view : Document)
    (ready : sends method sentMethod = true) :
    ∃ outgoing q, Shows method outgoing q view ∧ outgoing.method = sentMethod ∧
      (HttpRequest.ofOutgoing outgoing).path = "/action/show" ∧
      (HttpRequest.ofOutgoing outgoing).body = [] := by
  rw [sends] at ready
  cases sent : showingClient.prepare method "/action/show" none with
  | error e =>
    rw [sent] at ready
    cases ready
  | ok outgoing =>
    rw [sent] at ready
    obtain ⟨target, named, bodiless⟩ := of_decide_eq_true ready
    have bare : outgoing.body = none := Option.isNone_iff_eq_none.mp bodiless
    have path : (HttpRequest.ofOutgoing outgoing).path = "/action/show" := by
      simp only [HttpRequest.path, HttpRequest.visibleTarget, HttpRequest.ofOutgoing, target]
      decide +kernel
    have empty : (HttpRequest.ofOutgoing outgoing).body = [] := by
      simp only [HttpRequest.ofOutgoing, bare]
    have decoded : Percent.decode "/action/show" = .ok "/action/show" :=
      eq_ok_of_toOption (by decide +kernel)
    refine ⟨outgoing, (showing view).requestOf (.ofOutgoing outgoing) "/action/show" ∅,
      ⟨sent, ?_, fun w => handle_showing view rfl⟩, named, path, empty⟩
    simp only [decode, HttpRequest.decodedPath, path, decoded, HttpRequest.bodyDocument, empty]
    rfl

private theorem isForActions_of_post {r : HttpRequest} (method : r.method = "POST")
    (path : r.path = "/action/show") (empty : r.body = []) : IsForActions r := by
  refine ⟨?_, ?_, ?_⟩
  · rw [method]; decide
  · rw [path]; decide
  · rw [empty]; exact Nat.zero_le _

/-- A view with a field `data` of its own. -/
theorem request_eq_view_data :
    let inner : Json := .array [.ofNat 1, .object [], .string "\u00e9\n\""]
    let view : Document := ⟨[("data", .object [("data", inner)]), ("extra", .null)]⟩
    ∃ outgoing q, Shows "post" outgoing q view ∧ IsForActions (.ofOutgoing outgoing) ∧
      outgoing.method ≠ "CONNECT" ∧ view.toJson.all Json.isWhole = true ∧
      view.toJson.all Json.isOrdered = true ∧ view.toJson.all Json.isUnmarked = true ∧
      view.toJson.depth < Json.nestingLimit ∧
      ∀ w, showingClient.request (showing view).asLink "post" "/action/show" none w =
        (.ok view.toJson, w) := by
  intro inner view
  obtain ⟨outgoing, q, shows, method, path, empty⟩ :=
    exists_shows "post" "POST" view (by decide +kernel)
  have request : IsForActions (.ofOutgoing outgoing) := isForActions_of_post method path empty
  have answered : outgoing.method ≠ "CONNECT" := by rw [method]; decide
  have whole : view.toJson.all Json.isWhole = true := by decide +kernel
  have ordered : view.toJson.all Json.isOrdered = true := by decide +kernel
  have unmarked : view.toJson.all Json.isUnmarked = true := by decide +kernel
  have nested : view.toJson.depth < Json.nestingLimit := by decide +kernel
  exact ⟨outgoing, q, shows, request, answered, whole, ordered, unmarked, nested, fun w =>
    request_eq_view shows.sent request answered shows.read (shows.completed w) whole ordered
      unmarked nested⟩

/-- Objects within objects. -/
def tower : Nat → Json
  | 0 => .object []
  | n + 1 => .object [("a", tower n)]

/-- The action comes to its end with the view, and the caller gets something else. -/
def Misses (method : String) (view : Document) : Prop :=
  ∃ outgoing q, Shows method outgoing q view ∧ ∀ w,
    (showingClient.request (showing view).asLink method "/action/show" none w).1 ≠ .ok view.toJson

private theorem misses_of_answered {view : Document}
    (other : CallSettings.answered 200 (Utf8.encode (HttpResponse.envelope view.toJson).text) ≠
      .ok view.toJson) :
    Misses "POST" view := by
  obtain ⟨outgoing, q, shows, method, path, empty⟩ :=
    exists_shows "POST" "POST" view (by decide +kernel)
  have request : IsForActions (.ofOutgoing outgoing) := isForActions_of_post method path empty
  have answered : outgoing.method ≠ "CONNECT" := by rw [method]; decide
  refine ⟨outgoing, q, shows, fun w => ?_⟩
  rwa [request_eq_answered shows.sent request answered shows.read (shows.completed w)]

private theorem misses_of_bodiless {method : String} (view : Document)
    (ready : sends method method = true) (other : method ≠ "OPTIONS")
    (bodiless : HttpResponse.isBodiless method 200 = true) : Misses method view := by
  obtain ⟨outgoing, q, shows, named, path, empty⟩ := exists_shows method method view ready
  refine ⟨outgoing, q, shows, fun w => ?_⟩
  have asked : (HttpRequest.ofOutgoing outgoing).method = method := named
  have fits : ¬HttpResponse.bodyLimit < (HttpRequest.ofOutgoing outgoing).body.length := by
    simp [empty]
  have served : (showing view).dispatch (.ofOutgoing outgoing) w = (.ofData view.toJson, w) := by
    simp only [dispatch, if_neg fits, shows.read, perform, shows.completed]
    rfl
  have silent : ((showing view).delivered (.ofOutgoing outgoing) (.ofData view.toJson)).body = [] :=
    delivered_body_of_bodiless (by rw [asked]; exact bodiless)
  rw [request_asLink shows.sent,
    respond_of_dispatch (by rw [asked]; exact other) (by rw [path]; decide) served, silent]
  exact answered_empty_ne _ view

/-- A view does not come through that is nested as deeply as a body may be, nor one that is marked
as a wrapping, nor any that `HEAD` or `CONNECT` asks for. -/
theorem request_ne_view :
    (tower 126).all Json.isWhole = true ∧ Json.ofText? (tower 126).text = some (tower 126) ∧
      Misses "POST" ⟨[("a", tower 125)]⟩ ∧ Misses "POST" ⟨[(Raw.wrapKey, .string "1")]⟩ ∧
      Misses "HEAD" ∅ ∧ Misses "CONNECT" ∅ := by
  have whole : (tower 126).all Json.isWhole = true := by decide +kernel
  have ordered : (tower 126).all Json.isOrdered = true := by decide +kernel
  have unmarked : (tower 126).all Json.isUnmarked = true := by decide +kernel
  have levels : (tower 126).depth = 127 := by decide +kernel
  refine ⟨whole, ?_, misses_of_answered ?_, misses_of_answered ?_, ?_, ?_⟩
  · rw [Json.ofText?_text whole ordered unmarked, levels]
    rfl
  · -- The envelope is one level too many, so the text itself is handed on.
    have read := CallSettings.answered_envelope whole ordered unmarked
    rw [levels, if_neg (by decide)] at read
    have same : (⟨[("a", tower 125)]⟩ : Document).toJson = tower 126 := rfl
    rw [same, read, tower]
    nofun
  · have unwrapped : ((CallSettings.answered 200 (Utf8.encode (HttpResponse.envelope
        (.object [(Raw.wrapKey, .string "1")])).text)).toOption.bind Document.ofJson?).isNone := by
      decide +kernel
    intro same
    rw [Document.toJson] at same
    rw [same] at unwrapped
    cases unwrapped
  · exact misses_of_bodiless ∅ (by decide +kernel) (by decide) (by decide)
  · exact misses_of_bodiless ∅ (by decide +kernel) (by decide) (by decide)

end Server

end ActionServer
