import ActionServer.Proofs.Server.Transparency

/-!
# Errors through the own client

A request that ends in an error is answered with one flat object of two texts, a code and a message.
Its keys are fixed and nothing is nested in it, so whatever names, paths and reasons the message
quotes, it is read as it was printed. No status of an error tells of success, so the client takes no
error for a result: it hands on the status and the message.
-/

namespace ActionServer

namespace ServerError

/-- The fields of an error answer, in the order in which they are printed. -/
theorem body_eq (e : ServerError) :
    e.body = .object [("code", .string e.code), ("error", .string e.publicMessage)] := by
  -- The two keys are printed in their own order, not in the order they are written in.
  have other : "code" ≠ "error" := by decide
  have before : "code" < "error" := by decide +kernel
  simp only [body, Json.ofFields, Document.ofFields, Document.insertAll, Document.insert,
    Document.insertField, Document.empty, List.foldl, if_neg other, if_pos before, Document.toJson]

theorem le_status (e : ServerError) : 400 ≤ e.status := by
  cases e with
  | badRequest => exact Nat.le_refl _
  | action cause => cases cause <;> exact of_decide_eq_true rfl

theorem isSuccess_status (e : ServerError) : Status.isSuccess e.status = false :=
  Status.isSuccess_of_le e.le_status

/-- A caller is told the error's own text, with two exceptions. -/
theorem publicMessage_eq (e : ServerError) :
    e.publicMessage = match e with
      | .action (.validation reason) | .badRequest reason => reason
      | .action (.internal _) => "An internal error occurred"
      | e => e.message := by
  cases e with
  | badRequest => rfl
  | action cause => cases cause <;> rfl

section

variable (e : ServerError)

theorem all_isWhole_body : e.body.all Json.isWhole = true := by
  rw [body_eq]
  rfl

theorem all_isOrdered_body : e.body.all Json.isOrdered = true := by
  rw [body_eq, Json.all, Json.isOrdered_pair (by decide +kernel)]
  rfl

theorem all_isUnmarked_body : e.body.all Json.isUnmarked = true := by
  rw [body_eq]
  simp [Json.all, Json.allFields, Json.isUnmarked, Raw.wrapKey]

theorem depth_body_le : e.body.depth ≤ Json.nestingLimit := by
  rw [body_eq]
  change 1 ≤ Json.nestingLimit
  decide

/-- The answer of an error is the object that it was told in. -/
theorem ofBytes?_ofError : Json.ofBytes? (HttpResponse.ofError e).body =
    some (.object [("code", .string e.code), ("error", .string e.publicMessage)]) := by
  have printed : (HttpResponse.ofError e).body = Utf8.encode e.body.text := rfl
  rw [printed, Json.ofBytes?_encode_text e.all_isWhole_body e.all_isOrdered_body
    e.all_isUnmarked_body, if_pos e.depth_body_le, e.body_eq]

end

end ServerError

namespace CallSettings

/-- The client reads the object that the error was told in. -/
theorem payload_ofError (e : ServerError) : payload (HttpResponse.ofError e).body = e.body := by
  have printed : (HttpResponse.ofError e).body = Utf8.encode e.body.text := rfl
  rw [printed, payload_encode_text e.all_isWhole_body e.all_isOrdered_body e.all_isUnmarked_body,
    if_pos e.depth_body_le]

theorem answered_ofError (e : ServerError) :
    answered (HttpResponse.ofError e).status (HttpResponse.ofError e).body =
      .error (.status e.status e.publicMessage) := by
  have line : (HttpResponse.ofError e).status = e.status := rfl
  have message : errorMessage? e.body = some e.publicMessage := by
    have other : ("error" == "code") = false := by decide
    rw [e.body_eq, errorMessage?]
    simp only [List.lookup_cons, other, beq_self_eq_true]
  simp only [answered, line, e.isSuccess_status, Bool.false_eq_true, if_false, payload_ofError,
    message, Option.getD_some]

end CallSettings

namespace Server

/-- **An error reaches the caller of the client with its status and its message.** Whatever the error
and the texts in it are, a call that is answered with it fails with the status of the answer and with
the text in the answer's field `error`. That is the error's own text; of a refusal it is the bare
reason, and an internal error has one text for all its details. -/
theorem request_eq_status (e : ServerError) :
    (∀ {c : CallSettings} {method path : String} {body : Option Json} {outgoing : OutgoingRequest}
      {answer : OutgoingRequest → World → Arrival × World} {w after : World},
      c.prepare method path body = .ok outgoing →
      answer outgoing w =
        (.whole (HttpResponse.ofError e).status (HttpResponse.ofError e).body, after) →
      c.request (.up answer) method path body w = (.error (.status e.status e.publicMessage), after)) ∧
    Json.ofBytes? (HttpResponse.ofError e).body =
      some (.object [("code", .string e.code), ("error", .string e.publicMessage)]) ∧
    e.publicMessage = match e with
      | .action (.validation reason) | .badRequest reason => reason
      | .action (.internal _) => "An internal error occurred"
      | e => e.message := by
  refine ⟨?_, e.ofBytes?_ofError, e.publicMessage_eq⟩
  intro c method path body outgoing answer w after sent answered
  simp only [CallSettings.request, sent]
  rw [CallSettings.send_of_redirected_eq_none (by rw [answered]; rfl), answered]
  exact congrArg (·, after) (CallSettings.answered_ofError e)

/-- A script that does not load, for a reason with a quote, a line feed and a NUL in it. -/
theorem request_eq_status_quoted :
    let e : ServerError := .action (.load "a\"b" (.invalid "line 3:\n\x00 \u00e9\\"))
    let answer := fun (_ : OutgoingRequest) (w : World) =>
      (Arrival.whole (HttpResponse.ofError e).status (HttpResponse.ofError e).body, w)
    ∃ outgoing, showingClient.prepare "post" "/action/show" none = .ok outgoing ∧
      ∀ w, showingClient.request (.up answer) "post" "/action/show" none w =
        (.error (.status 503
          "Failed to load action 'a\"b': Script rejected: line 3:\n\x00 \u00e9\\"), w) := by
  intro e answer
  obtain ⟨outgoing, sent, -⟩ := exists_ok_of_any
    (r := showingClient.prepare "post" "/action/show" none) (p := fun _ => true)
    (by decide +kernel)
  exact ⟨outgoing, sent, fun w => (request_eq_status e).1 sent rfl⟩

/-- The server's own refusals are answers of this kind: what a request to an action is refused with
is what the caller is told. -/
theorem request_of_dispatch_eq_ofError {s : Server} {c : CallSettings} {method path : String}
    {body : Option Json} {outgoing : OutgoingRequest} {w after : World} {e : ServerError}
    (sent : c.prepare method path body = .ok outgoing)
    (request : IsForActions (.ofOutgoing outgoing))
    (refused : s.dispatch (.ofOutgoing outgoing) w = (.ofError e, after)) :
    c.request s.asLink method path body w = (.error (.status e.status e.publicMessage), after) := by
  have answer := answers_of_dispatch request refused
  rw [request_asLink sent, answer.line, answer.content (.inr e.le_status), answer.left]
  exact congrArg (·, after) (CallSettings.answered_ofError e)

end Server

end ActionServer
