import ActionServer.Proofs.Server.Layers
import ActionServer.Proofs.Server.Refusals

/-!
# The format of errors

A handler ends in a result or in an error, and every error is told in one format: an object of two
texts, its code and its message. The format is that of the handlers. What is turned away before a
handler has seen it is not told in it, nor what is given up because its time is up, and neither is an
error where the method asks for no body.
-/

namespace ActionServer

/-- The body is an object of two texts, the code and the message of an error, and of nothing else. -/
def HttpResponse.TellsError (a : HttpResponse) (code message : String) : Prop :=
  Json.ofBytes? a.body = some (.object [("code", .string code), ("error", .string message)])

/-- A request that a handler gets to see: an own path serves two methods, and a body for another path
has a size that is taken in. -/
structure HttpRequest.IsHandled (r : HttpRequest) : Prop where
  served : r.path ∈ Server.ownPaths → r.method = "GET" ∨ r.method = "HEAD"
  fits : r.path ∉ Server.ownPaths → r.body.length ≤ HttpResponse.bodyLimit

namespace Server

variable {s : Server} {r : HttpRequest}

theorem status_serveOwn (served : r.method = "GET" ∨ r.method = "HEAD") :
    (s.serveOwn r).status = 200 := by
  have known : (r.method != "GET" && r.method != "HEAD") = false := by
    rcases served with get | head
    · simp [get]
    · simp [head]
  simp only [serveOwn, known, Bool.false_eq_true, if_false]
  split <;> rfl

/-- The dispatcher ends in a result or in an error. -/
theorem dispatch_outcome (fits : r.body.length ≤ HttpResponse.bodyLimit) (w : World) :
    (∃ v, (s.dispatch r w).1 = .ofData v) ∨ ∃ e, (s.dispatch r w).1 = .ofError e := by
  simp only [dispatch, if_neg (Nat.not_lt.mpr fits)]
  split
  · exact .inr ⟨_, rfl⟩
  · split
    · exact .inl ⟨_, rfl⟩
    · exact .inr ⟨_, rfl⟩

/-- Where a handler sees the request, all goes well or an error is told. -/
theorem serve_outcome (handled : r.IsHandled) (w : World) :
    (s.serve r w).1.status = 200 ∨ ∃ e, (s.serve r w).1 = .ofError e := by
  by_cases own : r.path ∈ ownPaths
  · refine .inl ?_
    rw [serve, if_pos (by simpa using own)]
    exact status_serveOwn (handled.served own)
  · rw [serve, if_neg (by simpa using own)]
    rcases dispatch_outcome (s := s) (handled.fits own) w with ⟨v, done⟩ | failed
    · exact .inl (by rw [done]; rfl)
    · exact .inr failed

/-- **Every error of the handlers is told in one format.** If a request that a handler gets to see, and
has the time for, is answered with a status of 400 or more, this is the status of an error. Unless the
method is `HEAD`, the body is then the text of an object that has the code and the message of the
error and nothing else. -/
theorem respondIn_tellsError (handled : r.IsHandled) {pace : Pace}
    (inTime : pace.finish ≤ s.timeLimit) {w : World}
    (failed : 400 ≤ (s.respondIn pace r w).1.status) :
    ∃ e : ServerError, (s.respondIn pace r w).1.status = e.status ∧
      (r.method ≠ "HEAD" →
        (s.respondIn pace r w).1.body = Utf8.encode e.body.text ∧
        (s.respondIn pace r w).1.TellsError e.code e.publicMessage) := by
  rw [respondIn_of_inTime inTime] at failed ⊢
  by_cases question : r.method = "OPTIONS"
  · -- a question about origins is never refused
    rw [respond_of_question question] at failed
    exact absurd failed (show ¬400 ≤ 200 by decide)
  rw [respond_of_other question, delivered_status] at failed
  rcases serve_outcome (s := s) handled w with well | ⟨e, told⟩
  · rw [well] at failed
    exact absurd failed (by decide)
  refine ⟨e, ?_, fun head => ?_⟩
  · rw [respond_of_other question, delivered_status, told]
    rfl
  · -- of the answers to `CONNECT` only those that tell of success have no body
    have kept : HttpResponse.isBodiless r.method (HttpResponse.ofError e).status = false :=
      HttpResponse.isBodiless_eq_false head (.inr e.le_status)
    have body : (s.respond r w).1.body = (HttpResponse.ofError e).body := by
      rw [respond_of_other question, told, delivered_body kept]
    exact ⟨body, by rw [HttpResponse.TellsError, body, e.ofBytes?_ofError]⟩

/-- A server without actions. -/
private def emptyServer : Server where
  settings := ⟨"127.0.0.1", 3000, [], 30, 30, none, "http://127.0.0.1", none,
    ⟨"action", "actions", "lib", "bash", "sh", 30, .firstSpace⟩⟩
  dispatcher := ⟨"/action", ⟨"action-resource::action", []⟩, .disabled, none⟩
  base := .none
  medium := .memory

/-- Nothing is found, and the path that the message quotes has a quote and a line feed in it. -/
theorem respondIn_tellsError_quoted :
    let pace : Pace := ⟨10, 20, by decide⟩
    let r : HttpRequest := ⟨"CONNECT", "/%22a%0Ab%22", [], []⟩
    let answer := (emptyServer.respondIn pace r (.ofStores (.new (fun _ _ => "x") .memory {}))).1
    r.IsHandled ∧ pace.finish ≤ emptyServer.timeLimit ∧ 400 ≤ answer.status ∧ answer.status = 404 ∧
      ∃ code message, answer.TellsError code message := by
  intro pace r answer
  have handled : r.IsHandled := ⟨fun own => absurd own (by decide +kernel), fun _ => by decide⟩
  have inTime : pace.finish ≤ emptyServer.timeLimit := by decide
  have line : answer.status = 404 := by decide +kernel
  have failed : 400 ≤ answer.status := by rw [line]; decide
  obtain ⟨e, -, told⟩ := respondIn_tellsError handled inTime failed
  exact ⟨handled, inTime, failed, line, _, _, (told (by decide)).2⟩

private theorem not_tellsError {a : HttpResponse} (unread : Json.ofBytes? a.body = none) :
    ¬∃ code message, a.TellsError code message := by
  rintro ⟨code, message, told⟩
  exact nomatch unread.symm.trans told

/-- An error that is answered to `HEAD` is told in no body, and what no handler sees to its end is told
otherwise: a method that an own path does not serve, a body that is too large, and a request that is
late. -/
theorem respondIn_without_error_object :
    let w := World.ofStores (.new (fun _ _ => "x") .memory {})
    let large := List.replicate (HttpResponse.bodyLimit + 1) 0x20
    let silent := (emptyServer.respond ⟨"HEAD", "/nowhere", [], []⟩ w).1
    let unserved := (emptyServer.respond ⟨"PATCH", "/actions", [], []⟩ w).1
    let refused := (emptyServer.respond ⟨"POST", "/nowhere", [], large⟩ w).1
    let late := (emptyServer.respondIn ⟨0, 30001, by decide⟩ ⟨"GET", "/nowhere", [], []⟩ w).1
    (silent.status = 404 ∧ ¬∃ code message, silent.TellsError code message) ∧
      (unserved.status = 405 ∧ ¬∃ code message, unserved.TellsError code message) ∧
      (refused.status = 413 ∧ ¬∃ code message, refused.TellsError code message) ∧
      (late.status = 408 ∧ ¬∃ code message, late.TellsError code message) := by
  intro w large silent unserved refused late
  refine ⟨⟨by decide +kernel, not_tellsError (by decide +kernel)⟩,
    ⟨by decide +kernel, not_tellsError (by decide +kernel)⟩, ?_,
    by decide +kernel, not_tellsError (by decide +kernel)⟩
  -- The body is too long to be looked at, but its length is enough.
  have long : HttpResponse.bodyLimit < large.length := by
    rw [List.length_replicate]
    exact Nat.lt_succ_self _
  have foreign : HttpRequest.path ⟨"POST", "/nowhere", [], large⟩ ∉ ownPaths := by
    simp [ownPaths, HttpRequest.path, HttpRequest.visibleTarget]
  have served : emptyServer.dispatch ⟨"POST", "/nowhere", [], large⟩ w = (.tooLarge, w) := by
    rw [dispatch, if_pos long]
  simp only [refused, respond_of_dispatch (by decide) foreign served]
  refine ⟨delivered_status _ _ _, not_tellsError ?_⟩
  rw [delivered_body (by decide)]
  decide +kernel

end Server

end ActionServer
