import ActionServer.Proofs.Server.Dispatch
import ActionServer.Proofs.Server.Routing

/-!
# Spellings of a path

A path can be written in many ways, since every byte may be percent encoded. The router chooses its
entry by the path as it is written, so two spellings of one path may enter by different routes, or by
none. All these entries lead to the dispatcher, which reads nothing of the path but its decoded text,
so the spelling is lost there.
-/

namespace ActionServer

/-- Two requests that differ in nothing but how one path is spelled. -/
structure HttpRequest.SpelledLike (r r' : HttpRequest) : Prop where
  method : r.method = r'.method
  headers : r.headers = r'.headers
  body : r.body = r'.body
  query : r.query? = r'.query?
  path : ∃ path, r.decodedPath = .ok path ∧ r'.decodedPath = .ok path

namespace HttpRequest.SpelledLike

variable {r r' : HttpRequest} (alike : r.SpelledLike r')
include alike

theorem header?_eq (name : String) : r.header? name = r'.header? name := by
  simp only [header?, alike.headers]

theorem bodyDocument_eq : r.bodyDocument = r'.bodyDocument := by
  simp only [bodyDocument, alike.body]

theorem queryDocument_eq : r.queryDocument = r'.queryDocument := by
  simp only [queryDocument, alike.query]

theorem decodedPath_eq : r.decodedPath = r'.decodedPath := by
  obtain ⟨path, first, second⟩ := alike.path
  rw [first, second]

end HttpRequest.SpelledLike

namespace Server

variable {s : Server} {r r' : HttpRequest}

section

variable (alike : r.SpelledLike r')
include alike

theorem decode_spelling : s.decode r = s.decode r' := by
  have internal : s.isInternal r = s.isInternal r' := by
    simp only [isInternal, HttpRequest.isInternal, alike.header?_eq]
  simp only [decode, alike.decodedPath_eq, alike.queryDocument_eq, alike.bodyDocument_eq,
    alike.method, internal]

theorem dispatch_spelling (w : World) : s.dispatch r w = s.dispatch r' w := by
  simp only [dispatch, decode_spelling alike, alike.body]

end

/-- Every entry but those of the own paths leads to the dispatcher. -/
theorem serveAt_of_foreign (foreign : r.path ∉ ownPaths) (w : World) :
    s.serveAt r w (Router.entry s.settings.actions.routePrefix r.path) = s.dispatch r w := by
  rw [← serve_eq_serveAt]
  simp [serve, foreign]

/-- **How a path is spelled makes no difference.** Two requests that differ only in the percent
encoding of their paths, neither of which is written as one of the server's own, may be led to
different entries of the router. They get the same answer, and the same world is left. -/
theorem respond_spelling (s : Server) {r r' : HttpRequest} (alike : r.SpelledLike r')
    (foreign : r.path ∉ ownPaths) (foreign' : r'.path ∉ ownPaths) (w : World) :
    let entry (q : HttpRequest) := Router.entry s.settings.actions.routePrefix q.path
    s.serve r w = s.serveAt r w (entry r) ∧ s.serve r' w = s.serveAt r' w (entry r') ∧
      s.serveAt r w (entry r) = s.serveAt r' w (entry r') ∧ s.respond r w = s.respond r' w := by
  intro entry
  have served : s.serveAt r w (entry r) = s.serveAt r' w (entry r') := by
    rw [serveAt_of_foreign foreign, serveAt_of_foreign foreign', dispatch_spelling alike]
  have first : s.serve r w = s.serveAt r w (entry r) := s.serve_eq_serveAt r w
  have second : s.serve r' w = s.serveAt r' w (entry r') := s.serve_eq_serveAt r' w
  have own : ownPaths.contains r.path = ownPaths.contains r'.path := by simp [foreign, foreign']
  refine ⟨first, second, served, respond_congr alike.method alike.headers own ?_⟩
  rw [first, second, served]

/-- An action that is asked for below the prefix, and with its slash and a letter encoded, which no
route takes. -/
theorem respond_spelling_greeting :
    let executable : Executable := ⟨fun _ d w => (.finished, d.set "greeted" (.bool true), w)⟩
    let greet : Action := ⟨"greet", none, false, none, "greet.sh", .ready executable⟩
    let actions : ActionSettings := ⟨"action", "actions", "lib", "bash", "sh", 30, .firstSpace⟩
    let s : Server := {
      settings := ⟨"127.0.0.1", 3000, [], 30, 30, none, "http://127.0.0.1", none, actions⟩
      dispatcher := ⟨"/action", ⟨"action-resource::action", [greet]⟩, .disabled, none⟩
      base := .none, medium := .memory }
    let r : HttpRequest := ⟨"POST", "/action/greet?to=you", [], []⟩
    let r' : HttpRequest := ⟨"POST", "/%61ction%2Fgreet?to=you", [], []⟩
    r.SpelledLike r' ∧ r.path ∉ ownPaths ∧ r'.path ∉ ownPaths ∧
      Router.entry "/action" r.path = .named ∧ Router.entry "/action" r'.path = .fallback ∧
      ∀ w, s.respond r w = s.respond r' w := by
  intro executable greet actions s r r'
  have alike : r.SpelledLike r' := {
    method := rfl
    headers := rfl
    body := rfl
    query := by decide +kernel
    path := ⟨"/action/greet", eq_ok_of_toOption (by decide +kernel),
      eq_ok_of_toOption (by decide +kernel)⟩ }
  have foreign : r.path ∉ ownPaths := by decide +kernel
  have foreign' : r'.path ∉ ownPaths := by decide +kernel
  exact ⟨alike, foreign, foreign', by decide +kernel, by decide +kernel, fun w =>
    (respond_spelling s alike foreign foreign' w).2.2.2⟩

end Server

end ActionServer
