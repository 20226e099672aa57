import ActionServer.Server.Basic

/-!
# Loops

A server that its own client reaches. A request goes out through the client, comes in at the server
and may make an action call again; the depth bounds how often this may happen within one request. All
these requests are in time.
-/

namespace ActionServer

/-- A request as it comes in after it was sent. -/
def HttpRequest.ofOutgoing (r : OutgoingRequest) : HttpRequest :=
  { method := r.method
    target := r.url.target
    headers :=
      (r.secret.toList.map fun value => (HttpRequest.secretHeader, Header.arrive value)) ++
        if r.body.isSome then [("content-type", Utf8.encode "application/json")] else []
    body := match r.body with
      | some v => Utf8.encode v.text
      | none => [] }

namespace Server

/-- The server with its client on another link. -/
def withLink (s : Server) (link : Link) : Server :=
  { s with dispatcher := { s.dispatcher with client := some ((callSettings s.settings).client link) } }

/-- The link that leads to the server itself; at the end of the depth there is none. -/
def loopback (s : Server) : Nat → Link
  | 0 => .down
  | depth + 1 => .up fun r w =>
    let (a, w) := (s.withLink (s.loopback depth)).respond (.ofOutgoing r) w
    (.whole a.status a.body, w)

end Server

end ActionServer
