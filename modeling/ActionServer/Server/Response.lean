import ActionServer.Client.Status
import ActionServer.Json.Printer
import ActionServer.Server.Request

/-!
# Responses

Answers carry JSON: results in an envelope with the field `data`, errors with their message and
code. Every answer but those to cross-origin questions is marked with the identity of its request,
which is the one that the request brings or a fresh one.
-/

namespace ActionServer

/-- The identity of a request, as its answer tells it. -/
inductive RequestMark where
  | absent
  | given (value : List UInt8)
  | generated
  deriving DecidableEq, Repr

structure HttpResponse where
  status : Nat
  headers : List (String × String)
  mark : RequestMark
  body : List UInt8
  deriving Repr

namespace HttpResponse

/-- An answer that is not marked yet. -/
def plain (status : Nat) (headers : List (String × String)) (body : List UInt8) : HttpResponse :=
  ⟨status, headers, .absent, body⟩

/-- An answer with a JSON body. -/
def ofJson (status : Nat) (v : Json) : HttpResponse :=
  plain status [("content-type", "application/json")] (Utf8.encode v.text)

/-- The envelope of a result. -/
def envelope (v : Json) : Json :=
  Json.ofFields [("data", v)]

/-- The answer with a result. -/
def ofData (v : Json) : HttpResponse :=
  ofJson 200 (envelope v)

def ofError (e : ServerError) : HttpResponse :=
  ofJson e.status e.body

def ofResult : Except ServerError Json → HttpResponse
  | .ok v => ofData v
  | .error e => ofError e

/-- The greatest size of a body that is taken in. -/
def bodyLimit : Nat := 2097152

/-- The answer to a body that is too large. -/
def tooLarge : HttpResponse :=
  plain 413 [("content-type", "text/plain; charset=utf-8")]
    (Utf8.encode "Failed to buffer the request body: length limit exceeded")

/-- The answer to a method that a fixed path does not serve. -/
def methodNotAllowed : HttpResponse :=
  plain 405 [("allow", "GET,HEAD")] []

/-- The answer to a request whose time is up. -/
def timedOut : HttpResponse :=
  plain 408 [] []

/-- Marks an answer with the identity of its request. -/
def markFor (r : HttpRequest) (a : HttpResponse) : HttpResponse :=
  { a with mark := match r.header? "x-request-id" with
      | some value => .given value
      | none => .generated }

/-- Whether an answer is without a body, as each to `HEAD` is and each to a `CONNECT` that succeeds. -/
def isBodiless (method : String) (status : Nat) : Bool :=
  method == "HEAD" || (method == "CONNECT" && Status.isSuccess status)

/-- Takes the body away where there is to be none. -/
def bodyFor (method : String) (a : HttpResponse) : HttpResponse :=
  if isBodiless method a.status then { a with body := [] } else a

/-- The first value of a header. -/
def header? (a : HttpResponse) (name : String) : Option String :=
  (a.headers.find? (·.1 == name)).map (·.2)

end HttpResponse

end ActionServer
