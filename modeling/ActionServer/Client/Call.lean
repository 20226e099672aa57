import ActionServer.Address.Url
import ActionServer.Client.Status
import ActionServer.Domain
import ActionServer.Json.Printer
import ActionServer.Json.Reader
import ActionServer.Server.Header
import ActionServer.Text.Blank

/-!
# Calls to the own server

The internal client sends a method and a path to the server at a fixed base address, with the shared
secret if there is one. A request that cannot be put together is never sent. An answer may send it on
to another address, where it goes with all that it carries, the secret too. What comes back is
unwrapped: the value of `data` if the answer is an object with that field, the answer itself if not,
and an error, with the message that the answer carries, if the status does not tell of success.
-/

namespace ActionServer

/-- A request as it goes out. -/
structure OutgoingRequest where
  method : String
  url : Url
  /-- The value of the header with the secret. -/
  secret : Option (List UInt8)
  body : Option Json
  deriving Repr

/-- What comes back. -/
inductive Arrival where
  /-- An answer that names no other address. -/
  | whole (status : Nat) (body : List UInt8)
  /-- An answer that names one, here as it is read from where the request went. -/
  | moved (status : Nat) (body : List UInt8) (location : Url)
  /-- The connection broke, or the time was up, before the end of the answer. -/
  | broken
  /-- Nothing answers, or not in time. -/
  | unreached
  deriving DecidableEq, Repr

/-- The connection to the servers: there is none, or something answers at each address. -/
inductive Link where
  | down
  | up (answer : OutgoingRequest → World → Arrival × World)

structure CallSettings where
  /-- The base address, without slashes at its end. -/
  base : String
  secret : Option String
  deriving DecidableEq, Repr

namespace CallSettings

def new (base : String) (secret : Option String) : CallSettings :=
  ⟨Text.trimTrailingSlashes base, secret⟩

/-- Characters of a method, letters and digits aside. -/
def isMethodChar (c : Char) : Bool :=
  c.isAlphanum || "!#$%&'*+-.^_\x60|~".toList.contains c

/-- The schemes over which requests are sent. -/
def sendableSchemes : List String := ["http", "https"]

/-- The greatest length of an address that is sent. -/
def addressLimit : Nat := 65534

/-- Characters that no host of a request has, although an address may have them. -/
def unsendableHostChars : List Char := "\"\x60\x7b\x7d".toList

/-- Whether an address can stand in a request. -/
def isWritable (url : Url) : Bool :=
  url.text.utf8ByteSize ≤ addressLimit && !(url.host.getD "").toList.any unsendableHostChars.contains

/-- Whether requests are sent to an address. -/
def isSendable (url : Url) : Bool :=
  sendableSchemes.contains url.scheme && isWritable url

/-- The refusal to put a request together for an address. -/
def unusable (url : Url) : ClientError :=
  .transport s!"builder error for url ({url.text})"

/-- The request for a call. -/
def prepare (s : CallSettings) (method path : String) (body : Option Json) :
    Except ClientError OutgoingRequest :=
  if path.toList.head? != some '/' then
    .error (.invalidRequest s!"Path must start with '/': {path}")
  else if method = "" ∨ !method.toList.all isMethodChar then
    .error (.invalidRequest s!"Unknown method '{method}'")
  else
    match Url.parse (s.base ++ path) with
    | .error _ => .error (.transport "builder error")
    | .ok url =>
      if (url.host.getD "") = "" then .error (unusable url)
      else
        match s.secret.map Header.ofText? with
        | some none => .error (.transport "builder error")
        | secret =>
          if !isSendable url then .error (unusable url)
          else
            .ok { method := Text.asciiUpper method, url, secret := secret.join, body }

/-- The value that the body of an answer stands for; text that is no JSON stands for itself. -/
def payload (body : List UInt8) : Json :=
  if body.isEmpty then .null
  else (Json.ofBytes? body).getD (.string (Utf8.lossy body))

/-- The message that the answer to a failed request carries. -/
def errorMessage? : Json → Option String
  | .object fields =>
    match fields.lookup "error" with
    | some (.string s) => some s
    | _ => none
  | _ => none

/-- What an answer with its envelope opened holds. -/
def unwrap : Json → Json
  | .object fields => (fields.lookup "data").getD (.object fields)
  | v => v

/-- The result of a call whose answer came to its end. -/
def answered (status : Nat) (body : List UInt8) : Except ClientError Json :=
  let v := payload body
  if Status.isSuccess status then .ok (unwrap v)
  else .error (.status status ((errorMessage? v).getD (Status.text status)))

/-- The result of a call to an address that ends with what came back. -/
def receive (url : Url) : Arrival → Except ClientError Json
  | .unreached => .error (.transport s!"error sending request for url ({url.text})")
  | .broken => .error (.transport "error decoding response body")
  | .whole status body | .moved status body _ => answered status body

/-- The request that an answer sends elsewhere, if it does. Some answers ask to fetch from there what
was to be had here; the others repeat the request. -/
def redirected (r : OutgoingRequest) : Arrival → Option OutgoingRequest
  | .moved status _ location =>
    if !(Status.redirects.contains status && isWritable location) then none
    else if status = 303 ∨ (status = 301 ∨ status = 302) ∧ r.method = "POST" then
      some { r with
        method := if r.method = "HEAD" then "HEAD" else "GET", url := location, body := none }
    else some { r with url := location }
  | _ => none

/-- The redirects that a call follows. -/
def redirectLimit : Nat := 10

/-- Sends a request, and wherever the answers send it on, as often as is left. -/
def send (answer : OutgoingRequest → World → Arrival × World) :
    (left : Nat) → OutgoingRequest → World → Except ClientError Json × World
  | 0, r, w =>
    let (arrival, w) := answer r w
    match redirected r arrival with
    | none => (receive r.url arrival, w)
    | some _ => (.error (.transport s!"error following redirect for url ({r.url.text})"), w)
  | left + 1, r, w =>
    let (arrival, w) := answer r w
    match redirected r arrival with
    | none => (receive r.url arrival, w)
    | some next =>
      if sendableSchemes.contains next.url.scheme then send answer left next w
      else (.error (unusable next.url), w)

section

variable {answer : OutgoingRequest → World → Arrival × World} {r next : OutgoingRequest} {w : World}

/-- An answer that does not send a request on is what comes of it. -/
theorem send_of_redirected_eq_none (stays : redirected r (answer r w).1 = none) (left : Nat) :
    send answer left r w = (receive r.url (answer r w).1, (answer r w).2) := by
  cases left <;> simp only [send, stays]

theorem send_of_redirected (moved : redirected r (answer r w).1 = some next)
    (sendable : sendableSchemes.contains next.url.scheme = true) (left : Nat) :
    send answer (left + 1) r w = send answer left next (answer r w).2 := by
  simp only [send, moved, sendable, if_true]

end

/-- Makes a call. -/
def request (s : CallSettings) (link : Link) (method path : String) (body : Option Json)
    (w : World) : Except ClientError Json × World :=
  match s.prepare method path body with
  | .error e => (.error e, w)
  | .ok outgoing =>
    match link with
    | .down => (receive outgoing.url .unreached, w)
    | .up answer => send answer redirectLimit outgoing w

/-- The internal client over a link. -/
def client (s : CallSettings) (link : Link) : InternalClient :=
  ⟨s.request link⟩

end CallSettings

end ActionServer
