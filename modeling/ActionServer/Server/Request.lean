import ActionServer.Json.Reader
import ActionServer.Server.Error
import ActionServer.Server.Header
import ActionServer.Text.Blank
import ActionServer.Text.Percent
import ActionServer.Text.Split

/-!
# Requests

A request as it comes in: a method, a target, headers and a body. The target's path is percent
encoded, and its query lists keys and values of which the last with a key counts. A body is either
blank, which stands for no fields, or the text of a JSON object.
-/

namespace ActionServer

structure HttpRequest where
  method : String
  target : String
  /-- The headers in their order; the case of their names does not matter. -/
  headers : List (String × List UInt8)
  body : List UInt8
  deriving Repr, Inhabited

namespace HttpRequest

/-- The first value of a header. -/
def header? (r : HttpRequest) (name : String) : Option (List UInt8) :=
  (r.headers.find? fun h => Text.asciiLower h.1 == name).map (·.2)

/-- The target without its fragment. -/
def visibleTarget (r : HttpRequest) : List Char :=
  r.target.toList.takeWhile (· != '#')

/-- What follows the authority of an absolute target. -/
def afterAuthority : List Char → Option (List Char)
  | ':' :: '/' :: '/' :: rest => some (rest.dropWhile (· != '/'))
  | _ :: rest => afterAuthority rest
  | [] => none

/-- The path of the target, still encoded. -/
def path (r : HttpRequest) : String :=
  let before := r.visibleTarget.takeWhile (· != '?')
  if before = ['*'] ∨ before.head? = some '/' then String.ofList before
  else
    match afterAuthority before with
    | some [] => "/"
    | some rest => String.ofList rest
    | none => ""

/-- The query of the target, still encoded. -/
def query? (r : HttpRequest) : Option String :=
  match r.visibleTarget.dropWhile (· != '?') with
  | [] => none
  | _ :: rest => some (String.ofList rest)

/-- The path with its encoding undone. -/
def decodedPath (r : HttpRequest) : Except ServerError String :=
  match Percent.decode r.path with
  | .ok path => .ok path
  | .error _ => .error (.badRequest "Request path is not valid UTF-8")

/-- The key and value in a part of a query. -/
def queryPair (part : List Char) : String × Json :=
  let key := part.takeWhile (· != '=')
  let value := (part.dropWhile (· != '=')).tail
  (Percent.decodeForm (String.ofList key), .string (Percent.decodeForm (String.ofList value)))

/-- The query as a document. -/
def queryDocument (r : HttpRequest) : Document :=
  match r.query? with
  | none => ∅
  | some q =>
    Document.ofFields (((Text.split (· == '&') q.toList).filter (· != [])).map queryPair)

/-- Whether a byte counts as blank in a body. -/
def isBlankByte (b : UInt8) : Bool :=
  b == 0x20 || b == 0x09 || b == 0x0A || b == 0x0C || b == 0x0D

/-- The body as a document. In the refusal of a text that is no JSON, `<json>` stands for what the JSON
library says of it. -/
def bodyDocument (r : HttpRequest) : Except ServerError Document :=
  if r.body.all isBlankByte then .ok ∅
  else
    match Json.ofBytes? r.body with
    | some (.object fields) => .ok ⟨fields⟩
    | some _ => .error (.badRequest "Request body must be a JSON object")
    | none => .error (.badRequest "Invalid JSON body: <json>")

/-- The header that carries the shared secret. -/
def secretHeader : String := "x-internal-secret"

/-- Whether the request carries the secret; without a secret, none does. -/
def isInternal (r : HttpRequest) (secret : Option String) : Bool :=
  match secret with
  | none => false
  | some secret => (r.header? secretHeader).bind Header.text? == some secret

end HttpRequest

end ActionServer
