import ActionServer.Domain
import ActionServer.Script.Command

/-!
# Sessions

The host opens a session with one line that holds the context of the request and the data, and then
applies the commands of the script one by one. Questions are answered by one line each; an error in
an answer does not end the session, only `done` does.
-/

namespace ActionServer

/-- The request as an action sees it. -/
structure Context where
  action : String
  method : String
  url : String
  query : Document
  body : Document
  internal : Bool
  deriving Inhabited, Repr

def Context.toJson (c : Context) : Json :=
  Json.ofFields [
    ("action", .string c.action),
    ("body", c.body.toJson),
    ("internal", .bool c.internal),
    ("method", .string c.method),
    ("query", c.query.toJson),
    ("url", .string c.url)]

/-- The answer to a question of the script. -/
structure Reply where
  error : Option String
  result : Json
  deriving Repr

namespace Reply

def ofResult (result : Json) : Reply := ⟨none, result⟩

def ofError (message : String) : Reply := ⟨some message, .null⟩

/-- The answer to an attempt. -/
def ofExcept {ε : Type} (message : ε → String) : Except ε Json → Reply
  | .ok v => ofResult v
  | .error e => ofError (message e)

def toJson (r : Reply) : Json :=
  Json.ofFields [("error", Json.ofOption r.error), ("result", r.result)]

end Reply

/-- What the host does after a command. -/
inductive Step where
  | proceed
  | reply (answer : Reply)
  /-- The script is done, with the message of its error if it has one. -/
  | done (message : Option String)
  deriving Repr

def Step.toJson : Step → Json
  | proceed => .string "continue"
  | reply answer => Json.ofFields [("reply", answer.toJson)]
  | done message => Json.ofFields [("done", Json.ofOption message)]

namespace Session

/-- The first thing that a script is told. -/
def opening (context : Context) (data : Document) : Json :=
  Json.ofFields [("context", context.toJson), ("data", data.toJson)]

/-- The text of an error that a script ends with. -/
def doneMessage : Json → String
  | .string s => s
  | v => v.text

end Session

/-- Applies one command. -/
def Domain.apply (d : Domain) (command : Command) (w : World) : Step × Domain × World :=
  match command with
  | .error key value => (.proceed, d.error key value, w)
  | .hide property => (.proceed, d.hide property, w)
  | .set key value => (.proceed, d.set key value, w)
  | .merge data => (.proceed, d.merge data, w)
  | .hasErrors => (.reply (.ofResult (.bool d.hasErrors)), d, w)
  | .data => (.reply (.ofResult d.data.toJson), d, w)
  | .store element =>
    let (result, w) := d.store element w
    (.reply (.ofExcept StoreError.message (result.map Document.toJson)), d, w)
  | .fetch query =>
    let (result, w) := d.fetch (.ofOption query) w
    (.reply (.ofExcept StoreError.message (result.map Fetched.toJson)), d, w)
  | .require name =>
    (.reply (.ofExcept LibraryError.message ((d.require name).map Json.string)), d, w)
  | .call method path body =>
    let (result, w) := d.call method path body w
    (.reply (.ofExcept ClientError.message result), d, w)
  | .done error => (.done (error.map Session.doneMessage), d, w)

end ActionServer
