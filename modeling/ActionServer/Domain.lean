import ActionServer.World
import ActionServer.Store.Persistence
import ActionServer.Client.Error
import ActionServer.Library

/-!
# Domains

A domain is what one invocation of an action works on: its view of the data, the errors it reports
and the fields it hides. A hidden field leaves the view and stays out when data is merged in; setting
it explicitly brings it back. An error, once reported, stays: its key can get another value, but no
operation takes it away.

Through the domain the action also reaches its collection, its libraries and its own server.
-/

namespace ActionServer

/-- The way to the server's own interface: a method, a path and an optional body. -/
structure InternalClient where
  request : String → String → Option Json → World → Except ClientError Json × World

structure Domain where
  action : String
  data : Document
  errors : Document
  hasErrors : Bool
  hidden : List String
  persistence : Persistence
  library : Library
  client : Option InternalClient

namespace Domain

/-- A fresh domain over a view. -/
def new (action : String) (data : Document) (persistence : Persistence)
    (library : Library) (client : Option InternalClient) : Domain :=
  { action, data, errors := ∅, hasErrors := false, hidden := [], persistence, library, client }

/-- What is recorded for an error: `true` where no value, or `null`, was given. -/
def errorValue : Option Json → Json
  | none | some .null => .bool true
  | some v => v

/-- Reports an error under a key. -/
def error (d : Domain) (key : String) (value : Option Json) : Domain :=
  { d with errors := d.errors.insert key (errorValue value), hasErrors := true }

def errorIf (d : Domain) (condition : Bool) (key : String) (value : Option Json) : Domain :=
  if condition then d.error key value else d

def errorUnless (d : Domain) (condition : Bool) (key : String) (value : Option Json) : Domain :=
  d.errorIf (!condition) key value

def isHidden (d : Domain) (key : String) : Bool :=
  d.hidden.contains key

/-- Takes a field out of the view and keeps merges from bringing it back. -/
def hide (d : Domain) (key : String) : Domain :=
  { d with data := d.data.erase key, hidden := if d.isHidden key then d.hidden else key :: d.hidden }

/-- Writes a field; it is hidden no longer. -/
def set (d : Domain) (key : String) (value : Json) : Domain :=
  { d with data := d.data.insert key value, hidden := d.hidden.filter (· != key) }

/-- Writes the fields of a document, except hidden ones. -/
def merge (d : Domain) (incoming : Document) : Domain :=
  { d with data := d.data.insertAll (incoming.fields.filter fun field => !d.isHidden field.1) }

/-- Writes a field without regard to what is hidden. -/
def insertRaw (d : Domain) (key : String) (value : Json) : Domain :=
  { d with data := d.data.insert key value }

/-- Takes a field out of the view without hiding it. -/
def removeRaw (d : Domain) (key : String) : Domain :=
  { d with data := d.data.erase key }

/-- Stores a document in the collection of the action. -/
def store (d : Domain) (element : Document) (w : World) : Except StoreError Document × World :=
  let (result, stores) := d.persistence.persist element w.stores
  (result, { w with stores })

def fetch (d : Domain) (query : FetchQuery) (w : World) : Except StoreError Fetched × World :=
  let (result, stores) := d.persistence.fetch query w.stores
  (result, { w with stores })

/-- The path of a library. -/
def require (d : Domain) (name : String) : Except LibraryError String :=
  d.library.resolve name

/-- Calls the server's own interface. -/
def call (d : Domain) (method path : String) (body : Option Json) (w : World) :
    Except ClientError Json × World :=
  match d.client with
  | none => (.error .notConfigured, w)
  | some client => client.request method path body w

end Domain

end ActionServer
