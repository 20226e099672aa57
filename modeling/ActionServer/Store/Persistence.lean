import ActionServer.Store.Stores

/-!
# Access of an action to its store

An action is bound to at most one collection. What it persists is an update if the document has an
identity and an insertion otherwise; what it fetches depends on the shape of its query.
-/

namespace ActionServer

/-- A question to a collection. -/
inductive FetchQuery where
  | all
  | filter (fields : Document)
  | id (value : Json)
  deriving Repr

namespace FetchQuery

/-- `null` asks for everything, an object is a filter, and any other value an identity. -/
def ofJson : Json → FetchQuery
  | .null => .all
  | .object fields => .filter ⟨fields⟩
  | value => .id value

def ofOption : Option Json → FetchQuery
  | none => .all
  | some value => ofJson value

end FetchQuery

/-- The answer to a query: records, or the one record of an identity. -/
inductive Fetched where
  | many (records : List Document)
  | one (record : Option Document)
  deriving Repr

/-- The answer as an array, an object or `null`. -/
def Fetched.toJson : Fetched → Json
  | many records => .array (records.map Document.toJson)
  | one (some record) => record.toJson
  | one none => .null

structure Persistence where
  action : String
  collection : Option String
  deriving DecidableEq, Repr

namespace Persistence

/-- Whether a collection is bound. -/
def isConfigured (p : Persistence) : Bool :=
  p.collection.isSome

/-- Stores a document and gives the record it became. -/
def persist (p : Persistence) (element : Document) (s : Stores) :
    Except StoreError Document × Stores :=
  match p.collection with
  | none => (.error (.notConfigured p.action), s)
  | some name =>
    match element.identity? with
    | some id => s.update name (Document.identityFilter id) element
    | none => s.insert name element

def fetch (p : Persistence) (query : FetchQuery) (s : Stores) :
    Except StoreError Fetched × Stores :=
  match p.collection with
  | none => (.error (.notConfigured p.action), s)
  | some name =>
    match query with
    | .all =>
      let (found, s) := s.find name none
      (found.map .many, s)
    | .filter fields =>
      let (found, s) := s.find name (some fields)
      (found.map .many, s)
    | .id value =>
      let (found, s) := s.first name (Document.identityFilter value)
      (found.map .one, s)

end Persistence

end ActionServer
