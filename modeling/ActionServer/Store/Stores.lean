import ActionServer.Store.Collection
import ActionServer.Text.Blank

/-!
# The stores of a server

All actions of a server share its collections, which are opened by name; equal names give the same
collection. Every access is entered in a journal and may meet an outage instead of the collection.
Fresh identities are numbered for each collection on its own, so that what one collection is given
does not depend on the others.

The records may also be kept in a database. Here that is one whose connections are closed: opening a
collection needs no connection, every access fails.
-/

namespace ActionServer

/-- Where records are kept. -/
inductive Medium where
  | memory
  | closedDatabase
  deriving DecidableEq, Repr

namespace Medium

/-- The label that a server reports. -/
def kind : Medium → String
  | memory => "memory"
  | closedDatabase => "postgres"

/-- Whether the records can be reached. -/
def isHealthy : Medium → Bool
  | memory => true
  | closedDatabase => false

end Medium

/-- What a query on closed connections reports. -/
def closedPoolMessage : String :=
  "attempted to acquire a connection on a closed pool"

/-- An access to a collection. -/
inductive StoreCall where
  | insert (collection : String)
  | update (collection : String) (filter : Document)
  | find (collection : String) (filter : Option Document)
  | first (collection : String) (filter : Document)
  deriving Repr

/-- Faults that openings of, and accesses to, collections meet, by the name of the collection. -/
structure Outages where
  opening : List (String × StoreError) := []
  access : List (String × StoreError) := []
  deriving Repr

structure Stores where
  medium : Medium
  outages : Outages
  /-- The fresh identities of a collection. -/
  supply : String → Nat → String
  /-- The collections that have been opened, in the order of opening. -/
  collections : List Collection
  /-- The collections for which an identity was made and that identity, the latest first. -/
  issued : List (String × String)
  /-- The accesses so far, the latest first. -/
  journal : List StoreCall

namespace Stores

/-- Stores without a collection. -/
def new (supply : String → Nat → String) (medium : Medium) (outages : Outages) : Stores :=
  { medium, outages, supply, collections := [], issued := [], journal := [] }

/-- The collection of a name, if it has been opened. -/
def get? (s : Stores) (name : String) : Option Collection :=
  s.collections.find? (·.name == name)

/-- The records under a name, if that collection has been opened. -/
def records? (s : Stores) (name : String) : Option (List Document) :=
  (s.get? name).map (·.records)

/-- Opens a collection; one that is open stays as it is. -/
def openCollection (s : Stores) (name : String) : Except StoreError Stores :=
  match s.medium with
  | .closedDatabase =>
    if Text.isAllBlank name then .error (.invalidDocument "Collection name must not be empty")
    else .ok s
  | .memory =>
    match s.outages.opening.lookup name with
    | some e => .error e
    | none =>
      if (s.get? name).isSome then .ok s
      else .ok { s with collections := s.collections ++ [⟨name, []⟩] }

/-- Puts a collection back in its place, or behind the others if it is new. -/
def put (s : Stores) (c : Collection) : Stores :=
  let rec go : List Collection → List Collection
    | [] => [c]
    | old :: rest => if old.name == c.name then c :: rest else old :: go rest
  { s with collections := go s.collections }

/-- Enters an access in the journal and hands out the collection it goes to. Without a connection
there is no access to enter. -/
def access (s : Stores) (name : String) (call : StoreCall) :
    Except StoreError Collection × Stores :=
  match s.medium with
  | .closedDatabase => (.error (.backend closedPoolMessage), s)
  | .memory =>
    let s := { s with journal := call :: s.journal }
    match s.outages.access.lookup name with
    | some e => (.error e, s)
    | none => (.ok ((s.get? name).getD ⟨name, []⟩), s)

/-- The identity that a collection would give next. -/
def fresh (s : Stores) (name : String) : String :=
  s.supply name (s.issued.filter (·.1 == name)).length

/-- Remembers an identity that was made. -/
def issue (s : Stores) (name id : String) : Stores :=
  { s with issued := (name, id) :: s.issued }

/-- Appends a record to a collection, whose next identity it gets if it has none. -/
def append (s : Stores) (c : Collection) (element : Document) :
    Except StoreError Document × Stores :=
  let id := s.fresh c.name
  let s := if element.identity?.isNone then s.issue c.name id else s
  match c.insert id element with
  | .error e => (.error e, s)
  | .ok (record, c) => (.ok record, s.put c)

/-- Fills a collection, opened if need be, without entries in the journal. Documents that it refuses
are left out. -/
def seed (s : Stores) (name : String) (elements : List Document) : Stores :=
  let s := if (s.get? name).isSome then s else s.put ⟨name, []⟩
  elements.foldl (fun s element => (s.append ((s.get? name).getD ⟨name, []⟩) element).2) s

def insert (s : Stores) (name : String) (element : Document) :
    Except StoreError Document × Stores :=
  match s.access name (.insert name) with
  | (.error e, s) => (.error e, s)
  | (.ok c, s) => s.append c element

def update (s : Stores) (name : String) (filter element : Document) :
    Except StoreError Document × Stores :=
  match s.access name (.update name filter) with
  | (.error e, s) => (.error e, s)
  | (.ok c, s) =>
    match c.update filter element with
    | .error e => (.error e, s)
    | .ok (record, c) => (.ok record, s.put c)

def find (s : Stores) (name : String) (filter : Option Document) :
    Except StoreError (List Document) × Stores :=
  match s.access name (.find name filter) with
  | (.error e, s) => (.error e, s)
  | (.ok c, s) => (.ok (c.find filter), s)

def first (s : Stores) (name : String) (filter : Document) :
    Except StoreError (Option Document) × Stores :=
  match s.access name (.first name filter) with
  | (.error e, s) => (.error e, s)
  | (.ok c, s) => (.ok (c.first filter), s)

end Stores

end ActionServer
