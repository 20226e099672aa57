import ActionServer.Store.Identity
import ActionServer.Store.Error
import ActionServer.Json.Printer

/-!
# Collections

A collection holds records in the order in which they came. A record that is inserted without an
identity gets a fresh one, and an identity that is taken is refused. An update replaces the first
record that satisfies a filter, in its place; what replaces it keeps the identity of the record
unless it brings one of its own.
-/

namespace ActionServer

structure Collection where
  name : String
  records : List Document
  deriving Inhabited, Repr

namespace Collection

/-- Whether some record has this value as its `id`. -/
def holds (c : Collection) (id : Json) : Bool :=
  c.records.any fun r =>
    match r.get? idField with
    | some found => found == id
    | none => false

/-- A document with an identity: its own, or the fresh one. -/
def identified (fresh : String) (element : Document) : Document :=
  match element.identity? with
  | some _ => element
  | none => element.insert idField (.string fresh)

/-- Appends a record. -/
def insert (c : Collection) (fresh : String) (element : Document) :
    Except StoreError (Document × Collection) :=
  let record := identified fresh element
  match record.get? idField with
  | none => .ok (record, { c with records := c.records ++ [record] })
  | some id =>
    if c.holds id then .error (.invalidDocument s!"Duplicate id {id.text} in '{c.name}'")
    else .ok (record, { c with records := c.records ++ [record] })

/-- What takes the place of a record: a document without an identity keeps the one of the record. -/
def replacement (old element : Document) : Document :=
  match element.identity?, old.get? idField with
  | none, some id => element.insert idField id
  | _, _ => element

/-- Replaces the first record that satisfies the filter. -/
def replaceFirst (filter element : Document) : List Document → Option (Document × List Document)
  | [] => none
  | r :: rest =>
    if r.satisfies filter then
      let new := replacement r element
      some (new, new :: rest)
    else
      (replaceFirst filter element rest).map fun (new, rest) => (new, r :: rest)

def update (c : Collection) (filter element : Document) :
    Except StoreError (Document × Collection) :=
  match replaceFirst filter element c.records with
  | some (record, records) => .ok (record, { c with records })
  | none => .error (.notFound c.name filter.text)

/-- The records that satisfy a filter, or all of them. -/
def find (c : Collection) : Option Document → List Document
  | some filter => c.records.filter (·.satisfies filter)
  | none => c.records

/-- The first record that satisfies a filter. -/
def first (c : Collection) (filter : Document) : Option Document :=
  c.records.find? (·.satisfies filter)

end Collection

end ActionServer
