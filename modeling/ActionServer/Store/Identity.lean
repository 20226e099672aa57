import ActionServer.Json.Document

/-!
# Identities of records

A record is known by its field `id`. A missing field, `null` and the empty text are no identity, so
that a document carrying one of them is a new record.
-/

namespace ActionServer

/-- The field that holds the identity of a record. -/
def idField : String := "id"

/-- Whether a value can identify a record. -/
def Json.isUsableId : Json → Bool
  | .null => false
  | .string s => s != ""
  | _ => true

namespace Document

/-- The usable identity of a document. -/
def identity? (d : Document) : Option Json :=
  (d.get? idField).filter Json.isUsableId

/-- The filter that asks for one identity. -/
def identityFilter (id : Json) : Document :=
  empty.insert idField id

/-- Whether a document has every field of the filter, with an equal value. -/
def satisfies (d filter : Document) : Bool :=
  filter.fields.all fun (key, expected) =>
    match d.get? key with
    | some value => value == expected
    | none => false

end Document

end ActionServer
