import ActionServer.Json.Value

/-!
# Documents

A document is a JSON object: a request payload, the data view of an invocation, or a stored record.
Its keys stand in increasing order of their code points, which is also the order of their UTF-8
bytes; writing a key that is present replaces its value.
-/

namespace ActionServer

structure Document where
  fields : List (String × Json)
  deriving Inhabited, Repr

namespace Document

def empty : Document := ⟨[]⟩

instance : EmptyCollection Document := ⟨empty⟩

/-- The value under a key. -/
def get? (d : Document) (key : String) : Option Json :=
  (d.fields.find? (·.1 == key)).map (·.2)

/-- Puts a field where the order of keys wants it. -/
def insertField (key : String) (value : Json) : List (String × Json) → List (String × Json)
  | [] => [(key, value)]
  | (k, v) :: rest =>
    if key = k then (key, value) :: rest
    else if key < k then (key, value) :: (k, v) :: rest
    else (k, v) :: insertField key value rest

def insert (d : Document) (key : String) (value : Json) : Document :=
  ⟨insertField key value d.fields⟩

def erase (d : Document) (key : String) : Document :=
  ⟨d.fields.filter (·.1 != key)⟩

/-- Writes the fields one after the other. -/
def insertAll (d : Document) (fields : List (String × Json)) : Document :=
  fields.foldl (fun d field => d.insert field.1 field.2) d

/-- The document of a list of fields, of which the last with a key counts. -/
def ofFields (fields : List (String × Json)) : Document :=
  empty.insertAll fields

/-- One document over another: the second one wins. -/
def extend (d overlay : Document) : Document :=
  d.insertAll overlay.fields

def toJson (d : Document) : Json :=
  .object d.fields

/-- An object as a document. -/
def ofJson? : Json → Option Document
  | .object fields => some ⟨fields⟩
  | _ => none

def same (a b : Document) : Bool :=
  Json.sameFields a.fields b.fields

instance : BEq Document := ⟨same⟩

end Document

/-- An object with the given fields, the last of equal keys counting. -/
def Json.ofFields (fields : List (String × Json)) : Json :=
  (Document.ofFields fields).toJson

end ActionServer
