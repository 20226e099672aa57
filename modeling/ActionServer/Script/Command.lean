import ActionServer.Json.Shape

/-!
# Commands

A script talks to its host in lines of JSON, each an object whose field `op` names an operation and
whose other fields are its arguments. Arguments that an operation does not have are skipped; the
optional ones may be left out or be `null`. The same command can be written as an array: the name
first, then the arguments in their order.
-/

namespace ActionServer

inductive Operation where
  | error
  | hide
  | set
  | merge
  | hasErrors
  | data
  | store
  | fetch
  | require
  | call
  | done
  deriving DecidableEq, Repr

namespace Operation

def all : List Operation :=
  [error, hide, set, merge, hasErrors, data, store, fetch, require, call, done]

def name : Operation → String
  | error => "error"
  | hide => "hide"
  | set => "set"
  | merge => "merge"
  | hasErrors => "has_errors"
  | data => "data"
  | store => "store"
  | fetch => "fetch"
  | require => "require"
  | call => "call"
  | done => "done"

/-- The word for the operation's arguments taken together. -/
def title : Operation → String
  | error => "Error"
  | hide => "Hide"
  | set => "Set"
  | merge => "Merge"
  | hasErrors => "HasErrors"
  | data => "Data"
  | store => "Store"
  | fetch => "Fetch"
  | require => "Require"
  | call => "Call"
  | done => "Done"

def ofName? (name : String) : Option Operation :=
  all.find? (·.name == name)

/-- The names of the arguments, in order; the required ones come first. -/
def arguments : Operation → List String
  | error => ["key", "value"]
  | hide => ["property"]
  | set => ["key", "value"]
  | merge => ["data"]
  | hasErrors | data => []
  | store => ["element"]
  | fetch => ["query"]
  | require => ["name"]
  | call => ["method", "path", "body"]
  | done => ["error"]

/-- How many of the arguments are required. -/
def required : Operation → Nat
  | error => 1
  | hide => 1
  | set => 2
  | merge => 1
  | hasErrors | data => 0
  | store => 1
  | fetch => 0
  | require => 1
  | call => 2
  | done => 0

/-- What an array with too few items should have been. -/
def expectation (op : Operation) : String :=
  let n := op.arguments.length
  s!"struct variant Command::{op.title} with {n} element" ++ if n = 1 then "" else "s"

end Operation

inductive Command where
  | error (key : String) (value : Option Json)
  | hide (property : String)
  | set (key : String) (value : Json)
  | merge (data : Document)
  | hasErrors
  | data
  | store (element : Document)
  | fetch (query : Option Json)
  | require (name : String)
  | call (method path : String) (body : Option Json)
  | done (error : Option Json)
  deriving Repr

namespace Command

/-- The arguments read so far. -/
structure Draft where
  text : String → Option String
  value : String → Option Json
  document : String → Option Document

namespace Draft

def empty : Draft := ⟨fun _ => none, fun _ => none, fun _ => none⟩

def setText (name : String) (s : String) (d : Draft) : Draft :=
  { d with text := fun n => if n = name then some s else d.text n }

def setValue (name : String) (v : Option Json) (d : Draft) : Draft :=
  { d with value := fun n => if n = name then v else d.value n }

def setDocument (name : String) (doc : Document) (d : Draft) : Draft :=
  { d with document := fun n => if n = name then some doc else d.document n }

end Draft

/-- Reads an argument of one kind into the draft. -/
def reader {α : Type} (read : Raw → Except ShapeFault α) (write : α → Draft → Draft) :
    Option (Raw → Except ShapeFault (Draft → Draft)) :=
  some fun r => (read r).map write

/-- How an argument is read; nothing for a name that is no argument of the operation. -/
def argument (op : Operation) (name : String) : Option (Raw → Except ShapeFault (Draft → Draft)) :=
  match op, name with
  | .error, "key" | .hide, "property" | .set, "key" | .require, "name"
  | .call, "method" | .call, "path" => reader Raw.text (Draft.setText name)
  | .merge, "data" | .store, "element" => reader Raw.document (Draft.setDocument name)
  | .error, "value" | .fetch, "query" | .call, "body" | .done, "error" =>
    reader (Raw.optional Raw.any) (Draft.setValue name)
  | .set, "value" => reader Raw.any (fun v => Draft.setValue name (some v))
  | _, _ => none

/-- A required argument. -/
def need {α : Type} (name : String) : Option α → Except ShapeFault α
  | some a => .ok a
  | none => .error (.missingField name)

/-- The command, once all arguments have been read. -/
def finish (op : Operation) (d : Draft) : Except ShapeFault Command :=
  match op with
  | .error => do return .error (← need "key" (d.text "key")) (d.value "value")
  | .hide => do return .hide (← need "property" (d.text "property"))
  | .set => do return .set (← need "key" (d.text "key")) (← need "value" (d.value "value"))
  | .merge => do return .merge (← need "data" (d.document "data"))
  | .hasErrors => .ok .hasErrors
  | .data => .ok .data
  | .store => do return .store (← need "element" (d.document "element"))
  | .fetch => .ok (.fetch (d.value "query"))
  | .require => do return .require (← need "name" (d.text "name"))
  | .call => do
    return .call (← need "method" (d.text "method")) (← need "path" (d.text "path"))
      (d.value "body")
  | .done => .ok (.done (d.value "error"))

/-- The operation that a value names. -/
def operation : Raw → Except ShapeFault Operation
  | .string (some name) =>
    match Operation.ofName? name with
    | some op => .ok op
    | none => .error (.unknownVariant name (Operation.all.map Operation.name))
  | r => r.refuse "variant identifier"

/-- The operation among the fields of an object. -/
def operationOf : Option Operation → List (Option String × Raw) → Except ShapeFault Operation
  | some op, [] => .ok op
  | none, [] => .error (.missingField "op")
  | found, (some "op", r) :: rest =>
    match found with
    | some _ => .error (.duplicateField "op")
    | none => do operationOf (some (← operation r)) rest
  | found, _ :: rest => operationOf found rest

/-- Arguments by position. -/
def readItems (op : Operation) : Draft → List String → List Raw → Except ShapeFault Draft
  | d, name :: names, r :: rest =>
    match argument op name with
    | none => readItems op d names rest
    | some read => do readItems op ((← read r) d) names rest
  | d, _, _ => .ok d

/-- A command in the form of an array. -/
def ofItems (op : Operation) (items : List Raw) : Except ShapeFault Command := do
  let d ← readItems op .empty op.arguments items
  let wanted := op.arguments.length
  if items.length < op.required then .error (.invalidLength items.length op.expectation)
  else if items.length > wanted then
    .error (.invalidLength items.length
      (if wanted = 1 then "1 element in sequence" else s!"{wanted} elements in sequence"))
  else finish op d

/-- The command that a written value stands for. -/
def ofRaw : Raw → Except ShapeFault Command
  | .object fields => do
    let op ← operationOf none fields
    finish op (← Raw.walk (argument op) [] .empty (fields.filter (·.1 != some "op")))
  | .array [] => .error (.missingField "op")
  | .array (first :: rest) => do ofItems (← operation first) rest
  | r => r.refuse "internally tagged enum Command"

/-- The command that a value stands for. -/
def ofJson (v : Json) : Except ShapeFault Command :=
  ofRaw (.ofJson v)

/-- The command that a line stands for. A fault is only told of a line that is JSON throughout. -/
def ofText (line : String) : Except ShapeFault Command :=
  match Raw.ofText? line with
  | none => .error .notJson
  | some r =>
    if !r.isSound Json.nestingLimit then .error .notJson
    else
      match ofRaw r with
      | .ok command => .ok command
      | .error fault => .error (if r.value?.isSome then fault else .notJson)

end Command

end ActionServer
