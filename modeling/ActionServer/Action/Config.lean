import ActionServer.Json.Shape
import ActionServer.Text.Blank
import ActionServer.Failure

/-!
# Configuration of actions

An action has a name, perhaps a description, a mark that keeps it to internal requests, and perhaps
a resource: the collection it works on. A resource file lists the actions of a server.

What is written is read back: absent fields are left out in writing and may be left out or `null` in
reading.
-/

namespace ActionServer

structure ActionConfig where
  name : String
  description : Option String
  internal : Bool
  resource : Option String
  deriving DecidableEq, Repr, Inhabited

namespace ActionConfig

/-- An action with nothing but a name. -/
def named (name : String) : ActionConfig := ⟨name, none, false, none⟩

/-- Binds the action to a collection. -/
def withResource (c : ActionConfig) (resource : String) : ActionConfig :=
  { c with resource := some resource }

/-- Keeps the action to internal requests. -/
def internalOnly (c : ActionConfig) : ActionConfig :=
  { c with internal := true }

/-- The greatest length of a name, in characters. -/
def nameLimit : Nat := 128

/-- Refuses a name that is empty, too long or blank, and a blank resource. -/
def check (c : ActionConfig) : Except ActionError Unit :=
  let length := c.name.toList.length
  if length < 1 ∨ nameLimit < length then
    .error (.validation s!"Invalid action '{c.name}': name: Validation error: length")
  else if Text.isAllBlank c.name then
    .error (.validation "Action name must not be blank")
  else
    match c.resource with
    | some resource =>
      if Text.isAllBlank resource then
        .error (.validation s!"Action '{c.name}' has a blank resource name")
      else .ok ()
    | none => .ok ()

/-- The fields that stand in the written form. -/
def fields (c : ActionConfig) : List (String × Json) :=
  [("name", .string c.name)] ++
    (c.description.toList.map fun d => ("description", .string d)) ++
    [("internal", .bool c.internal)] ++
    (c.resource.toList.map fun r => ("resource", .string r))

def toJson (c : ActionConfig) : Json :=
  Json.ofFields c.fields

/-- The configuration as a file has it, its fields in the order of declaration. -/
def written (c : ActionConfig) : Json :=
  .object c.fields

/-- A configuration that is being read. -/
structure Draft where
  name : Option String := none
  description : Option String := none
  internal : Bool := false
  resource : Option String := none

/-- How a field is read. -/
def field : String → Option (Raw → Except ShapeFault (Draft → Draft))
  | "name" => some fun r => (Raw.text r).map fun s d => { d with name := some s }
  | "description" => some fun r => (Raw.optional Raw.text r).map fun s d => { d with description := s }
  | "internal" => some fun r => (Raw.flag r).map fun b d => { d with internal := b }
  | "resource" => some fun r => (Raw.optional Raw.text r).map fun s d => { d with resource := s }
  | _ => none

/-- The names of the fields in the order of declaration. -/
def fieldNames : List String := ["name", "description", "internal", "resource"]

/-- The configuration, once its fields have been read. -/
def ofDraft (d : Draft) : Except ShapeFault ActionConfig :=
  match d.name with
  | some name => .ok ⟨name, d.description, d.internal, d.resource⟩
  | none => .error (.missingField "name")

/-- Reads a configuration. -/
def ofRaw (origin : Origin) : Raw → Except ShapeFault ActionConfig
  | .object fields => do ofDraft (← Raw.walk field [] {} fields)
  | .array [] => .error (.invalidLength 0 "struct ActionConfig with 4 elements")
  | .array items => do
    let d ← Raw.walk field [] {} ((fieldNames.map some).zip items)
    if items.length > fieldNames.length then .error (Raw.refuseExtra origin items.length)
    else ofDraft d
  | r => r.refuse "struct ActionConfig"

def ofJson (v : Json) : Except ShapeFault ActionConfig :=
  ofRaw .value (.ofJson v)

/-- Reads a list of configurations from a value. -/
def listOfJson (v : Json) : Except ShapeFault (List ActionConfig) :=
  Raw.list (ofRaw .value) (.ofJson v)

end ActionConfig

/-- The actions of a server as a resource file lists them. -/
structure ResourceConfig where
  kind : Option String
  actions : List ActionConfig
  deriving DecidableEq, Repr, Inhabited

namespace ResourceConfig

def toJson (c : ResourceConfig) : Json :=
  Json.ofFields <|
    (c.kind.toList.map fun k => ("type", .string k)) ++
      [("actions", .array (c.actions.map ActionConfig.toJson))]

/-- The text of a resource file, the fields in the order of declaration. -/
def text (c : ResourceConfig) : String :=
  Json.text <| .object <|
    (c.kind.toList.map fun k => ("type", .string k)) ++
      [("actions", .array (c.actions.map ActionConfig.written))]

/-- How a field is read. -/
def field (origin : Origin) :
    String → Option (Raw → Except ShapeFault (ResourceConfig → ResourceConfig))
  | "type" => some fun r => (Raw.optional Raw.text r).map fun k c => { c with kind := k }
  | "actions" => some fun r =>
    (Raw.list (ActionConfig.ofRaw origin) r).map fun actions c => { c with actions }
  | _ => none

/-- The names of the fields in the order of declaration. -/
def fieldNames : List String := ["type", "actions"]

def ofRaw (origin : Origin) : Raw → Except ShapeFault ResourceConfig
  | .object fields => Raw.walk (field origin) [] ⟨none, []⟩ fields
  | .array items => do
    let c ← Raw.walk (field origin) [] ⟨none, []⟩ ((fieldNames.map some).zip items)
    if items.length > fieldNames.length then .error (Raw.refuseExtra origin items.length)
    else .ok c
  | r => r.refuse "struct ResourceConfig"

/-- Reads the text of a resource file. A fault is only told of a text that is JSON throughout. -/
def ofText (text : String) : Except ShapeFault ResourceConfig :=
  match Raw.ofText? text with
  | none => .error .notJson
  | some r =>
    match ofRaw .text r with
    | .ok c => .ok c
    | .error fault =>
      match r.value? with
      | some _ => .error fault
      | none => .error .notJson

/-- Reads the text of a resource file. -/
def parse (text : String) : Except ActionError ResourceConfig :=
  match ofText text with
  | .ok c => .ok c
  | .error fault => .error (.validation s!"Invalid resource configuration: {fault.message}")

end ResourceConfig

end ActionServer
