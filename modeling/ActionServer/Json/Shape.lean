import ActionServer.Json.Printer
import ActionServer.Json.Reader
import ActionServer.Text.Quoted

/-!
# Reading values of a fixed shape

Settings and commands are records with named fields. A decoder goes through the fields in the order
in which they are written and reports the first fault it meets: a field that is repeated, or a value
of the wrong type. What is missing is reported last, in the order of declaration. Fields that the
record does not have are skipped unread.

A record may also be written as an array of its fields in the order of declaration.
-/

namespace ActionServer

/-- Why a text or value has not the shape asked for. -/
inductive ShapeFault where
  | notJson
  | missingField (name : String)
  | duplicateField (name : String)
  | unknownVariant (name : String) (allowed : List String)
  | invalidType (found expected : String)
  | invalidLength (length : Nat) (expected : String)
  | trailingCharacters
  deriving DecidableEq, Repr

namespace ShapeFault

/-- The message of a fault, without the line and column that it ends with in a text. `<json>` stands
for what the JSON library says of a text that is none. -/
def message : ShapeFault → String
  | notJson => "<json>"
  | missingField name => s!"missing field `{name}`"
  | duplicateField name => s!"duplicate field `{name}`"
  | unknownVariant name allowed =>
    s!"unknown variant `{name}`, expected one of " ++
      ", ".intercalate (allowed.map fun a => s!"`{a}`")
  | invalidType found expected => s!"invalid type: {found}, expected {expected}"
  | invalidLength length expected => s!"invalid length {length}, expected {expected}"
  | trailingCharacters => "trailing characters"

end ShapeFault

/-- Where a record stands: in a text that is being read, or in a value. It decides how an array with
more items than the record has fields is refused. -/
inductive Origin where
  | text
  | value
  deriving DecidableEq, Repr

namespace Raw

/-- What a part is called in a fault. -/
def description : Raw → String
  | null => "null"
  | bool b => s!"boolean `{b}`"
  | number (some (.integer i)) => s!"integer `{i.val}`"
  | number (some (.double x)) => s!"floating point `{String.ofList x.chars}`"
  | number none => "number"
  | string (some s) => s!"string {Text.quoted s}"
  | string none => "string"
  | array _ => "sequence"
  | object _ => "map"

/-- Refuses a part that is not what the shape asks for; a part without a value is no JSON. -/
def refuse {α : Type} (expected : String) (r : Raw) : Except ShapeFault α :=
  match r with
  | number none | string none => .error .notJson
  | r => .error (.invalidType r.description expected)

def text : Raw → Except ShapeFault String
  | string (some s) => .ok s
  | r => r.refuse "a string"

def flag : Raw → Except ShapeFault Bool
  | bool b => .ok b
  | r => r.refuse "a boolean"

/-- A part that may be `null`. -/
def optional {α : Type} (read : Raw → Except ShapeFault α) : Raw → Except ShapeFault (Option α)
  | null => .ok none
  | r => (read r).map some

/-- A part of any shape. -/
def any (r : Raw) : Except ShapeFault Json :=
  match r.value? with
  | some v => .ok v
  | none => .error .notJson

/-- An object, whatever its keys are. -/
def document : Raw → Except ShapeFault Document
  | object fields =>
    match fieldsWith Json.ofText? Json.nestingLimit fields with
    | some fields => .ok (Document.ofFields fields)
    | none => .error .notJson
  | r => r.refuse "a map"

/-- A list whose items have one shape. -/
def list {α : Type} (read : Raw → Except ShapeFault α) : Raw → Except ShapeFault (List α)
  | array items => items.mapM read
  | r => r.refuse "a sequence"

/-- Goes through the fields of a record. `known` gives for a field's name how its value changes the
draft of the record. -/
def walk {α : Type} (known : String → Option (Raw → Except ShapeFault (α → α))) :
    (seen : List String) → α → List (Option String × Raw) → Except ShapeFault α
  | _, draft, [] => .ok draft
  | _, _, (none, _) :: _ => .error .notJson
  | seen, draft, (some key, r) :: rest =>
    match known key with
    | none => walk known seen draft rest
    | some read =>
      if seen.contains key then .error (.duplicateField key)
      else do
        let change ← read r
        walk known (key :: seen) (change draft) rest

/-- Refuses an array that has more items than a record has fields. -/
def refuseExtra (origin : Origin) (length : Nat) : ShapeFault :=
  match origin with
  | .text => .trailingCharacters
  | .value => .invalidLength length "fewer elements in array"

end Raw

end ActionServer
