import ActionServer.Shell.Arithmetic

/-!
# Giving values to variables

What a variable takes when it is given a value depends on its attributes: a variable that must not
change refuses it, an integer takes the value of an expression, letters can be changed, and a
reference hands it on to the variable that it names. A place in a list is the value of an expression,
a place in a table of keys is a text.
-/

namespace ActionServer.Shell

namespace Run

/-- The value of an expression; nothing if there is a fault in it, which is told of under the name of
a command, if there is one. A variable without value can end the script. -/
def calculate? (command : String) (text : List Char) : Run (Option Int) := do
  let (result, complaints, m) := Arithmetic.value (← get) text
  modify fun _ => m
  complainAll complaints
  match result with
  | .ok v => return some v
  | .error fault => do
    fail 1 (fault.message command)
    match fault.problem with
    | .unbound _ => stop .exit
    | _ => return none

/-- The value of an expression; a fault gives up the line. -/
def calculate (command : String) (text : List Char) : Run Int := do
  match ← calculate? command text with
  | some v => return v
  | none => stop .abandon

end Run

namespace Assigning

/-- Variables that the shell makes itself and that nothing can be assigned to, without a word. -/
def fixed : List String := ["FUNCNAME", "BASH_SOURCE", "BASH_LINENO", "BASHPID", "GROUPS", "HISTCMD",
  "BASH_SUBSHELL", "DIRSTACK"]

/-- A name that stands for a variable, perhaps with a place in it. -/
def locate (name : String) (place : Option String) : Run (String × Option String) := do
  let (found, own) := Machine.splitPlace ((← Run.get).target name)
  return (found, place <|> own)

/-- The place that an expression names in a list; nothing if there is none, which is told of. -/
def index? (name : String) (items : List (Nat × String)) (place : String) : Run (Option Nat) := do
  if place = "" then do
    Run.complain s!"{name}[{place}]: bad array subscript"
    return none
  else
    let i ← Run.calculate "" place.toList
    match Arithmetic.placeOf? items i with
    | some i => return some i
    | none => do
      Run.complain s!"{name}[{place}]: bad array subscript"
      return none

/-- What a text becomes in a variable with some attributes that holds another text already. -/
def adapted (attributes : Attributes) (append : Bool) (old : Option String) (text : String) :
    Run String := do
  if attributes.isInteger then
    let v ← Run.calculate "" text.toList
    let before ← if append then Run.calculate "" (old.getD "").toList else pure 0
    return toString (Arithmetic.wrap (before + v))
  else return attributes.recase ((if append then old.getD "" else "") ++ text)

/-- Tells that a variable must not change. -/
def refuse (name : String) : Run Bool := do
  Run.fail 1 s!"{name}: readonly variable"
  return false

/-- Gives a variable a value, perhaps at a place; tells whether that was possible. -/
def put (name : String) (place : Option String) (append : Bool) (text : String) : Run Bool := do
  if (← Run.get).isCircular name then do
    Run.complain s!"warning: {name}: circular name reference"
    Run.setStatus 1
    return false
  let (found, place) ← locate name place
  let m ← Run.get
  let old := m.lookup? found
  let attributes := (old.map (·.attributes)).getD {}
  if attributes.isReadonly then refuse found
  else if fixed.contains found then return true
  else do
    let isExported := attributes.isExported || m.hasOption "allexport"
    let finish (value : Value) (text : String) : Run Bool := do
      Run.modify fun m =>
        (m.bind found ⟨value, true, { attributes with isExported }⟩).afterAssigning found text
      return true
    match old.map (·.value), place with
    | some (Value.keyed items), place => do
      let key := place.getD "0"
      let text ← adapted attributes append (items.lookup key) text
      finish (.keyed (Keyed.put items key text)) text
    | some (Value.indexed items), none => do
      let text ← adapted attributes append (items.lookup 0) text
      finish (.indexed (Indexed.put items 0 text)) text
    | value, some place => do
      let items := match old.map (·.isSet), value with
        | some true, some value => value.toIndexed
        | _, _ => []
      match ← index? found items place with
      | none => do
        Run.setStatus 1
        return false
      | some i => do
        let text ← adapted attributes append (items.lookup i) text
        finish (.indexed (Indexed.put items i text)) text
    | _, none => do
      let text ← adapted attributes append (old.bind (·.first?)) text
      finish (.text text) text

/-- Makes a variable a list of texts; tells whether that was possible. -/
def putTexts (name : String) (texts : List String) : Run Bool := do
  let (found, _) ← locate name none
  let m ← Run.get
  let attributes := ((m.bound? found).map (·.attributes)).getD {}
  if attributes.isReadonly then refuse found
  else do
    Run.modify fun m => m.setTexts found texts
    return true

end Assigning

end ActionServer.Shell
