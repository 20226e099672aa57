import ActionServer.Shell.Assigning
import ActionServer.Shell.Expansion
import ActionServer.Shell.Listing

/-!
# Declaring variables

Variables get attributes and values by `declare` and the commands like it, in functions perhaps only
for as long as the function runs, and lose them by `unset`. Without names these commands list what
there is.
-/

namespace ActionServer.Shell

namespace Machine

/-- The value that a variable has outside all functions. -/
def global? (m : Machine) (name : String) : Option Variable :=
  match m.calls.reverse.findSome? fun c => c.hidden.lookup name with
  | some v => v
  | none => m.bound? name

/-- Changes the value that a variable has outside all functions. -/
def setGlobal (m : Machine) (name : String) (v : Option Variable) : Machine :=
  let rec go : List Call → Option (List Call)
    | [] => none
    | c :: rest =>
      match go rest with
      | some rest => some (c :: rest)
      | none =>
        if c.hidden.any (·.1 == name) then
          some ({ c with hidden := c.hidden.map fun h => if h.1 == name then (name, v) else h } :: rest)
        else none
  match go m.calls with
  | some calls => { m with calls }
  | none =>
    match v with
    | some v => m.bind name v
    | none => m.unbind name

/-- Whether a function hides a variable. -/
def isHidden (m : Machine) (name : String) : Bool :=
  m.calls.any fun c => c.hidden.any (·.1 == name)

/-- Takes away a local variable of a function further out, so that what it hid can be seen. -/
def uncover (m : Machine) (name : String) : Machine :=
  let rec go : List Call → List Call × Option (Option Variable)
    | [] => ([], none)
    | c :: rest =>
      match c.hidden.lookup name with
      | some v => ({ c with hidden := c.hidden.filter (·.1 != name) } :: rest, some v)
      | none =>
        let (rest, found) := go rest
        (c :: rest, found)
  match go m.calls with
  | (calls, some (some v)) => { m with calls }.bind name v
  | (calls, _) => { m with calls }.unbind name

end Machine

namespace Declarations

/-- What is declared. -/
inductive Argument where
  | text (s : String)
  /-- A variable with the values of an array, and how it takes them. -/
  | list (name : String) (fill : Run Bool)

/-- The kind of array that is asked for. -/
inductive ArrayKind where
  | indexed
  | keyed
  deriving DecidableEq, Repr

/-- What the options of a declaration ask for. -/
structure Request where
  prints : Bool := false
  functions : Bool := false
  functionNames : Bool := false
  global : Bool := false
  inherits : Bool := false
  array : Option ArrayKind := none
  /-- An array cannot be made something else. -/
  unmakesArray : Bool := false
  integer : Option Bool := none
  reference : Option Bool := none
  readonly : Option Bool := none
  exported : Option Bool := none
  traced : Option Bool := none
  letters : List (LetterRule × Bool) := []
  /-- The options of the running function end with it. -/
  keepsOptions : Bool := false

/-- The letters of the options of a declaration. -/
def letters : List Char := "aAcfFgiIlnprtux".toList

/-- Takes the meaning of an option letter into a request. -/
def Request.take (r : Request) (on : Bool) (c : Char) : Request :=
  match c with
  | 'p' => { r with prints := on }
  | 'f' => { r with functions := true }
  | 'F' => { r with functions := true, functionNames := true }
  | 'g' => { r with global := on }
  | 'I' => { r with inherits := on }
  | 'a' => if on then { r with array := r.array <|> some .indexed } else { r with unmakesArray := true }
  | 'A' => if on then { r with array := some .keyed } else { r with unmakesArray := true }
  | 'i' => { r with integer := some on }
  | 'n' => { r with reference := some on }
  | 'r' => { r with readonly := some on }
  | 'x' => { r with exported := some on }
  | 't' => { r with traced := some on }
  | 'u' => { r with letters := r.letters ++ [(.upper, on)] }
  | 'l' => { r with letters := r.letters ++ [(.lower, on)] }
  | 'c' => { r with letters := r.letters ++ [(.capital, on)] }
  | _ => r

/-- The letter rule after a request: two that are asked for at a time undo each other. -/
def Request.letterRule (r : Request) (before : Option LetterRule) : Option LetterRule :=
  match r.letters.filterMap fun (rule, on) => if on then some rule else none with
  | [] => before.filter fun rule => !r.letters.contains (rule, false)
  | [rule] => some rule
  | rule :: others => if others.all (· == rule) then some rule else none

/-- The options in front of the names; the error is a letter that is none. -/
def requestFrom : Request → List Argument → Except Char (Request × List Argument)
  | r, .text a :: rest =>
    match a.toList with
    | ['-', '-'] => .ok (r, rest)
    | sign :: c :: cs =>
      if sign = '-' ∨ sign = '+' then
        match (c :: cs).find? fun c => !letters.contains c with
        | some c => .error c
        | none => requestFrom ((c :: cs).foldl (fun r c => r.take (sign == '-') c) r) rest
      else .ok (r, .text a :: rest)
    | _ => .ok (r, .text a :: rest)
  | r, arguments => .ok (r, arguments)

/-- A name, perhaps with a place, and perhaps a value. -/
structure Assigned where
  name : String
  place : Option String
  append : Bool
  value : Option String

/-- The parts of a text that declares a variable; nothing if it has no name. -/
def assigned? (s : String) : Option Assigned :=
  let cs := s.toList
  let name := cs.takeWhile Words.isNameChar
  if !Words.isName name then none
  else
    let (place, rest) := match cs.drop name.length with
      | '[' :: rest =>
        match Arithmetic.bracketed 0 rest with
        | some (inner, after) => (some (String.ofList inner), after)
        | none => (none, '[' :: rest)
      | rest => (none, rest)
    let name := String.ofList name
    match rest with
    | [] => some ⟨name, place, false, none⟩
    | '=' :: value => some ⟨name, place, false, some (String.ofList value)⟩
    | '+' :: '=' :: value => some ⟨name, place, true, some (String.ofList value)⟩
    | _ => none

/-- Does something with a variable as it is outside all functions. -/
def globally {α : Type} (name : String) (r : Run α) : Run α := do
  let before ← Run.get
  if !before.isHidden name then r
  else do
    let inner := before.bound? name
    Run.modify fun m =>
      match m.global? name with
      | some v => m.bind name v
      | none => m.unbind name
    let result ← Run.attempt r
    Run.modify fun m =>
      let m := m.setGlobal name (m.bound? name)
      match inner with
      | some v => m.bind name v
      | none => m.unbind name
    Run.resume result

/-- A variable that has been declared and nothing else. -/
def blank : Variable := ⟨.text "", false, {}⟩

/-- The value of a variable as an array of some kind; nothing if it is one of the other kind. -/
def arrayValue? (kind : ArrayKind) (v : Variable) : Option Value :=
  match kind, v.value with
  | .indexed, .text s => some (.indexed (if v.isSet then [(0, s)] else []))
  | .indexed, .indexed items => some (.indexed items)
  | .keyed, .text s => some (.keyed (if v.isSet then [("0", s)] else []))
  | .keyed, .keyed items => some (.keyed items)
  | _, _ => none

/-- Fails under the name of a command. -/
def failed (command message : String) : Run Bool := do
  Run.fail 1 s!"{command}: {message}"
  return false

/-- Gives a variable attributes and a value; how it takes its value is given. -/
def shape (command : String) (r : Request) (name : String) (value : Option (Run Bool)) :
    Run Bool := do
  let m ← Run.get
  let v := (m.bound? name).getD blank
  let a := v.attributes
  let special := (m.special? name).isSome && (m.bound? name).isNone
  if a.isReadonly && (r.readonly == some false || r.integer.isSome || !r.letters.isEmpty) then
    failed command s!"{name}: readonly variable"
  else if a.isReadonly && value.isSome && command != "export" && command != "readonly" then
    failed command s!"{name}: readonly variable"
  else if r.unmakesArray && v.value.isArray then
    failed command s!"{name}: cannot destroy array variables in this way"
  else
    let value? := match r.array with
      | some kind => arrayValue? kind v
      | none => some v.value
    match value? with
    | none =>
      failed command (if v.value.isKeyed then
        s!"{name}: cannot convert associative to indexed array"
      else s!"{name}: cannot convert indexed to associative array")
    | some held => do
      let attributes : Attributes := { a with
        isInteger := r.integer.getD a.isInteger
        isReference := r.reference.getD a.isReference
        isTraced := r.traced.getD a.isTraced
        letters := r.letterRule a.letters }
      if !special then
        Run.modify fun m => m.bind name { v with value := held, attributes }
      let isDone ← match value with
        | some fill => fill
        | none => pure true
      if isDone then
        Run.modify fun m =>
          match m.bound? name with
          | some v =>
            let a := v.attributes
            m.bind name { v with attributes := { a with
              isReadonly := r.readonly.getD a.isReadonly
              isExported := r.exported.getD a.isExported } }
          | none => m
      return isDone

/-- Makes a variable stand for another one. -/
def refer (command : String) (r : Request) (name : String) (value : Option String) : Run Bool := do
  let m ← Run.get
  match value with
  | none => shape command r name none
  | some target =>
    if target = name || (Machine.splitPlace target).1 = name then
      failed command s!"{name}: nameref variable self references not allowed"
    else if !Machine.isPlace target then
      failed command s!"\x60{target}': invalid variable name for name reference"
    else if ((m.bound? name).map (·.attributes.isReadonly)).getD false then
      failed command s!"{name}: readonly variable"
    else if ((m.bound? name).map (·.value.isArray)).getD false then
      failed command s!"{name}: reference variable cannot be an array"
    else
      shape command r name (some do
        Run.modify fun m =>
          let attributes := ((m.bound? name).map (·.attributes)).getD {}
          m.bind name ⟨.text target, true, attributes⟩
        return true)

/-- Makes a variable local to the running function, where it is not yet. -/
def makeLocal (command : String) (r : Request) (name : String) : Run Bool := do
  let m ← Run.get
  if m.isLocal name then return true
  else if ((m.bound? name).map (·.attributes.isReadonly)).getD false && !m.isHidden name then
    failed command s!"{name}: readonly variable"
  else do
    Run.modify fun m =>
      let hidden := m.hide name
      if r.inherits || m.hasShellOption "localvar_inherit" then hidden else hidden.unbind name
    return true

/-- Whether a text has the form of the values of an array. -/
def isCompound (s : String) : Bool :=
  s.toList.head? == some '(' && s.toList.getLast? == some ')'

/-- How texts with the values of an array are taken. -/
abbrev Fill := (name : String) → (append : Bool) → (text : String) → Run Bool

/-- Declares one variable; tells whether that was possible. -/
def declareOne (command : String) (isLocal : Bool) (fillText : Fill) (r : Request)
    (argument : Argument) : Run Bool := do
  let (given, shown) := match argument with
    | .text s => (assigned? s, s)
    | .list name _ => (some ⟨name, none, false, none⟩, name)
  match given with
  | none => failed command s!"\x60{shown}': not a valid identifier"
  | some given =>
    let isPlain := command = "export" || command = "readonly"
    match isPlain, given.place with
    | true, some place =>
      failed command s!"\x60{given.name}[{place}]': not a valid identifier"
    | _, _ => do
      let m ← Run.get
      let makesLocal := isLocal && m.inFunction && !r.global
      let isReference := r.reference == some true
      let ready ← if makesLocal then makeLocal command r given.name else pure true
      if !ready then return false
      else
        let (found, place) := Machine.splitPlace ((← Run.get).target given.name)
        let name := if makesLocal || r.reference.isSome || place.isSome then given.name else found
        let work : Run Bool := do
          if isReference then refer command r name given.value
          else
            let array := r.array <|> (match argument, given.place with
              | .list _ _, _ | _, some _ =>
                if ((m.bound? name).map (·.value.isKeyed)).getD false && !makesLocal then some .keyed
                else some .indexed
              | _, _ => none)
            let isArray := array.isSome || ((m.bound? name).map (·.value.isArray)).getD false
            let fill : Option (Run Bool) := match argument, given.value with
              | .list _ fill, _ => some fill
              | .text _, some value =>
                if given.place.isNone && isArray && (r.array.isSome || !isPlain) && isCompound value then
                  some (fillText name given.append value)
                else some (Assigning.put name given.place given.append value)
              | .text _, none => none
            shape command { r with array } name fill
        if r.global then globally name work else work

/-- A value in a listing of variables. -/
def listed (name : String) (v : Variable) : String :=
  match v.value with
  | .text s => name ++ "=" ++ String.ofList (Quoting.tracedValue s.toList)
  | _ => name ++ "=" ++ String.ofList v.shownItems

/-- The variables in the order of their names. -/
def sorted (m : Machine) : List (String × Variable) :=
  m.bindings.mergeSort fun a b => decide (a.1 ≤ b.1)

/-- The letters of a function's attributes. -/
def functionLetters (f : Function) : String :=
  "-f" ++ (if f.isReadonly then "r" else "") ++ (if f.isExported then "x" else "")

/-- The functions in the order of their names. -/
def sortedFunctions (m : Machine) : List (String × Function) :=
  m.functions.mergeSort fun a b => decide (a.1 ≤ b.1)

/-- Writes lines. -/
def say (lines : List String) : Run Unit := do
  let _ ← Run.put 1 (String.join (lines.map (· ++ "\n"))).toList
  return ()

/-- Lists functions by their names, or all of them. -/
def listFunctions (r : Request) (names : List String) : Run Unit := do
  let m ← Run.get
  let shown (name : String) (f : Function) : List String :=
    if r.functionNames then
      if names.isEmpty then [s!"declare {functionLetters f} {name}"] else [name]
    else
      let extra := if f.isReadonly || f.isExported then [s!"declare {functionLetters f} {name}"] else []
      Listing.definition name false f.body :: extra
  if names.isEmpty then do
    let wanted := (sortedFunctions m).filter fun (_, f) =>
      (r.readonly != some true || f.isReadonly) && (r.exported != some true || f.isExported)
    say (wanted.flatMap fun (name, f) => shown name f)
    Run.setStatus 0
  else do
    let missing := names.filter fun name => (m.functions.lookup name).isNone
    say (names.flatMap fun name => ((m.functions.lookup name).map (shown name)).getD [])
    Run.setStatus (if missing.isEmpty then 0 else 1)

/-- Whether a variable has the attributes that are asked for. -/
def hasAttributes (r : Request) (v : Variable) : Bool :=
  let a := v.attributes
  let has (wanted : Option Bool) (on : Bool) : Bool := wanted != some true || on
  has r.integer a.isInteger && has r.reference a.isReference && has r.readonly a.isReadonly &&
    has r.exported a.isExported && has r.traced a.isTraced &&
    (match r.array with
    | some .indexed => v.value.isArray && !v.value.isKeyed
    | some .keyed => v.value.isKeyed
    | none => true) &&
    r.letters.all fun (rule, on) => !on || a.letters == some rule

/-- Lists variables by their names, as declarations. -/
def listVariables (command : String) : List String → Run Unit
  | [] => return ()
  | name :: rest => do
    match (← Run.get).lookup? name with
    | some v => say [v.declaration name]
    | none => Run.fail 1 s!"{command}: {name}: not found"
    listVariables command rest

/-- Lists all variables with some attributes. -/
def listAll (command : String) (r : Request) (asDeclarations : Bool) : Run Unit := do
  let m ← Run.get
  let isWanted (e : String × Variable) : Bool :=
    hasAttributes r e.2 && (command != "local" || m.isLocal e.1)
  let wanted := (sorted m).filter isWanted
  if asDeclarations then say (wanted.map fun (name, v) => v.declaration name)
  else say ((wanted.filter fun e => e.2.isSet).map fun (name, v) => listed name v)
  Run.setStatus 0

/-- Changes the attributes of functions. -/
def markFunctions (command : String) (r : Request) : List String → Run Unit
  | [] => return ()
  | name :: rest => do
    match (← Run.get).functions.lookup name with
    | none =>
      if command = "export" || command = "readonly" then
        Run.fail 1 s!"{command}: {name}: not a function"
      else Run.setStatus 1
    | some f =>
      if f.isReadonly && r.readonly == some false then
        Run.fail 1 s!"{command}: {name}: readonly function"
      else
        Run.modify fun m =>
          let f := { f with
            isReadonly := r.readonly.getD f.isReadonly
            isExported := r.exported.getD f.isExported }
          { m with functions := m.functions.map fun e => if e.1 == name then (name, f) else e }
    markFunctions command r rest

/-- Declares variables one after the other. -/
def declareAll (command : String) (isLocal : Bool) (fillText : Fill) (r : Request) :
    List Argument → Run Unit
  | [] => return ()
  | .text "-" :: rest => do
    if command = "local" then
      Run.modify fun m =>
        { m with calls := match m.calls with
            | c :: others => { c with options := c.options <|> some m.options } :: others
            | [] => [] }
    else
      let _ ← failed command "\x60-': not a valid identifier"
    declareAll command isLocal fillText r rest
  | a :: rest => do
    if !(← declareOne command isLocal fillText r a) then Run.setStatus 1
    declareAll command isLocal fillText r rest

/-- How a declaring command is used. -/
def usage (command : String) : String :=
  match command with
  | "local" => "local: usage: local [option] name[=value] ..."
  | "export" => "export: usage: export [-fn] [name[=value] ...] or export -p"
  | "readonly" => "readonly: usage: readonly [-aAf] [name[=value] ...] or readonly -p"
  | _ => s!"{command}: usage: {command} [-aAfFgiIlnrtux] [name[=value] ...] or {command} -p " ++
      "[-aAfFilnrtux] [name ...]"

def Argument.name : Argument → String
  | .text s => s
  | .list name _ => name

/-- The letters that a command does not take. -/
def refused (command : String) : List Char :=
  match command with
  | "export" | "readonly" => "cFgiIlrtux".toList
  | "local" => "fF".toList
  | _ => []

/-- Whether one of the letters in front of the names is refused. -/
def refusedLetter? (command : String) : List Argument → Option Char
  | .text a :: rest =>
    match a.toList with
    | ['-', '-'] => none
    | sign :: c :: cs =>
      if sign = '-' ∨ (sign = '+' && command != "export" && command != "readonly") then
        match (c :: cs).find? fun c => (refused command).contains c || !letters.contains c with
        | some c => some c
        | none => refusedLetter? command rest
      else none
    | _ => none
  | _ => none

/-- Carries out a declaring command. -/
def declare (command : String) (fillText : Fill) (arguments : List Argument) : Run Unit := do
  let m ← Run.get
  if command = "local" && !m.inFunction then
    Run.fail 1 "local: can only be used in a function"
  else
    match refusedLetter? command arguments, requestFrom {} arguments with
    | some c, _ | none, .error c => do
      Run.complain s!"{command}: -{c}: invalid option"
      Run.tell (usage command)
      Run.setStatus 2
    | none, .ok (r, rest) => do
      Run.setStatus 0
      let isUnexport := command = "export" && r.reference == some true
      let request : Request := match command with
        | "export" => { r with exported := some !isUnexport, reference := none }
        | "readonly" => { r with readonly := some true }
        | _ => r
      let hasAttribute := r.integer.isSome || r.reference.isSome || r.readonly.isSome ||
        r.exported.isSome || r.traced.isSome || r.array.isSome || !r.letters.isEmpty
      let isLocal := ["declare", "typeset", "local"].contains command
      if r.functions then
        let changes := request.readonly.isSome || request.exported.isSome
        if changes && !rest.isEmpty && !r.prints then
          markFunctions command request (rest.map Argument.name)
        else listFunctions request (rest.map Argument.name)
      else if rest.isEmpty then
        listAll command request (command = "local" || !isLocal || r.prints || hasAttribute)
        if isLocal && command != "local" && !r.prints && !hasAttribute then
          say ((sortedFunctions m).map fun (name, f) => Listing.definition name false f.body)
      else if r.prints && isLocal then listVariables command (rest.map Argument.name)
      else declareAll command isLocal fillText request rest

/-- Takes away what stands at a place of an array. -/
def unsetPlace (name place : String) : Run Unit := do
  let m ← Run.get
  match m.bound? name with
  | none => return ()
  | some v =>
    match v.value with
    | .keyed items =>
      Run.modify fun m => m.bind name { v with value := .keyed (items.filter (·.1 != place)) }
    | .indexed items =>
      if place = "@" || place = "*" then
        Run.modify fun m => m.bind name { v with value := .indexed [] }
      else
        match Arithmetic.placeOf? items (← Run.calculate "" place.toList) with
        | some i =>
          Run.modify fun m => m.bind name { v with value := .indexed (items.filter (·.1 != i)) }
        | none => Run.fail 1 s!"unset: [{place}]: bad array subscript"
    | .text _ =>
      let i ← Run.calculate "" place.toList
      if i = 0 then Run.modify fun m => m.unbind name
      else Run.fail 1 s!"unset: {name}: not an array variable"

/-- Takes away a variable. -/
def unsetVariable (name : String) : Run Unit :=
  Run.modify fun m =>
    if m.isLocal name then
      match m.bound? name with
      | some _ => m.unbind name
      | none => m
    else if m.isHidden name then m.uncover name
    else m.unbind name

/-- Takes away a function. -/
def unsetFunction (name : String) : Run Unit := do
  match (← Run.get).functions.lookup name with
  | some f =>
    if f.isReadonly then Run.fail 1 s!"unset: {name}: cannot unset: readonly function"
    else Run.modify fun m => { m with functions := m.functions.filter (·.1 != name) }
  | none => return ()

/-- What `unset` takes away. -/
inductive Kind where
  | any
  | variable
  | function
  | reference
  deriving DecidableEq, Repr

/-- Takes away what has a name. -/
def unsetOne (kind : Kind) (text : String) : Run Unit := do
  if kind = .function then unsetFunction text
  else
    let (name, place) := Machine.splitPlace text
    if !Words.isName name.toList then
      match kind with
      | .variable => Run.fail 1 s!"unset: \x60{text}': not a valid identifier"
      | .any => unsetFunction text
      | _ => return ()
    else
      let m ← Run.get
      let (found, place) := if kind = .reference then (name, place)
        else
          let (found, own) := Machine.splitPlace (m.target name)
          (found, place <|> own)
      match m.bound? found with
      | some v =>
        if v.attributes.isReadonly then
          Run.fail 1 s!"unset: {found}: cannot unset: readonly variable"
        else
          match place with
          | some place => unsetPlace found place
          | none => unsetVariable found
      | none =>
        if kind = .any && place.isNone then
          if (m.functions.lookup text).isSome then unsetFunction text
          else if m.isHidden found then unsetVariable found

def unsetAll (kind : Kind) : List String → Run Unit
  | [] => return ()
  | name :: rest => do
    unsetOne kind name
    unsetAll kind rest

/-- The options of `unset`. -/
def unsetOptions (functions values references : Bool) :
    List String → Except Char (Bool × Bool × Bool × List String)
  | [] => .ok (functions, values, references, [])
  | a :: rest =>
    match a.toList with
    | ['-', '-'] => .ok (functions, values, references, rest)
    | '-' :: c :: cs =>
      match (c :: cs).find? fun c => !"fvn".toList.contains c with
      | some c => .error c
      | none =>
        let has (l : Char) : Bool := (c :: cs).contains l
        unsetOptions (functions || has 'f') (values || has 'v') (references || has 'n') rest
    | _ => .ok (functions, values, references, a :: rest)

/-- Takes away variables and functions. -/
def unset (arguments : List String) : Run Unit := do
  match unsetOptions false false false arguments with
  | .error c => do
    Run.complain s!"unset: -{c}: invalid option"
    Run.tell "unset: usage: unset [-f] [-v] [-n] [name ...]"
    Run.setStatus 2
  | .ok (functions, values, references, names) =>
    if functions && values then
      Run.fail 1 "unset: cannot simultaneously unset a function and a variable"
    else do
      Run.setStatus 0
      unsetAll (if functions then .function else if references then .reference
        else if values then .variable else .any) names

end Declarations

end ActionServer.Shell
