import ActionServer.Shell.Tracing

/-!
# Assignments

An assignment gives a variable a text, or makes it an array of values between parentheses. The values
of an array are expanded first, those that have no place of their own into fields; then each is put at
its place, or behind the one before. An array under keys takes its values in pairs where the first one
has no place.
-/

namespace ActionServer.Shell.Filling

/-- How the place of a value was given, if it has one. -/
inductive Placing where
  | bracketed
  /-- In front of the value, as a value of its own. -/
  | paired
  /-- As a value of its own that no other one follows. -/
  | alone
  deriving DecidableEq, Repr

/-- A value of an array after its expansion. -/
structure Entry where
  place : Option String
  append : Bool
  text : String
  placing : Placing

namespace Entry

/-- An entry as a diagnostic has it. -/
def source (e : Entry) : String :=
  match e.place with
  | some p => s!"[{p}]" ++ (if e.append then "+=" else "=") ++ e.text
  | none => e.text

/-- An entry as a trace has it. -/
def traced (e : Entry) : List Char :=
  let single := Quoting.single e.text.toList
  match e.place with
  | some p =>
    let place := Quoting.single p.toList
    match e.placing with
    | .bracketed => '[' :: place ++ (if e.append then "]+=" else "]=").toList ++ single
    | .paired => place ++ ' ' :: single
    | .alone => place
  | none => single

end Entry

/-- The fields of a value without a place. -/
def fieldsOf (substitute : Expansion.Substitute) (n : Nat) (w : Parts) : Run (List String) := do
  let braces := (← Run.get).hasOption "braceexpand"
  Run.collect (Expansion.fields substitute n) (if braces then Braces.ofParts w else [w])

/-- The entries of an array whose places are numbers. -/
def indexedEntries (substitute : Expansion.Substitute) (n : Nat) (items : List Item) :
    Run (List Entry) :=
  Run.collect (fun
    | .mk none append w => do
      return (← fieldsOf substitute n w).map fun text => ⟨none, append, text, .bracketed⟩
    | .mk (some place) append w => do
      let place ← Expansion.pieces substitute n place
      let text ← Expansion.valueText substitute n w
      return [⟨some (String.ofList (Piece.text place)), append, text, .bracketed⟩]) items

/-- The text of a value that stands in a pair. -/
def pairedText (substitute : Expansion.Substitute) (n : Nat) : Item → Run String
  | .mk none _ w => Expansion.valueText substitute n w
  | .mk (some place) append w =>
    let sign : Parts := if append then [.plain '+', .plain '='] else [.plain '=']
    Expansion.valueText substitute n (.plain '[' :: place ++ .plain ']' :: sign ++ w)

/-- The entries of an array whose values come in pairs; the last one can be missing. -/
def pairs (substitute : Expansion.Substitute) (n : Nat) : List Item → Run (List Entry)
  | [] => return []
  | [key] => do return [⟨some (← pairedText substitute n key), false, "", .alone⟩]
  | key :: value :: rest => do
    let key ← pairedText substitute n key
    let text ← pairedText substitute n value
    return ⟨some key, false, text, .paired⟩ :: (← pairs substitute n rest)

/-- The entries of an array whose places are keys. -/
def keyedEntries (substitute : Expansion.Substitute) (n : Nat) (items : List Item) :
    Run (List Entry) :=
  match items with
  | .mk none _ _ :: _ => pairs substitute n items
  | _ =>
    Run.collect (fun
      | .mk none append w => do
        return [⟨none, append, ← Expansion.valueText substitute n w, .bracketed⟩]
      | .mk (some place) append w => do
        let place ← Expansion.pieces substitute n place
        let text ← Expansion.valueText substitute n w
        return [⟨some (String.ofList (Piece.text place)), append, text, .bracketed⟩]) items

/-- Puts entries at their places, the next one without a place at a given one. -/
def putIndexed (attributes : Attributes) :
    (next : Nat) → List (Nat × String) → List Entry → Run (List (Nat × String))
  | _, items, [] => return items
  | next, items, e :: rest => do
    let place ← match e.place with
      | none => pure (some next)
      | some p =>
        if p = "" then pure none
        else do
          let i ← Run.calculate "" p.toList
          pure (Arithmetic.placeOf? items i)
    match place with
    | none => do
      Run.complain s!"{e.source}: bad array subscript"
      putIndexed attributes next items rest
    | some i => do
      let text ← Assigning.adapted attributes e.append (items.lookup i) e.text
      putIndexed attributes (i + 1) (Indexed.put items i text) rest

/-- Puts entries under their keys. -/
def putKeyed (name : String) (isQuoted : Bool) (attributes : Attributes) :
    List (String × String) → List Entry → Run (List (String × String))
  | items, [] => return items
  | items, e :: rest => do
    match e.place with
    | none => do
      let shown := if isQuoted then String.ofList (Quoting.single e.text.toList) else e.text
      Run.complain s!"{name}: {shown}: must use subscript when assigning associative array"
      putKeyed name isQuoted attributes items rest
    | some "" => do
      let shown := if isQuoted then String.ofList e.traced else e.source
      Run.complain s!"{shown}: bad array subscript"
      putKeyed name isQuoted attributes items rest
    | some key => do
      let text ← Assigning.adapted attributes e.append (items.lookup key) e.text
      putKeyed name isQuoted attributes (Keyed.put items key text) rest

/-- The entries of an array. -/
def entriesOf (substitute : Expansion.Substitute) (n : Nat) (isKeyed : Bool) (items : List Item) :
    Run (List Entry) :=
  if isKeyed then keyedEntries substitute n items else indexedEntries substitute n items

/-- Makes a variable an array of some entries, or adds them; tells whether that was possible. -/
def putEntries (inDeclaration : Bool) (name : String) (append : Bool) (entries : List Entry) :
    Run Bool := do
  let (found, _) ← Assigning.locate name none
  let m ← Run.get
  let v := (m.bound? found).getD ⟨.text "", false, {}⟩
  if v.attributes.isReadonly then Assigning.refuse found
  else if Assigning.fixed.contains found then return true
  else do
    let value : Value ← match v.value with
      | .keyed old => do
        let old := if append then old else []
        pure (.keyed (← putKeyed found inDeclaration v.attributes old entries))
      | value => do
        let old := if append && v.isSet then value.toIndexed else []
        pure (.indexed (← putIndexed v.attributes (Indexed.stop old) old entries))
    Run.modify fun m =>
      let isExported := v.attributes.isExported || m.hasOption "allexport"
      m.bind found ⟨value, true, { v.attributes with isExported }⟩
    return true

/-- Whether the places of a variable are keys. -/
def isKeyed (m : Machine) (name : String) : Bool :=
  ((m.bound? (Machine.splitPlace (m.target name)).1).map (·.value.isKeyed)).getD false

/-- Makes a variable an array of values, or adds them; tells whether that was possible. -/
def fill (substitute : Expansion.Substitute) (n : Nat) (inDeclaration : Bool) (name : String)
    (append : Bool) (items : List Item) : Run Bool := do
  let entries ← entriesOf substitute n (isKeyed (← Run.get) name) items
  putEntries inDeclaration name append entries

/-- The entries of an array that is declared, as a trace has them. -/
def traced (name : String) (append : Bool) (entries : List Entry) : List Char :=
  name.toList ++ (if append then "+=(" else "=(").toList ++
    [' '].intercalate (entries.map Entry.traced) ++ [')']

/-- The values of an array in a text of the form that a script has. -/
def itemsOf (text : String) : List Item :=
  let cs := text.toList.drop 1
  match Grammar.array (Grammar.stepsFor cs) (Cursor.ofChars cs 1 false) with
  | .ok (items, _) => items
  | .error _ => []

/-- The text of an assignment in front of its value. -/
def frontOf (source : String) (a : Words.Assignment) : String :=
  let cs := source.toList
  let name := a.name.toList
  let place := match cs.drop name.length with
    | '[' :: rest =>
      match Arithmetic.bracketed 0 rest with
      | some (inner, _) => '[' :: inner ++ [']']
      | none => []
    | _ => []
  String.ofList (name ++ place)

/-- Makes an assignment; tells whether that was possible. -/
def assign (substitute : Expansion.Substitute) (n : Nat) (source : String) (a : Words.Assignment) :
    Run Bool := do
  let front := frontOf source a
  match a.value, a.place with
  | [.items _], some _ => do
    Run.fail 1 s!"{front}: cannot assign list to array member"
    return false
  | [.items items], none => do
    Tracing.line substitute n source.toList
    fill substitute n false a.name a.append items
  | value, place => do
    let text ← Expansion.valueText substitute n value
    let sign := if a.append then "+=" else "="
    Tracing.line substitute n ((front ++ sign).toList ++ Quoting.tracedValue text.toList)
    match place with
    | none => Assigning.put a.name none a.append text
    | some parts => do
      let place := String.ofList (Piece.text (← Expansion.pieces substitute n parts))
      if place = "" && (parts.isEmpty || isKeyed (← Run.get) a.name) then do
        Run.fail 1 s!"{front}: bad array subscript"
        return false
      else Assigning.put a.name (some (if place = "" then "0" else place)) a.append text

end ActionServer.Shell.Filling
