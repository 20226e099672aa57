import ActionServer.Shell.Quoting
import ActionServer.Shell.Syntax

/-!
# Variables

A variable holds one text, a list of texts at numbered places, or texts under keys. Attributes say
what happens when something is assigned to it. Places that hold nothing are left out, so that a list
can have gaps; texts under keys are told of in an order that their keys fix, whatever the order in
which they were put there.
-/

namespace ActionServer.Shell

inductive Value where
  | text (s : String)
  /-- Texts at places, in the order of the places. -/
  | indexed (items : List (Nat × String))
  /-- Texts under keys, the latest first. -/
  | keyed (items : List (String × String))
  deriving DecidableEq, Repr, Inhabited

/-- What becomes of the letters of a text that is assigned. -/
inductive LetterRule where
  | upper
  | lower
  | capital
  deriving DecidableEq, Repr

structure Attributes where
  isExported : Bool := false
  isReadonly : Bool := false
  isInteger : Bool := false
  /-- Stands for the variable whose name is its value. -/
  isReference : Bool := false
  isTraced : Bool := false
  letters : Option LetterRule := none
  deriving DecidableEq, Repr, Inhabited

structure Variable where
  value : Value
  /-- A variable can be declared without being given a value. -/
  isSet : Bool
  attributes : Attributes
  deriving DecidableEq, Repr, Inhabited

namespace Keyed

/-- A number of thirty-two bits that a key comes to: each byte is mixed into what the bytes before it
came to. -/
def hash (key : String) : Nat :=
  key.toList.foldl (fun h c =>
    let byte := if c.toNat < 128 then c.toNat else c.toNat + (Nat.pow 2 32 - 256)
    ((h * 16777619) % Nat.pow 2 32) ^^^ byte) 2166136261

/-- Rows over which keys are spread. -/
def rows : Nat := 1024

/-- The entries in the order in which they are told of: row by row, in a row the latest first. -/
def ordered (items : List (String × String)) : List (String × String) :=
  items.mergeSort fun a b => hash a.1 % rows ≤ hash b.1 % rows

/-- Puts a text under a key; one that is there already keeps its place. -/
def put (items : List (String × String)) (key text : String) : List (String × String) :=
  if items.any (·.1 == key) then items.map fun e => if e.1 == key then (key, text) else e
  else (key, text) :: items

end Keyed

namespace Indexed

/-- Puts a text at a place. -/
def put : List (Nat × String) → Nat → String → List (Nat × String)
  | [], i, s => [(i, s)]
  | (j, t) :: rest, i, s =>
    if i < j then (i, s) :: (j, t) :: rest
    else if i = j then (i, s) :: rest
    else (j, t) :: put rest i s

/-- The place behind the last one. -/
def stop (items : List (Nat × String)) : Nat :=
  match items.getLast? with
  | some (i, _) => i + 1
  | none => 0

/-- Texts at the first places. -/
def ofTexts (texts : List String) : List (Nat × String) :=
  (List.range texts.length).zip texts

end Indexed

namespace Value

def isArray : Value → Bool
  | text _ => false
  | _ => true

def isKeyed : Value → Bool
  | keyed _ => true
  | _ => false

/-- The texts with their places or keys, in the order in which they are told of. -/
def entries : Value → List (String × String)
  | text s => [("0", s)]
  | indexed items => items.map fun (i, s) => (toString i, s)
  | keyed items => Keyed.ordered items

/-- The text at the place that is meant where none is named. -/
def first? : Value → Option String
  | text s => some s
  | indexed items => items.lookup 0
  | keyed items => items.lookup "0"

/-- The list that a value is. -/
def toIndexed : Value → List (Nat × String)
  | text s => [(0, s)]
  | indexed items => items
  | keyed items => items.map fun (_, s) => (0, s)

end Value

namespace Variable

def ofText (s : String) : Variable := ⟨.text s, true, {}⟩

/-- The texts with their places or keys; none if there is no value. -/
def entries (v : Variable) : List (String × String) :=
  if v.isSet then v.value.entries else []

/-- The text at the place that is meant where none is named. -/
def first? (v : Variable) : Option String :=
  if v.isSet then v.value.first? else none

end Variable

namespace Attributes

/-- Changes the first letter of a text to a capital one and the others to small ones. -/
def capitalized : List Char → List Char
  | [] => []
  | c :: cs => c.toUpper :: cs.map Char.toLower

/-- What a text becomes when it is assigned. -/
def recase (a : Attributes) (s : String) : String :=
  match a.letters with
  | none => s
  | some .upper => String.ofList (s.toList.map Char.toUpper)
  | some .lower => String.ofList (s.toList.map Char.toLower)
  | some .capital => String.ofList (capitalized s.toList)

end Attributes

namespace Variable

/-- The letters of the attributes. -/
def letters (v : Variable) : String :=
  let a := v.attributes
  let flag (on : Bool) (s : String) : String := if on then s else ""
  let isIndexed := match v.value with
    | .indexed _ => true
    | _ => false
  flag isIndexed "a" ++ flag v.value.isKeyed "A" ++ flag a.isInteger "i" ++
    flag a.isReference "n" ++ flag a.isReadonly "r" ++ flag a.isTraced "t" ++
    flag a.isExported "x" ++ (match a.letters with
      | none => ""
      | some .capital => "c"
      | some .lower => "l"
      | some .upper => "u")

/-- A key in a listing. -/
def shownKey (key : String) : List Char :=
  let cs := key.toList
  if Quoting.needsDollar cs then Quoting.dollar cs
  else if cs.isEmpty || cs == ['@'] || Quoting.isMisread none cs then Quoting.double cs
  else cs

/-- The values of an array as an assignment has them. -/
def shownItems (v : Variable) : List Char :=
  let entry (e : String × String) : List Char :=
    let key := if v.value.isKeyed then shownKey e.1 else e.1.toList
    '[' :: key ++ [']', '='] ++ Quoting.value e.2.toList
  let texts := v.entries.map entry
  let inner := if v.value.isKeyed then texts.flatMap (· ++ [' '])
    else [' '].intercalate texts
  '(' :: inner ++ [')']

/-- A name with its value as a listing has it. -/
def shownValue (name : String) (v : Variable) : List Char :=
  if !v.isSet then name.toList
  else
    match v.value with
    | .text s => name.toList ++ '=' :: Quoting.value s.toList
    | _ => name.toList ++ '=' :: v.shownItems

/-- A variable as a declaration. -/
def declaration (name : String) (v : Variable) : String :=
  let letters := if v.letters = "" then "-" else v.letters
  s!"declare -{letters} " ++ String.ofList (v.shownValue name)

end Variable

end ActionServer.Shell
