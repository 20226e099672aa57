import ActionServer.Json.Document
import ActionServer.Text.Utf8

/-!
# Reading JSON text

Reading has two stages. `Raw` is the text taken apart by the grammar alone: fields stand in the
order of the text, repetitions included, a literal too large for a double has no number and a string
with half a surrogate pair has no text. `Raw.value?` forms the value: it refuses those two and
nesting beyond a limit, and orders the fields, of which the last with a key counts.

A decoder that expects a fixed shape works on `Raw`, since for it the order of the fields and their
repetition matter and what it skips need not have a value.
-/

namespace ActionServer

/-- JSON text taken apart. -/
inductive Raw where
  | null
  | bool (b : Bool)
  | number (n : Option Number)
  | string (s : Option String)
  | array (items : List Raw)
  | object (fields : List (Option String × Raw))
  deriving Inhabited

namespace Raw

/-- The blanks that may stand between tokens. -/
def isSpace (c : Char) : Bool :=
  c == ' ' || c == '\t' || c == '\n' || c == '\r'

def skipSpaces (cs : List Char) : List Char :=
  cs.dropWhile isSpace

def hexValue? (c : Char) : Option Nat :=
  if '0' ≤ c ∧ c ≤ '9' then some (c.toNat - 0x30)
  else if 'a' ≤ c ∧ c ≤ 'f' then some (c.toNat - 0x61 + 10)
  else if 'A' ≤ c ∧ c ≤ 'F' then some (c.toNat - 0x41 + 10)
  else none

/-- Four hexadecimal digits at the beginning of a text. -/
def hexUnit? : List Char → Option (Nat × List Char)
  | a :: b :: c :: d :: rest => do
    let a ← hexValue? a
    let b ← hexValue? b
    let c ← hexValue? c
    let d ← hexValue? d
    some (((a * 16 + b) * 16 + c) * 16 + d, rest)
  | _ => none

/-- The character of an escape with a single letter. -/
def shortEscape? : Char → Option Char
  | '"' => some '"'
  | '\\' => some '\\'
  | '/' => some '/'
  | 'b' => some '\x08'
  | 'f' => some '\x0c'
  | 'n' => some '\n'
  | 'r' => some '\r'
  | 't' => some '\t'
  | _ => none

/-- What a four digit escape stands for, given the text after it: a character and the rest, or
nothing when it is half a surrogate pair. -/
def pairUnit (unit : Nat) (rest : List Char) : Option Char × List Char :=
  if unit < 0xD800 ∨ 0xDFFF < unit then (some (Char.ofNat unit), rest)
  else if 0xDC00 ≤ unit then (none, rest)
  else match rest with
    | '\\' :: 'u' :: more =>
      match hexUnit? more with
      | some (low, more) =>
        if 0xDC00 ≤ low ∧ low ≤ 0xDFFF then
          (some (Char.ofNat (0x10000 + (unit - 0xD800) * 0x400 + (low - 0xDC00))), more)
        else (none, rest)
      | none => (none, rest)
    | _ => (none, rest)

/-- Reads a string after its opening quote. `sofar` holds the characters read, last first; `whole`
tells whether every escape had a character. -/
def readString : Nat → (sofar : List Char) → (whole : Bool) → List Char →
    Option (Option String × List Char)
  | 0, _, _, _ => none
  | _ + 1, _, _, [] => none
  | fuel + 1, sofar, whole, c :: rest =>
    if c = '"' then
      some (if whole then some (String.ofList sofar.reverse) else none, rest)
    else if c = '\\' then
      match rest with
      | 'u' :: more =>
        match hexUnit? more with
        | some (unit, more) =>
          match pairUnit unit more with
          | (some d, more) => readString fuel (d :: sofar) whole more
          | (none, more) => readString fuel sofar false more
        | none => none
      | e :: more =>
        match shortEscape? e with
        | some d => readString fuel (d :: sofar) whole more
        | none => none
      | [] => none
    else if c.toNat < 0x20 then none
    else readString fuel (c :: sofar) whole rest

def digitsOf (cs : List Char) : List Nat :=
  cs.map fun c => c.toNat - 0x30

/-- Reads the digits before the point: a zero stands alone. -/
def readWhole : List Char → Option (List Nat × List Char)
  | [] => none
  | c :: rest =>
    if c = '0' then
      match rest with
      | d :: _ => if d.isDigit then none else some ([0], rest)
      | [] => some ([0], rest)
    else if c.isDigit then
      some (digitsOf (c :: rest.takeWhile Char.isDigit), rest.dropWhile Char.isDigit)
    else none

/-- Reads a point and the digits after it, if there is a point. -/
def readFraction : List Char → Option (Option (List Nat) × List Char)
  | '.' :: rest =>
    match rest.takeWhile Char.isDigit with
    | [] => none
    | ds => some (some (digitsOf ds), rest.dropWhile Char.isDigit)
  | cs => some (none, cs)

def natOf (digits : List Nat) : Nat :=
  digits.foldl (fun n d => n * 10 + d) 0

/-- Reads an exponent, if there is one. -/
def readExponent : List Char → Option (Option Int × List Char)
  | c :: rest =>
    if c = 'e' ∨ c = 'E' then
      let (negative, rest) := match rest with
        | '-' :: more => (true, more)
        | '+' :: more => (false, more)
        | _ => (false, rest)
      match rest.takeWhile Char.isDigit with
      | [] => none
      | ds =>
        let n : Int := natOf (digitsOf ds)
        some (some (if negative then -n else n), rest.dropWhile Char.isDigit)
    else some (none, c :: rest)
  | [] => some (none, [])

def readNumber (cs : List Char) : Option (Option Number × List Char) := do
  let (negative, cs) := match cs with
    | '-' :: rest => (true, rest)
    | _ => (false, cs)
  let (whole, cs) ← readWhole cs
  let (fraction, cs) ← readFraction cs
  let (exponent, cs) ← readExponent cs
  some (Number.ofLiteral? ⟨negative, whole, fraction, exponent⟩, cs)

/-- Drops a word from the beginning of a text. -/
def expect : List Char → List Char → Option (List Char)
  | [], cs => some cs
  | w :: ws, c :: cs => if w = c then expect ws cs else none
  | _ :: _, [] => none

mutual

/-- Reads one value at the beginning of a text, blanks before it skipped. -/
def readValue : Nat → List Char → Option (Raw × List Char)
  | 0, _ => none
  | fuel + 1, cs =>
    match skipSpaces cs with
    | [] => none
    | c :: rest =>
      if c = '"' then (readString (rest.length + 1) [] true rest).map fun (s, cs) => (string s, cs)
      else if c = '[' then
        match skipSpaces rest with
        | ']' :: cs => some (array [], cs)
        | cs => readItems fuel [] cs
      else if c = '{' then
        match skipSpaces rest with
        | '}' :: cs => some (object [], cs)
        | cs => readFields fuel [] cs
      else if c = 'n' then (expect ['u', 'l', 'l'] rest).map fun cs => (null, cs)
      else if c = 't' then (expect ['r', 'u', 'e'] rest).map fun cs => (bool true, cs)
      else if c = 'f' then (expect ['a', 'l', 's', 'e'] rest).map fun cs => (bool false, cs)
      else (readNumber (c :: rest)).map fun (n, cs) => (number n, cs)

/-- Reads the items of an array up to its closing bracket; `sofar` holds those read, last first. -/
def readItems : Nat → (sofar : List Raw) → List Char → Option (Raw × List Char)
  | 0, _, _ => none
  | fuel + 1, sofar, cs =>
    match readValue fuel cs with
    | none => none
    | some (v, cs) =>
      match skipSpaces cs with
      | ',' :: cs => readItems fuel (v :: sofar) cs
      | ']' :: cs => some (array (v :: sofar).reverse, cs)
      | _ => none

/-- Reads the fields of an object up to its closing brace; `sofar` holds those read, last first. -/
def readFields : Nat → (sofar : List (Option String × Raw)) → List Char → Option (Raw × List Char)
  | 0, _, _ => none
  | fuel + 1, sofar, cs =>
    match skipSpaces cs with
    | '"' :: cs =>
      match readString (cs.length + 1) [] true cs with
      | none => none
      | some (key, cs) =>
        match skipSpaces cs with
        | ':' :: cs =>
          match readValue fuel cs with
          | none => none
          | some (v, cs) =>
            match skipSpaces cs with
            | ',' :: cs => readFields fuel ((key, v) :: sofar) cs
            | '}' :: cs => some (object ((key, v) :: sofar).reverse, cs)
            | _ => none
        | _ => none
    | _ => none

end

/-- Takes a whole text apart; nothing but blanks may follow the value. -/
def ofChars? (cs : List Char) : Option Raw :=
  match readValue (2 * cs.length + 2) cs with
  | some (v, rest) => if (skipSpaces rest).isEmpty then some v else none
  | none => none

/-- Takes a whole text apart. -/
def ofText? (s : String) : Option Raw :=
  ofChars? s.toList

/-- The key that marks an object as a wrapping: what it wraps is the text of a value. -/
def wrapKey : String := "$serde_json::private::RawValue"

mutual

/-- The value of a text taken apart, with at most `depth` arrays and objects around any part. An
object whose first key marks a wrapping has no other field and is the value that `unwrap` reads from
the wrapped text. -/
def valueWith (unwrap : String → Option Json) (depth : Nat) : Raw → Option Json
  | null => some .null
  | bool b => some (.bool b)
  | number n => n.map .number
  | string s => s.map .string
  | array items => if depth = 0 then none else (itemsWith unwrap (depth - 1) items).map .array
  | object [(some key, string (some s))] =>
    if depth = 0 then none
    else if key = wrapKey then unwrap s
    else some (Json.ofFields [(key, .string s)])
  | object fields =>
    if depth = 0 then none
    else if fields.head?.bind (·.1) = some wrapKey then none
    else (fieldsWith unwrap (depth - 1) fields).map Json.ofFields

def itemsWith (unwrap : String → Option Json) (depth : Nat) : List Raw → Option (List Json)
  | [] => some []
  | x :: xs =>
    match valueWith unwrap depth x with
    | some v => (itemsWith unwrap depth xs).map (v :: ·)
    | none => none

def fieldsWith (unwrap : String → Option Json) (depth : Nat) :
    List (Option String × Raw) → Option (List (String × Json))
  | [] => some []
  | (key, x) :: rest =>
    match key, valueWith unwrap depth x with
    | some k, some v => (fieldsWith unwrap depth rest).map ((k, v) :: ·)
    | _, _ => none

end

mutual

/-- Whether every part has a value and at most `depth` arrays and objects stand around it. -/
def isSound (depth : Nat) : Raw → Bool
  | null | bool _ => true
  | number n => n.isSome
  | string s => s.isSome
  | array items => depth != 0 && areSound (depth - 1) items
  | object fields => depth != 0 && haveSound (depth - 1) fields

def areSound (depth : Nat) : List Raw → Bool
  | [] => true
  | x :: xs => isSound depth x && areSound depth xs

def haveSound (depth : Nat) : List (Option String × Raw) → Bool
  | [] => true
  | (key, x) :: rest => key.isSome && isSound depth x && haveSound depth rest

end

mutual

/-- A value as text taken apart, for decoders that work on both. -/
def ofJson : Json → Raw
  | .null => null
  | .bool b => bool b
  | .number n => number (some n)
  | .string s => string (some s)
  | .array items => array (ofItems items)
  | .object fields => object (ofFields fields)

def ofItems : List Json → List Raw
  | [] => []
  | x :: xs => ofJson x :: ofItems xs

def ofFields : List (String × Json) → List (Option String × Raw)
  | [] => []
  | (k, x) :: rest => (some k, ofJson x) :: ofFields rest

end

end Raw

namespace Json

/-- How many arrays and objects may stand around a part of a text. -/
def nestingLimit : Nat := 127

/-- Reads a text as a value, through as many wrappings as there is fuel. -/
def read? : Nat → String → Option Json
  | 0, _ => none
  | fuel + 1, s => (Raw.ofText? s).bind (Raw.valueWith (read? fuel) nestingLimit)

/-- Reads a text as a value. A wrapped text is shorter than the text around it. -/
def ofText? (s : String) : Option Json :=
  read? (s.length + 1) s

/-- Reads bytes as a value: they have to be UTF-8. -/
def ofBytes? (bytes : List UInt8) : Option Json :=
  match Utf8.decode bytes with
  | .ok s => ofText? s
  | .error _ => none

end Json

/-- The value of a text taken apart. -/
def Raw.value? (r : Raw) : Option Json :=
  r.valueWith Json.ofText? Json.nestingLimit

end ActionServer
