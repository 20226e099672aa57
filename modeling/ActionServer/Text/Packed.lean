import ActionServer.Text.Split

/-!
# Tables of characters

A table of characters is kept as text. Its entries stand between blanks; each names a run of code
points, in hexadecimal digits, and perhaps what the run stands for: `41-5A:61` is the run from `41` to
`5A`, and to its first code point belongs `61`. A run `first-last/2` has only every second code point.
-/

namespace ActionServer.Packed

/-- A run of code points and what belongs to its first one. -/
structure Entry where
  first : Nat
  last : Nat
  step : Nat
  values : List Nat
  deriving DecidableEq, Repr

def digit (c : Char) : Nat :=
  if c.isDigit then c.toNat - '0'.toNat else c.toNat - 'A'.toNat + 10

def number (cs : List Char) : Nat :=
  cs.foldl (fun n c => 16 * n + digit c) 0

/-- A text before and after the first occurrence of a character, which is left out. -/
def cut (mark : Char) (cs : List Char) : List Char × List Char :=
  (cs.takeWhile (· != mark), (cs.dropWhile (· != mark)).tail)

def entry (cs : List Char) : Entry :=
  let (run, values) := cut ':' cs
  let (run, step) := cut '/' run
  let (first, last) := cut '-' run
  { first := number first
    last := number (if last.isEmpty then first else last)
    step := if step.isEmpty then 1 else number step
    values := if values.isEmpty then [] else (Text.split (· == '+') values).map number }

/-- Reads a table. -/
def read (s : String) : List Entry :=
  ((Text.split (fun c => c == ' ' || c == '\n') s.toList).filter (· != [])).map entry

namespace Entry

def holds (e : Entry) (n : Nat) : Bool :=
  e.first ≤ n && n ≤ e.last && (n - e.first) % e.step == 0

/-- What belongs to a code point of the run: a single value goes along with the code point. -/
def valuesAt (e : Entry) (n : Nat) : List Nat :=
  match e.values with
  | [value] => [value + (n - e.first)]
  | values => values

end Entry

/-- The entry that holds a code point. -/
def find? (table : List Entry) (n : Nat) : Option Entry :=
  table.find? (·.holds n)

def contains (table : List Entry) (n : Nat) : Bool :=
  (find? table n).isSome

end ActionServer.Packed
