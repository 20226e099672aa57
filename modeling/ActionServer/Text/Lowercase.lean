import ActionServer.Text.CaseTable

/-!
# Small letters

Lower-casing follows the Unicode standard in full. Two characters need more than a table of single
letters: the dotted capital I becomes two characters, and a capital sigma becomes the final form at
the end of a word, that is, after a cased letter and before none, marks between them passed over.
-/

namespace ActionServer.Text

/-- Whether a code point lies in one of the runs. -/
def inRuns (n : Nat) (runs : List (Nat × Nat)) : Bool :=
  runs.any fun run => run.1 ≤ n && n ≤ run.2

/-- Whether a run of capitals has the code point among its members. -/
def CapitalRun.holds (run : CapitalRun) (n : Nat) : Bool :=
  run.first ≤ n && n ≤ run.last && (n - run.first) % run.stride == 0

/-- The small letter of a capital that has a single one; any other character stays. -/
def smallLetter (c : Char) : Char :=
  if c.toNat < 0x80 then c.toLower
  else match capitalRuns.find? (·.holds c.toNat) with
    | some run => Char.ofNat (c.toNat + run.offset).toNat
    | none => c

def isCased (c : Char) : Bool :=
  inRuns c.toNat casedRuns

def isCaseIgnorable (c : Char) : Bool :=
  inRuns c.toNat caseIgnorableRuns

/-- Whether the first character that is not passed over has case. -/
def meetsCased (cs : List Char) : Bool :=
  match cs.dropWhile isCaseIgnorable with
  | c :: _ => isCased c
  | [] => false

/-- The small form of one character, between the characters before it (nearest first) and those
after it. -/
def lowerAt (before : List Char) (c : Char) (after : List Char) : List Char :=
  if c = 'Σ' then [if meetsCased before && !meetsCased after then 'ς' else 'σ']
  else if c = 'İ' then ['i', '\u0307']
  else [smallLetter c]

/-- Lower-cases a text from left to right; `done` holds the characters passed, unchanged, nearest
first, and `out` the small ones written, last first. -/
def lowerChars : (done out : List Char) → List Char → List Char
  | _, out, [] => out.reverse
  | done, out, c :: rest => lowerChars (c :: done) ((lowerAt done c rest).reverse ++ out) rest

/-- The small form of a text. -/
def lowercase (s : String) : String :=
  String.ofList (lowerChars [] [] s.toList)

end ActionServer.Text
