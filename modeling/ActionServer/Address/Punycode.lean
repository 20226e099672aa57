/-!
# Labels in ASCII

A label with characters outside ASCII can be written in letters, digits and hyphens: first its ASCII
characters, then, in numbers of variable length, where the others stand among them. The others are
written in increasing order, each as the difference to the place of the one before.
-/

namespace ActionServer.Punycode

/-- The digit of a number below 36. -/
def digitChar (n : Nat) : Char :=
  if n < 26 then Char.ofNat ('a'.toNat + n) else Char.ofNat ('0'.toNat + (n - 26))

def digitValue? (c : Char) : Option Nat :=
  if 'a' ≤ c ∧ c ≤ 'z' then some (c.toNat - 'a'.toNat)
  else if c.isDigit then some (c.toNat - '0'.toNat + 26)
  else none

/-- Divides a difference down until it is small; gives the rest and the number of steps. -/
def damp (delta steps : Nat) : Nat × Nat :=
  if 455 < delta then damp (delta / 35) (steps + 1) else (delta, steps)
termination_by delta
decreasing_by omega

/-- How the thresholds move after a difference. -/
def adapt (delta points : Nat) (first : Bool) : Nat :=
  let delta := if first then delta / 700 else delta / 2
  let delta := delta + delta / points
  let (delta, steps) := damp delta 0
  36 * steps + 36 * delta / (delta + 38)

/-- The number from which on the digit at a place needs another one behind it. -/
def threshold (bias k : Nat) : Nat :=
  if k ≤ bias then 1 else if k ≥ bias + 26 then 26 else k - bias

theorem threshold_pos (bias k : Nat) : 0 < threshold bias k := by
  unfold threshold
  split
  · omega
  · split <;> omega

/-- The digits of a difference: a number in which each digit has its own base. -/
def digits (bias k q : Nat) : List Char :=
  let t := threshold bias k
  if q < t then [digitChar q]
  else digitChar (t + (q - t) % (36 - t)) :: digits bias (k + 36) ((q - t) / (36 - t))
termination_by q
decreasing_by
  have positive := threshold_pos bias k
  have smaller := Nat.div_le_self (q - threshold bias k) (36 - threshold bias k)
  omega

/-- How far the writing of a label has come. -/
structure Writing where
  point : Nat
  delta : Nat
  bias : Nat
  written : Nat
  out : List Char

/-- Writes the places at which one code point stands, going through the whole label. -/
def writePoint (basic : Nat) (next : Nat) : List Char → Writing → Writing
  | [], w => w
  | c :: rest, w =>
    let w :=
      if c.toNat < next then { w with delta := w.delta + 1 }
      else if c.toNat = next then
        { w with
          out := w.out ++ digits w.bias 36 w.delta
          bias := adapt w.delta (w.written + 1) (w.written == basic)
          delta := 0
          written := w.written + 1 }
      else w
    writePoint basic next rest w

/-- Writes the code points outside ASCII in increasing order. -/
def writePoints (basic : Nat) (label : List Char) : List Nat → Writing → Writing
  | [], w => w
  | next :: rest, w =>
    let w := { w with delta := w.delta + (next - w.point) * (w.written + 1) }
    let w := writePoint basic next label w
    writePoints basic label rest { w with delta := w.delta + 1, point := next + 1 }

/-- Writes a label. -/
def encode (label : List Char) : List Char :=
  let plain := label.filter fun c => c.toNat < 0x80
  let points := (((label.filter fun c => 0x80 ≤ c.toNat).map Char.toNat).mergeSort).eraseDups
  let start := if plain.isEmpty then [] else plain ++ ['-']
  (writePoints plain.length label points ⟨0x80, 0, 72, plain.length, start⟩).out

/-- Reads a difference at the beginning of a text. -/
def readDifference (bias : Nat) : (k weight sum : Nat) → List Char → Option (Nat × List Char)
  | _, _, _, [] => none
  | k, weight, sum, c :: rest =>
    match digitValue? c with
    | none => none
    | some d =>
      let t := threshold bias k
      if d < t then some (sum + d * weight, rest)
      else readDifference bias (k + 36) (weight * (36 - t)) (sum + d * weight) rest

/-- Puts the characters of a text into the label `out`, as long as there is fuel. -/
def readPoints : Nat → (bias point place : Nat) → (out : List Char) → List Char → Option (List Char)
  | _, _, _, _, out, [] => some out
  | 0, _, _, _, _, _ => none
  | fuel + 1, bias, point, place, out, cs =>
    match readDifference bias 36 1 place cs with
    | none => none
    | some (sum, rest) =>
      let size := out.length + 1
      let point := point + sum / size
      if point.isValidChar then
        readPoints fuel (adapt (sum - place) size (place == 0)) point (sum % size + 1)
          (out.insertIdx (sum % size) (Char.ofNat point)) rest
      else none

/-- The text before the last hyphen, and what follows it; without a hyphen, all of it follows. -/
def splitLast (cs : List Char) : List Char × List Char :=
  match cs.reverse.dropWhile (· != '-') with
  | [] => ([], cs)
  | _ :: before => (before.reverse, (cs.reverse.takeWhile (· != '-')).reverse)

/-- Reads a label. -/
def decode? (cs : List Char) : Option (List Char) :=
  let (plain, rest) := splitLast cs
  readPoints rest.length 72 0x80 0 plain rest

end ActionServer.Punycode
