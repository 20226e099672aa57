import ActionServer.Text.CompositionTable

/-!
# Canonical composition

Two texts that a reader cannot tell apart may differ in how letters and their marks are written: as
one character or as several, and in which order. Composition brings a text to one form: every
character is taken apart, marks are put in the order of their classes, and what can be put together
is put together again.
-/

namespace ActionServer.Text

/-- The class of a mark; zero for every other character. -/
def markClass (c : Char) : Nat :=
  if c.toNat < 0x300 then 0
  else ((Packed.find? classEntries c.toNat).bind (·.values.head?)).getD 0

/-- The two characters that a composed one stands for. A Hangul syllable is composed of two letters,
or of a syllable and a third one. -/
def pair? (c : Char) : Option (Char × Char) :=
  let n := c.toNat
  if n < 0xC0 then none
  else if 0xAC00 ≤ n ∧ n ≤ 0xD7A3 then
    let i := n - 0xAC00
    if i % 28 = 0 then some (Char.ofNat (0x1100 + i / 588), Char.ofNat (0x1161 + i % 588 / 28))
    else some (Char.ofNat (n - i % 28), Char.ofNat (0x11A7 + i % 28))
  else
    match (Packed.find? pairEntries n).map (·.values) with
    | some [a, b] => some (Char.ofNat a, Char.ofNat b)
    | _ => none

/-- How often a character can be taken apart. -/
def pairDepth : Nat := 4

/-- A character taken apart. -/
def takeApart : Nat → Char → List Char
  | 0, c => [c]
  | n + 1, c =>
    match pair? c with
    | some (a, b) => takeApart n a ++ [b]
    | none => [c]

/-- Puts a mark behind those whose class is not higher; the marks are in reverse. -/
def insertMark (k : Nat) (c : Char) : List (Nat × Char) → List (Nat × Char)
  | [] => [(k, c)]
  | (l, d) :: before => if k < l then (l, d) :: insertMark k c before else (k, c) :: (l, d) :: before

/-- Puts marks in the order of their classes; `held` are those since the last other character, in
reverse. -/
def orderMarks : (held : List (Nat × Char)) → List Char → List Char
  | held, [] => (held.map (·.2)).reverse
  | held, c :: rest =>
    match markClass c with
    | 0 => (held.map (·.2)).reverse ++ c :: orderMarks [] rest
    | k => orderMarks (insertMark k c held) rest

/-- The character that two others compose. -/
def compose? (a b : Char) : Option Char :=
  let i := a.toNat
  let j := b.toNat
  if 0x1100 ≤ i ∧ i < 0x1113 ∧ 0x1161 ≤ j ∧ j < 0x1176 then
    some (Char.ofNat (0xAC00 + ((i - 0x1100) * 21 + (j - 0x1161)) * 28))
  else if 0xAC00 ≤ i ∧ i ≤ 0xD7A3 ∧ (i - 0xAC00) % 28 = 0 ∧ 0x11A8 ≤ j ∧ j < 0x11C3 then
    some (Char.ofNat (i + (j - 0x11A7)))
  else (pairEntries.find? (·.values == [i, j])).map fun e => Char.ofNat e.first

/-- Puts characters together with the last one that is no mark, `base`. Between the two stand those
that could not be, `held`, in reverse, of which the last has the class `last`. -/
def composeOn (base : Char) : (held : List Char) → (last : Nat) → List Char → List Char
  | held, _, [] => base :: held.reverse
  | held, last, c :: rest =>
    let k := markClass c
    match if held.isEmpty || last < k then compose? base c else none with
    | some composed => composeOn composed held last rest
    | none =>
      if k = 0 then base :: (held.reverse ++ composeOn c [] 0 rest)
      else composeOn base (c :: held) k rest

/-- Puts together what can be put together. -/
def composeAll : List Char → List Char
  | [] => []
  | c :: rest => if markClass c = 0 then composeOn c [] 0 rest else c :: composeAll rest

/-- The composed form of a text. -/
def composed (cs : List Char) : List Char :=
  if cs.all fun c => c.toNat < 0xC0 then cs
  else composeAll (orderMarks [] (cs.flatMap (takeApart pairDepth)))

end ActionServer.Text
