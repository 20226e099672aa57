import ActionServer.Address.LabelTable
import ActionServer.Text.Composition

/-!
# Labels of domain names

Which labels a name may have. A label cannot begin with a mark; the two joiners need a context in
which they show; and where any label of a name is written from right to left, all labels have to
read the same in both directions.
-/

namespace ActionServer.Label

def isMark (c : Char) : Bool :=
  0x300 ≤ c.toNat && Packed.contains markEntries c.toNat

/-- The class of marks that silence the vowel of the letter before. -/
def silencingClass : Nat := 9

def nonJoiner : Char := '\u200C'

def joiner : Char := '\u200D'

def isTransparent (c : Char) : Bool :=
  Packed.contains transparentEntries c.toNat

def joinsAfter (c : Char) : Bool :=
  Packed.contains joinsAfterEntries c.toNat || Packed.contains joinsBothEntries c.toNat

def joinsBefore (c : Char) : Bool :=
  Packed.contains joinsBeforeEntries c.toNat || Packed.contains joinsBothEntries c.toNat

/-- Whether the first character that is not transparent passes a test. -/
def meets (test : Char → Bool) (cs : List Char) : Bool :=
  match cs.dropWhile isTransparent with
  | c :: _ => test c
  | [] => false

/-- Whether both joiners stand in a context where they show; `before` is what precedes, nearest
first. -/
def joinsWell : (before : List Char) → List Char → Bool
  | _, [] => true
  | before, c :: rest =>
    let silenced := match before with
      | d :: _ => Text.markClass d == silencingClass
      | [] => false
    let fine :=
      if c = joiner then silenced
      else if c = nonJoiner then silenced || (meets joinsAfter before && meets joinsBefore rest)
      else true
    fine && joinsWell (c :: before) rest

/-- Which way a character is written. -/
inductive Direction where
  | left
  | right
  | arabic
  | arabicNumber
  | number
  /-- Signs that stand between or beside numbers, and others without direction. -/
  | neutral
  | attached
  deriving DecidableEq, Repr

def direction (c : Char) : Direction :=
  let n := c.toNat
  if n < 0x80 then
    if c.isAlpha then .left else if c.isDigit then .number else .neutral
  else if Packed.contains rightEntries n then .right
  else if Packed.contains arabicEntries n then .arabic
  else if Packed.contains attachedEntries n then .attached
  else if Packed.contains arabicNumberEntries n then .arabicNumber
  else if Packed.contains numberEntries n then .number
  else if Packed.contains amountEntries n || Packed.contains neutralEntries n then .neutral
  else if n = 0x60C ∨ n = 0x2044 ∨ n = 0x2212 ∨ n = 0x200C ∨ n = 0x200D then .neutral
  else .left

/-- Whether a direction makes a name one that is written from right to left. -/
def Direction.isRight : Direction → Bool
  | right | arabic | arabicNumber => true
  | _ => false

/-- Whether some character is written from right to left. -/
def hasRight (label : List Char) : Bool :=
  label.any fun c => (direction c).isRight

/-- Whether a label reads the same in both directions, in a name that is written from right to
left. -/
def readsWell (label : List Char) : Bool :=
  let ds := label.map direction
  let last := (ds.reverse.dropWhile (· == .attached)).head?
  match ds.head? with
  | none => true
  | some .left =>
    !ds.any Direction.isRight && (last == some .left || last == some .number)
  | some .right | some .arabic =>
    !ds.contains .left &&
      (last == some .right || last == some .arabic || last == some .number ||
        last == some .arabicNumber) &&
      !(ds.contains .number && ds.contains .arabicNumber)
  | some _ => false

/-- Whether a composed label may stand in a name, apart from its direction. -/
def isAllowed (label : List Char) : Bool :=
  !(label.head?.map isMark).getD false && joinsWell [] label

end ActionServer.Label
