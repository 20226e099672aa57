import ActionServer.Shell.Pattern
import ActionServer.Shell.Syntax

/-!
# Fields

An expanded word is a list of pieces. Splitting cuts it where characters that came from an unquoted
expansion are separators; blanks among the separators count as one however many they are, any other
separator ends a field of its own. Before all expansions, braces multiply a word.
-/

namespace ActionServer.Shell

inductive Piece where
  /-- A character; one that came from an unquoted expansion can separate fields. -/
  | char (mark : Mark) (separates : Bool)
  /-- A quoted part without characters, which makes a field all the same. -/
  | empty
  /-- The value of a quoted parameter, without characters. -/
  | hollow
  /-- The values of a quoted list that has none; around it a hollow value makes no field. -/
  | absent
  /-- The boundary between two values, what stands for it where values are not kept apart, and whether
  a value without characters in front of it is a field. -/
  | next (glue : List Char) (isStrict : Bool)
  deriving Repr

namespace Piece

/-- The pieces of an expansion's result. -/
def ofResult (inQuotes : Bool) (cs : List Char) : List Piece :=
  if inQuotes then
    if cs.isEmpty then [.hollow] else cs.map fun c => .char ⟨c, true⟩ false
  else cs.map fun c => .char ⟨c, false⟩ true

/-- The pieces of several values. -/
def ofValues (inQuotes : Bool) (glue : List Char) (isStrict : Bool) : List (List Char) → List Piece
  | [] => if inQuotes then [.absent] else []
  | [a] => ofResult inQuotes a
  | a :: rest =>
    ofResult inQuotes a ++ .next glue isStrict :: ofValues inQuotes glue isStrict rest

/-- The characters of pieces that are not split. -/
def marks (ps : List Piece) : List Mark :=
  ps.flatMap fun
    | .char m _ => [m]
    | .empty | .hollow | .absent => []
    | .next glue _ => Mark.quoted glue

def text (ps : List Piece) : List Char := (marks ps).map (·.char)

/-- Lets every unquoted character separate fields. -/
def loosen (ps : List Piece) : List Piece :=
  ps.map fun
    | .char m s => .char m (s || !m.isQuoted)
    | p => p

end Piece

namespace Fields

/-- The separators, unless a variable says otherwise. -/
def defaultSeparators : List Char := [' ', '\t', '\n']

def isBlank (c : Char) : Bool := defaultSeparators.contains c

/-- The fields of pieces. The field that is being read has its last character first; it is missing
before its first piece. `afterBlank` holds where a blank separator ended the field before. -/
def splitFrom (separators : List Char) :
    (field : Option (List Mark)) → (afterBlank : Bool) → List Piece → List (List Mark)
  | field, _, [] => (field.map List.reverse).toList
  | field, _, .next _ isStrict :: rest =>
    let field := if isStrict then some (field.getD []) else field
    (field.map List.reverse).toList ++ splitFrom separators none false rest
  | field, _, .empty :: rest => splitFrom separators (some (field.getD [])) false rest
  | field, _, .hollow :: rest => splitFrom separators (some (field.getD [])) false rest
  | field, afterBlank, .absent :: rest => splitFrom separators field afterBlank rest
  | field, afterBlank, .char m separates :: rest =>
    if separates && separators.contains m.char then
      match field with
      | some ms => ms.reverse :: splitFrom separators none (isBlank m.char) rest
      | none =>
        if isBlank m.char then splitFrom separators none afterBlank rest
        else if afterBlank then splitFrom separators none false rest
        else [] :: splitFrom separators none false rest
    else splitFrom separators (some (m :: field.getD [])) false rest

/-- The fields of pieces. -/
def split (separators : List Char) (ps : List Piece) : List (List Mark) :=
  let isAbsent : Piece → Bool
    | .absent => true
    | _ => false
  let isHollow : Piece → Bool
    | .hollow => true
    | _ => false
  splitFrom separators none false (if ps.any isAbsent then ps.filter fun p => !isHollow p else ps)

/-- Characters without the blank separators in front. -/
def dropBlanks (separators : List Char) (ms : List Mark) : List Mark :=
  ms.dropWhile fun m => !m.isQuoted && isBlank m.char && separators.contains m.char

/-- The first field of a line, and what follows the separator after it. -/
def firstField (separators : List Char) (ms : List Mark) : List Mark × List Mark :=
  let field := ms.takeWhile fun m => m.isQuoted || !separators.contains m.char
  let after := dropBlanks separators (ms.drop field.length)
  match after with
  | m :: rest =>
    if !m.isQuoted && separators.contains m.char then (field, dropBlanks separators rest)
    else (field, after)
  | [] => (field, [])

/-- A line shared out among so many names; the last one gets all that is left. -/
def share (separators : List Char) : (names : Nat) → List Mark → List (List Mark)
  | 0, _ => []
  | 1, ms =>
    let (field, rest) := firstField separators ms
    if rest.isEmpty then [field]
    else [(dropBlanks separators ms.reverse).reverse]
  | n + 2, ms =>
    let (field, rest) := firstField separators ms
    field :: share separators (n + 1) rest

end Fields

namespace Braces

/-- The parts up to the brace that closes an open one, cut at the commas that belong to it; `depth`
counts the braces that were opened since. The last cut comes first, its last part first. -/
def alternatives : (depth : Nat) → List Parts → Parts → Option (List Parts × Parts)
  | _, _, [] => none
  | 0, cuts, .plain '\x7d' :: rest => some (cuts, rest)
  | depth, cuts, p :: rest =>
    let (cut, others) := match cuts with
      | cut :: others => (cut, others)
      | [] => ([], [])
    match p, depth with
    | .plain ',', 0 => alternatives 0 ([] :: cut :: others) rest
    | .plain '\x7b', _ => alternatives (depth + 1) ((p :: cut) :: others) rest
    | .plain '\x7d', d + 1 => alternatives d ((p :: cut) :: others) rest
    | _, _ => alternatives depth ((p :: cut) :: others) rest

/-- An integer in decimal digits. -/
def integer? (cs : List Char) : Option Int :=
  match cs with
  | '-' :: ds => if ds.isEmpty || !ds.all Char.isDigit then none else some (-(value ds))
  | '+' :: ds | ds => if ds.isEmpty || !ds.all Char.isDigit then none else some (value ds)
where
  value (ds : List Char) : Int := ds.foldl (fun (n : Int) c => 10 * n + (c.toNat - '0'.toNat)) 0

/-- The integers from one to another, a step apart. -/
def range (first last : Int) (step : Nat) : List Int :=
  let count := (last - first).natAbs / max step 1 + 1
  (List.range count).map fun (i : Nat) =>
    if first ≤ last then first + i * max step 1 else first - i * max step 1

/-- Whether a number is written with a zero in front. -/
def hasZero (cs : List Char) : Bool :=
  match cs with
  | '0' :: _ :: _ | '-' :: '0' :: _ :: _ => true
  | _ => false

/-- An integer in decimal digits, with zeros in front up to a width. -/
def digits (width : Nat) (i : Int) : List Char :=
  let ds := Nat.toDigits 10 i.natAbs
  let sign := if i < 0 then ['-'] else []
  sign ++ List.replicate (width - sign.length - ds.length) '0' ++ ds

/-- The texts that a sequence such as `1..5` stands for. -/
def sequence? (w : Parts) : Option (List (List Char)) :=
  let chars := w.map fun
    | .plain c => some c
    | _ => none
  if chars.contains none then none
  else
    let cs := chars.filterMap id
    let first := cs.takeWhile (· != '.')
    match cs.drop first.length with
    | '.' :: '.' :: more =>
      let last := more.takeWhile (· != '.')
      let step := match more.drop last.length with
        | [] => some 1
        | '.' :: '.' :: s => (integer? s).map Int.natAbs
        | _ => none
      match step, integer? first, integer? last with
      | some s, some a, some b =>
        let width := if hasZero first || hasZero last then max first.length last.length else 0
        some ((range a b s).map (digits width))
      | some s, none, none =>
        match first, last with
        | [a], [b] =>
          if a.isAlpha && b.isAlpha then
            some ((range a.toNat b.toNat s).map fun i => [Char.ofNat i.toNat])
          else none
        | _, _ => none
      | _, _, _ => none
    | _ => none

/-- The words that a word with braces stands for. -/
def expand : Nat → Parts → List Parts
  | 0, w => [w]
  | _, [] => [[]]
  | n + 1, .plain '\x7b' :: rest =>
    match alternatives 0 [[]] rest with
    | some (cuts, after) =>
      let cuts := (cuts.map List.reverse).reverse
      let choices : Option (List Parts) := match cuts with
        | [cut] => (sequence? cut).map fun texts => texts.map fun cs => cs.map .plain
        | _ => some (cuts.flatMap (expand n))
      match choices with
      | some ws =>
        let tails := expand n after
        ws.flatMap fun w => tails.map fun t => w ++ t
      | none => (expand n rest).map (.plain '\x7b' :: ·)
    | none => (expand n rest).map (.plain '\x7b' :: ·)
  | n + 1, p :: rest => (expand n rest).map (p :: ·)

/-- Whether a word has a brace that is not quoted. -/
def occur (w : Parts) : Bool :=
  w.any fun
    | .plain '\x7b' => true
    | _ => false

/-- The words that a word stands for. -/
def ofParts (w : Parts) : List Parts :=
  if occur w then expand (w.length + 1) w else [w]

end Braces

end ActionServer.Shell
