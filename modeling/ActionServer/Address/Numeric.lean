import ActionServer.Text.Split

/-!
# Numeric hosts

A host can be an address of four bytes, written as up to four numbers between points of which the last
one fills the rest, or an address of eight groups of sixteen bits in brackets, in which one run of
zero groups may be left out and the last two groups may be written as four bytes.
-/

namespace ActionServer.Numeric

/-- Digits in a base; none if one of them is too large. -/
def natOf? (base : Nat) (ds : List Char) : Option Nat :=
  ds.foldl (fun n c => do
    let n ← n
    let d ← if c.isDigit then some (c.toNat - '0'.toNat)
      else if 'a' ≤ c ∧ c ≤ 'f' then some (c.toNat - 'a'.toNat + 10) else none
    if d < base then some (base * n + d) else none) (some 0)

/-- A number in an address of four bytes: octal after a zero, hexadecimal after `0x`. -/
def number? : List Char → Option Nat
  | [] => none
  | '0' :: 'x' :: rest => natOf? 16 rest
  | '0' :: rest => natOf? 8 rest
  | ds => natOf? 10 ds

/-- Whether the last label makes a host an address of four bytes. -/
def endsInNumber (host : List Char) : Bool :=
  let labels := (Text.split (· == '.') host).reverse
  let last := match labels with
    | [] :: rest => if rest.isEmpty then none else rest.head?
    | label :: _ => some label
    | [] => none
  match last with
  | none => false
  | some label =>
    (!label.isEmpty && label.all Char.isDigit) ||
      (match label with
        | '0' :: 'x' :: rest => (natOf? 16 rest).isSome
        | _ => false)

/-- An address of four bytes as a number. -/
def bytes? (host : List Char) : Option Nat := do
  let labels := Text.split (· == '.') host
  let labels := match labels.reverse with
    | [] :: rest => if rest.isEmpty then labels else rest.reverse
    | _ => labels
  if labels.length > 4 then none
  let numbers ← labels.mapM number?
  let last ← numbers.getLast?
  let front := numbers.dropLast
  if front.any (· > 255) then none
  if last ≥ Nat.pow 256 (5 - numbers.length) then none
  return front.foldl (fun (sum, place) n => (sum + n * Nat.pow 256 place, place - 1)) (last, 3) |>.1

/-- The four numbers of an address. -/
def bytesText (n : Nat) : String :=
  ".".intercalate ([3, 2, 1, 0].map fun place => toString (n / Nat.pow 256 place % 256))

/-- A group of an address in brackets. -/
def group? (part : List Char) : Option Nat :=
  if part.isEmpty || part.length > 4 then none else natOf? 16 (part.map Char.toLower)

/-- The two groups of four bytes at the end of an address in brackets. -/
def tail? (part : List Char) : Option (List Nat) := do
  let bytes ← (Text.split (· == '.') part).mapM fun b =>
    if b.isEmpty || b.length > 3 || (b.length > 1 && b.head? == some '0') then none
    else natOf? 10 b
  if bytes.length != 4 || bytes.any (· > 255) then none
  let n := bytes.foldl (fun n b => 256 * n + b) 0
  return [n / 65536, n % 65536]

/-- The groups in a part of an address in brackets; at its end there may be four bytes. -/
def groups? (atEnd : Bool) (part : List Char) : Option (List Nat) :=
  if part.isEmpty then some []
  else
    match (Text.split (· == ':') part).reverse with
    | last :: front =>
      if atEnd && last.contains '.' then do
        let tail ← tail? last
        return (← front.reverse.mapM group?) ++ tail
      else (last :: front).reverse.mapM group?
    | [] => none

/-- The place of the double colon. -/
def splitGap : List Char → List Char × Option (List Char)
  | ':' :: ':' :: rest => ([], some rest)
  | c :: rest =>
    let (before, after) := splitGap rest
    (c :: before, after)
  | [] => ([], none)

/-- The eight groups of an address in brackets. -/
def eight? (inside : List Char) : Option (List Nat) :=
  match splitGap inside with
  | (whole, none) => do
    let gs ← groups? true whole
    if gs.length = 8 then some gs else none
  | (before, some after) => do
    let front ← groups? false before
    let back ← groups? true after
    if front.length + back.length > 7 then none
    else some (front ++ List.replicate (8 - front.length - back.length) 0 ++ back)

/-- The place and length of the first longest run of zero groups. -/
def longestZeros (gs : List Nat) : Nat × Nat :=
  (List.range gs.length).foldl (fun best i =>
    let run := ((gs.drop i).takeWhile (· == 0)).length
    if run > best.2 then (i, run) else best) (0, 0)

def groupsText (gs : List Nat) : String :=
  let hex (n : Nat) := String.ofList (Nat.toDigits 16 n)
  let (place, run) := longestZeros gs
  if run ≥ 2 then
    ":".intercalate ((gs.take place).map hex) ++ "::" ++
      ":".intercalate ((gs.drop (place + run)).map hex)
  else ":".intercalate (gs.map hex)

end ActionServer.Numeric
