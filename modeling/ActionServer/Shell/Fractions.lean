import ActionServer.Shell.Words

/-!
# Numbers with decimals

A number is kept with sixty-four binary digits, the nearest such number to what was written; a tie
goes to the even one. It is shown with so many decimals, or so many digits and a power of ten, where
again the nearest is taken and a tie goes to the even digit.
-/

namespace ActionServer.Shell

/-- A number that is not negative. -/
inductive Magnitude where
  /-- A count of sixty-four binary digits, or none, times a power of two. -/
  | finite (count : Nat) (exponent : Int)
  | infinite
  | nan
  deriving DecidableEq, Repr

structure Fraction where
  isNegative : Bool
  magnitude : Magnitude
  deriving DecidableEq, Repr

namespace Fraction

def zero : Fraction := ⟨false, .finite 0 0⟩

/-- A quotient to the nearest whole number; a tie goes to the even one. -/
def roundDiv (a b : Nat) : Nat :=
  let q := a / b
  let r := a % b
  if 2 * r < b then q else if b < 2 * r then q + 1 else q + q % 2

/-- How many binary digits are kept. -/
def precision : Nat := 64

/-- The largest power of two that a number may have, and the least that its count may be multiplied
with. -/
def largestExponent : Int := 16384

def leastExponent : Int := -16445

/-- A count times a power of two. -/
def scale (count : Nat) (exponent : Int) : Nat × Nat :=
  if exponent < 0 then (count, Nat.pow 2 exponent.natAbs) else (count * Nat.pow 2 exponent.toNat, 1)

/-- The nearest number to a quotient, and whether it can be kept. -/
def nearest (a b : Nat) : Magnitude × Bool :=
  if a = 0 then (.finite 0 0, true)
  else
    let guess : Int := Int.ofNat a.log2 - Int.ofNat b.log2 - Int.ofNat precision
    let exponent := max guess leastExponent
    let rounded (e : Int) : Nat :=
      if e < 0 then roundDiv (a * Nat.pow 2 e.natAbs) b else roundDiv a (b * Nat.pow 2 e.toNat)
    let exponent := if Nat.pow 2 precision ≤ rounded exponent then exponent + 1 else exponent
    let exponent := if Nat.pow 2 precision ≤ rounded exponent then exponent + 1 else exponent
    let count := rounded exponent
    if largestExponent < exponent + (count.log2 : Int) + 1 then (.infinite, false)
    else (.finite count exponent, count != 0)

/-- Powers of ten beyond which nothing is looked at. -/
def powerLimit : Nat := 6000

/-- What has been read of a text: the number, what follows it, and whether it can be kept. -/
structure Reading where
  value : Fraction
  rest : List Char
  isKept : Bool

/-- The exponent behind a letter, and what follows; nothing if there are no digits. -/
def exponent? (letter : Char) (cs : List Char) : Option (Int × List Char) :=
  match cs with
  | c :: rest =>
    if c.toLower != letter then none
    else
      let (isNegative, ds) := match rest with
        | '-' :: ds => (true, ds)
        | '+' :: ds => (false, ds)
        | ds => (false, ds)
      let digits := ds.takeWhile Char.isDigit
      if digits.isEmpty then none
      else
        let n : Int := Words.number 10 digits
        some (if isNegative then -n else n, ds.drop digits.length)
  | [] => none

/-- A number in digits of a base, with a power of another one behind a letter. -/
def digits (base : Nat) (isDigit : Char → Bool) (power : Nat) (letter : Char) (cs : List Char) :
    Option (Magnitude × Bool × List Char) :=
  let whole := cs.takeWhile isDigit
  let (decimals, after) := match cs.drop whole.length with
    | '.' :: more =>
      let ds := more.takeWhile isDigit
      if whole.isEmpty && ds.isEmpty then ([], '.' :: more) else (ds, more.drop ds.length)
    | after => ([], after)
  if whole.isEmpty && decimals.isEmpty then none
  else
    let (exponent, after) := (exponent? letter after).getD (0, after)
    let a := Words.number base (whole ++ decimals)
    let b := Nat.pow base decimals.length
    let limited := min exponent.natAbs (powerLimit + 4 * (whole.length + decimals.length))
    let (a, b) := if exponent < 0 then (a, b * Nat.pow power limited) else (a * Nat.pow power limited, b)
    let (m, isKept) := nearest a b
    some (m, isKept, after)

/-- Reads a number at the beginning of a text; nothing if there is none. -/
def read? (cs : List Char) : Option Reading :=
  let cs := cs.dropWhile fun c => c == ' ' || c == '\t' || c == '\n'
  let (isNegative, cs) := match cs with
    | '-' :: rest => (true, rest)
    | '+' :: rest => (false, rest)
    | rest => (false, rest)
  let lower := cs.map Char.toLower
  let named (name : String) : Bool := name.toList.isPrefixOf lower
  if named "infinity" then some ⟨⟨isNegative, .infinite⟩, cs.drop 8, true⟩
  else if named "inf" then some ⟨⟨isNegative, .infinite⟩, cs.drop 3, true⟩
  else if named "nan" then some ⟨⟨isNegative, .nan⟩, cs.drop 3, true⟩
  else
    let hex := if named "0x" then digits 16 Words.isHex 2 'p' (cs.drop 2) else none
    match hex.orElse fun _ => digits 10 Char.isDigit 10 'e' cs with
    | some (m, isKept, rest) => some ⟨⟨isNegative, m⟩, rest, isKept⟩
    | none => none

/-- The number of a whole number. -/
def ofNat (n : Nat) : Fraction := ⟨false, (nearest n 1).1⟩

/-- Decimal digits, at least so many. -/
def padded (width n : Nat) : List Char :=
  let ds := Nat.toDigits 10 n
  List.replicate (width - ds.length) '0' ++ ds

/-- Digits with a point before the last ones; it stands alone only where that is asked for. -/
def pointed (decimals : Nat) (keepsPoint : Bool) (ds : List Char) : List Char :=
  let whole := ds.take (ds.length - decimals)
  let rest := ds.drop (ds.length - decimals)
  if rest.isEmpty && !keepsPoint then whole else whole ++ '.' :: rest

/-- A number with so many decimals. -/
def fixed (decimals : Nat) (keepsPoint : Bool) (count : Nat) (exponent : Int) : List Char :=
  let (a, b) := scale count exponent
  pointed decimals keepsPoint (padded (decimals + 1) (roundDiv (a * Nat.pow 10 decimals) b))

/-- The digits of a number, one in front and so many behind it, and its power of ten. -/
def scientific (decimals count : Nat) (exponent : Int) : List Char × Int :=
  if count = 0 then (List.replicate (decimals + 1) '0', 0)
  else
    let (a, b) := scale count exponent
    let guess : Int :=
      (Nat.toDigits 10 a).length - ((Nat.toDigits 10 b).length : Int) - 1
    let rounded (power : Int) : Nat :=
      let shift := (decimals : Int) - power
      if shift < 0 then roundDiv a (b * Nat.pow 10 shift.natAbs) else roundDiv (a * Nat.pow 10 shift.toNat) b
    let limit := Nat.pow 10 (decimals + 1)
    let power := if limit ≤ rounded guess then guess + 1 else guess
    let power := if limit ≤ rounded power then power + 1 else power
    (padded (decimals + 1) (rounded power), power)

/-- A power of ten behind its letter. -/
def shownPower (power : Int) : List Char :=
  'e' :: (if power < 0 then '-' else '+') :: padded 2 power.natAbs

/-- Digits without the zeros at their end. -/
def trimmed (ds : List Char) : List Char := (ds.reverse.dropWhile (· == '0')).reverse

/-- A number with a power of ten. -/
def exponential (decimals : Nat) (keepsPoint : Bool) (count : Nat) (exponent : Int) : List Char :=
  let (ds, power) := scientific decimals count exponent
  pointed decimals keepsPoint ds ++ shownPower power

/-- A number in the shorter of the two ways, with so many digits; zeros at the end are left out unless
they are asked for. -/
def general (digits : Nat) (keepsZeros : Bool) (count : Nat) (exponent : Int) : List Char :=
  let digits := max digits 1
  let (ds, power) := scientific (digits - 1) count exponent
  let trim (cs : List Char) : List Char :=
    if keepsZeros || !cs.contains '.' then cs
    else
      let cs := trimmed cs
      if cs.getLast? = some '.' then cs.dropLast else cs
  if power < -4 ∨ (digits : Int) ≤ power then
    trim (pointed (digits - 1) keepsZeros ds) ++ shownPower power
  else trim (fixed ((digits : Int) - 1 - power).toNat keepsZeros count exponent)

/-- A number in sixteen digits, with a power of two. -/
def hexadecimal (decimals : Option Nat) (keepsPoint : Bool) (count : Nat) (exponent : Int) :
    List Char :=
  let most := 15
  let shown := match decimals with
    | some d => if d < most then roundDiv count (Nat.pow 16 (most - d)) else count * Nat.pow 16 (d - most)
    | none => count
  let behind := decimals.getD most
  let ds := Nat.toDigits 16 shown
  let ds := List.replicate (behind + 1 - ds.length) '0' ++ ds
  let front := ds.take (ds.length - behind)
  let rest := ds.drop (ds.length - behind)
  let rest := if decimals.isNone then trimmed rest else rest
  let power : Int := if count = 0 then 0 else exponent + 4 * most
  front ++ (if rest.isEmpty && !keepsPoint then [] else '.' :: rest) ++
    'p' :: (if power < 0 then '-' else '+') :: Nat.toDigits 10 power.natAbs

end Fraction

end ActionServer.Shell
