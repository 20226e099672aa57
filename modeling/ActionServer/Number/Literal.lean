import ActionServer.Number.Double

/-!
# Numbers and their literals

A literal without point and exponent that fits sixty-four bits is an integer, except `-0`. Every
other literal is a double: its leading digits, as many as fit an unsigned word, are scaled by a
power of ten in double arithmetic. A literal beyond the greatest double stands for no number.
-/

namespace ActionServer

/-- An integer between `-2 ^ 63` and `2 ^ 64 - 1`. -/
structure WideInt where
  val : Int
  in_range : -9223372036854775808 ≤ val ∧ val < 18446744073709551616
  deriving DecidableEq, Repr

/-- An integer as a wide one, if it fits. -/
def WideInt.ofInt? (i : Int) : Option WideInt :=
  if h : -9223372036854775808 ≤ i ∧ i < 18446744073709551616 then some ⟨i, h⟩ else none

instance : Inhabited WideInt := ⟨⟨0, by decide⟩⟩

inductive Number where
  | integer (i : WideInt)
  | double (x : Double)
  deriving DecidableEq, Inhabited, Repr

namespace Number

/-- Equality of numbers: an integer never equals a double, and the two zeros are equal. -/
def same : Number → Number → Bool
  | integer a, integer b => a == b
  | double a, double b => a.same b
  | _, _ => false

/-- A literal taken apart: its sign, the digits before and after the point, and the exponent. A
literal without point has no `fraction`. -/
structure Literal where
  negative : Bool
  whole : List Nat
  fraction : Option (List Nat)
  exponent : Option Int

/-- Appends digits to a number as long as the result fits sixty-four bits. -/
def gather : Nat → List Nat → Nat × List Nat
  | n, [] => (n, [])
  | n, d :: ds => if n * 10 + d < Nat.pow 2 64 then gather (n * 10 + d) ds else (n, d :: ds)

/-- The power of ten nearest to `10 ^ n`, for exponents that doubles have. -/
def tenTo (n : Nat) : Magnitude :=
  (Magnitude.ofRatio? (Nat.pow 10 n) 1).getD Magnitude.zero

/-- Scales a magnitude by a power of ten; a power below the least is applied in pieces, after a few
of which nothing is left. -/
def scale : Nat → Magnitude → Int → Option Magnitude
  | 0, _, _ => some Magnitude.zero
  | fuel + 1, x, e =>
    if e.natAbs ≤ 308 then
      if e ≥ 0 then x.mul? (tenTo e.toNat) else x.div? (tenTo e.natAbs)
    else if x.mantissa = 0 then some x
    else if e ≥ 0 then none
    else (x.div? (tenTo 308)).bind fun y => scale fuel y (e + 308)

/-- The number a literal stands for, unless it is too large. -/
def ofLiteral? (l : Literal) : Option Number :=
  let (whole, dropped) := gather 0 l.whole
  let plain := l.fraction.isNone && l.exponent.isNone && dropped.isEmpty
  let signed : Int := if l.negative then -whole else whole
  match if plain && !(l.negative && whole == 0) then WideInt.ofInt? signed else none with
  | some i => some (.integer i)
  | none =>
    let fraction := l.fraction.getD []
    let (digits, unread) := gather whole fraction
    let shift : Int := dropped.length - (fraction.length - unread.length : Nat)
    ((Magnitude.ofRatio? digits 1).bind fun x => scale 8 x (shift + l.exponent.getD 0)).map
      fun x => .double ⟨l.negative, x⟩

end Number

end ActionServer
