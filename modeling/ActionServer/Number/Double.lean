/-!
# Finite doubles

A double is kept as its sign, mantissa and binary exponent, so that every operation on it is integer
arithmetic. A magnitude is normal when its mantissa has fifty-three bits; below the least normal one
the exponent stays at its lower end and the mantissa shrinks.

`Magnitude.ofRatio?` rounds a quotient to the nearest magnitude, a tie to the even mantissa. All
arithmetic here is that one rounding applied to an exact quotient.
-/

namespace ActionServer

/-- Numerator and denominator of `(num / den) · base ^ shift`. -/
def shiftedRatio (base num den : Nat) (shift : Int) : Nat × Nat :=
  if shift ≥ 0 then (num * Nat.pow base shift.toNat, den) else (num, den * Nat.pow base (-shift).toNat)

/-- The number `mantissa · 2 ^ exponent`. -/
structure Magnitude where
  mantissa : Nat
  exponent : Int
  deriving DecidableEq, Repr

namespace Magnitude

/-- The exponent shared by zero and all magnitudes too small to be normal. -/
def leastExponent : Int := -1074

def greatestExponent : Int := 971

def zero : Magnitude := ⟨0, leastExponent⟩

/-- Rounds a quotient to a natural number, a half to the even neighbour. -/
def roundHalfEven (num den : Nat) : Nat :=
  let q := num / den
  let r := num % den
  if 2 * r < den then q
  else if 2 * r > den then q + 1
  else if q % 2 = 0 then q else q + 1

/-- The magnitude nearest to `num / den`; none when it lies beyond the greatest double. -/
def ofRatio? (num den : Nat) : Option Magnitude :=
  if num = 0 then some zero
  else
    let guess : Int := max ((num.log2 : Int) - den.log2 - 53) leastExponent
    let (n, d) := shiftedRatio 2 num den (-guess)
    let exponent := if n / d ≥ Nat.pow 2 53 then guess + 1 else guess
    let (n, d) := shiftedRatio 2 num den (-exponent)
    let m := roundHalfEven n d
    let rounded : Magnitude := if m = Nat.pow 2 53 then ⟨Nat.pow 2 52, exponent + 1⟩ else ⟨m, exponent⟩
    if rounded.exponent > greatestExponent then none else some rounded

/-- The exact quotient that a magnitude stands for. -/
def ratio (x : Magnitude) : Nat × Nat :=
  shiftedRatio 2 x.mantissa 1 x.exponent

def mul? (x y : Magnitude) : Option Magnitude :=
  let (a, b) := x.ratio
  let (c, d) := y.ratio
  ofRatio? (a * c) (b * d)

/-- The rounded quotient; a zero divisor has none. -/
def div? (x y : Magnitude) : Option Magnitude :=
  let (a, b) := x.ratio
  let (c, d) := y.ratio
  if c = 0 then none else ofRatio? (a * d) (b * c)

end Magnitude

/-- A finite double. -/
structure Double where
  negative : Bool
  magnitude : Magnitude
  deriving DecidableEq, Repr

namespace Double

def isZero (x : Double) : Bool :=
  x.magnitude.mantissa == 0

/-- Equality of numbers: the two zeros are equal. -/
def same (x y : Double) : Bool :=
  x == y || (x.isZero && y.isZero)

end Double

end ActionServer
