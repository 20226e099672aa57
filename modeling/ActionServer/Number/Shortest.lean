import ActionServer.Number.Double

/-!
# Shortest decimals

A double is written with the fewest digits that read back as the same double. For one, two, … up to
seventeen digits the two neighbours of the value on that decimal grid are tried; the first grid with
a hit wins, and of two hits the nearer. If any point of a grid reads back, one of the two neighbours
does, so no shorter decimal exists.
-/

namespace ActionServer

/-- The number `digits · 10 ^ exponent`. -/
structure Decimal where
  digits : Nat
  exponent : Int
  deriving DecidableEq, Repr

namespace Decimal

/-- The double's magnitude nearest to a decimal. -/
def nearest? (x : Decimal) : Option Magnitude :=
  let (num, den) := shiftedRatio 10 x.digits 1 x.exponent
  Magnitude.ofRatio? num den

/-- Moves trailing zeros of the digits into the exponent, as far as the fuel reaches. -/
def strip : Nat → Decimal → Decimal
  | 0, x => x
  | fuel + 1, x =>
    if x.digits ≠ 0 ∧ x.digits % 10 = 0 then strip fuel ⟨x.digits / 10, x.exponent + 1⟩ else x

def length (n : Nat) : Nat := (Nat.toDigits 10 n).length

/-- The power `k` with `10 ^ (k - 1) ≤ num / den < 10 ^ k`. -/
def order (num den : Nat) : Int :=
  let guess : Int := (length num : Int) - length den
  let (n, d) := shiftedRatio 10 num den (-guess)
  if n ≥ d then guess + 1 else guess

/-- The better of the value's two neighbours with the given number of digits, if one reads back. -/
def candidate? (x : Magnitude) (places : Nat) : Option Decimal :=
  let (num, den) := x.ratio
  let exponent := order num den - places
  let (n, d) := shiftedRatio 10 num den (-exponent)
  let low : Decimal := ⟨n / d, exponent⟩
  let high : Decimal := ⟨n / d + 1, exponent⟩
  match low.nearest? == some x, high.nearest? == some x with
  | false, false => none
  | true, false => some low
  | false, true => some high
  | true, true =>
    let r := n % d
    if 2 * r < d then some low
    else if 2 * r > d then some high
    else if low.digits % 2 = 0 then some low else some high

/-- The shortest decimal that reads back as a magnitude. -/
def shortest (x : Magnitude) : Decimal :=
  match (List.range 17).findSome? fun n => candidate? x (n + 1) with
  | some d => strip 20 d
  | none => ⟨0, 0⟩

end Decimal

end ActionServer
