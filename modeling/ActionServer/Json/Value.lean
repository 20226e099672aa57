import ActionServer.Number.Literal

/-!
# JSON values

Integers that fit sixty-four bits, signed or not, are kept apart from doubles: `1` and `1.0` are
different values, while the two zeros among the doubles are equal. The fields of an object are a
list in increasing key order without repetition; `Document` builds no other list.
-/

namespace ActionServer

inductive Json where
  | null
  | bool (b : Bool)
  | number (n : Number)
  | string (s : String)
  | array (items : List Json)
  | object (fields : List (String × Json))
  deriving Inhabited, Repr

namespace Json

mutual

/-- Equality of values: objects are compared field by field, arrays item by item. -/
def same : Json → Json → Bool
  | null, null => true
  | bool a, bool b => a == b
  | number a, number b => a.same b
  | string a, string b => a == b
  | array xs, array ys => sameItems xs ys
  | object xs, object ys => sameFields xs ys
  | _, _ => false

def sameItems : List Json → List Json → Bool
  | [], [] => true
  | x :: xs, y :: ys => same x y && sameItems xs ys
  | _, _ => false

def sameFields : List (String × Json) → List (String × Json) → Bool
  | [], [] => true
  | (k, x) :: xs, (l, y) :: ys => k == l && same x y && sameFields xs ys
  | _, _ => false

end

instance : BEq Json := ⟨same⟩

/-- A natural number below `2 ^ 64` as a value; a larger one has no integer form here and wraps. -/
def ofNat (n : Nat) : Json :=
  number <| .integer ⟨((n % Nat.pow 2 64 : Nat) : Int), by
    have : n % Nat.pow 2 64 < 18446744073709551616 := Nat.mod_lt _ (by decide)
    omega⟩

/-- The value of an optional text, `null` when there is none. -/
def ofOption : Option String → Json
  | some s => string s
  | none => null

end Json

end ActionServer
