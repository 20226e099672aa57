import ActionServer.Json.Reader

/-!
# The parts of a value

`all` asks a test of a value and of all values in it; `depth` counts the arrays and objects around
its innermost part. What is asked of the parts here is what printing and reading need to be inverse:
integers for numbers, keys in order, and no object that would be taken for a wrapping. `normal` puts
the keys in order where they are not.
-/

namespace ActionServer.Json

mutual

/-- Whether a test holds of a value and of all its parts. -/
def all (p : Json → Bool) : Json → Bool
  | null => p null
  | bool b => p (bool b)
  | number n => p (number n)
  | string s => p (string s)
  | array items => p (array items) && allItems p items
  | object fields => p (object fields) && allFields p fields

def allItems (p : Json → Bool) : List Json → Bool
  | [] => true
  | x :: xs => all p x && allItems p xs

def allFields (p : Json → Bool) : List (String × Json) → Bool
  | [] => true
  | (_, x) :: rest => all p x && allFields p rest

end

mutual

/-- How many arrays and objects stand around the innermost part, the value itself included. -/
def depth : Json → Nat
  | null | bool _ | number _ | string _ => 0
  | array items => depthOfItems items + 1
  | object fields => depthOfFields fields + 1

def depthOfItems : List Json → Nat
  | [] => 0
  | x :: xs => max (depth x) (depthOfItems xs)

def depthOfFields : List (String × Json) → Nat
  | [] => 0
  | (_, x) :: rest => max (depth x) (depthOfFields rest)

end

mutual

/-- The value in the form in which it is held: the fields of an object stand in the order of their
keys, and of those with equal keys the last one counts. -/
def normal : Json → Json
  | null => null
  | bool b => bool b
  | number n => number n
  | string s => string s
  | array items => array (normalItems items)
  | object fields => ofFields (normalFields fields)

def normalItems : List Json → List Json
  | [] => []
  | x :: xs => normal x :: normalItems xs

def normalFields : List (String × Json) → List (String × Json)
  | [] => []
  | (k, x) :: rest => (k, normal x) :: normalFields rest

end

/-- Whether the value is an integer, if it is a number. -/
def isWhole : Json → Bool
  | number (.double _) => false
  | _ => true

/-- Whether the keys stand in increasing order, if the value is an object. -/
def isOrdered : Json → Bool
  | object fields => decide (fields.Pairwise fun f g => f.1 < g.1)
  | _ => true

/-- Whether the value is not marked as a wrapping: its first key is another one. -/
def isUnmarked : Json → Bool
  | object fields => decide (fields.head?.map (·.1) ≠ some Raw.wrapKey)
  | _ => true

end ActionServer.Json
