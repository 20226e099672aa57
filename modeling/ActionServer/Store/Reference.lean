import ActionServer.World

/-!
# References to identities

Texts can refer to an identity that was made earlier by its number: `uuid#2` stands for the second
one, over all collections. A number that has not been given out yet reads `none#`.
-/

namespace ActionServer

/-- The identities made so far, in their order. -/
def Stores.identities (s : Stores) : List String :=
  s.issued.reverse.map (·.2)

namespace Reference

/-- The number that a list of digits stands for. -/
def number (digits : List Char) : Nat :=
  digits.foldl (fun n c => 10 * n + (c.toNat - '0'.toNat)) 0

/-- What a reference with these digits becomes. -/
def target (identities : List String) (digits : List Char) : List Char :=
  match number digits with
  | 0 => "none#".toList ++ digits
  | n + 1 =>
    match identities[n]? with
    | some id => id.toList
    | none => "none#".toList ++ digits

/-- Replaces the references in a text. -/
def resolveChars (identities : List String) : List Char → List Char
  | 'u' :: 'u' :: 'i' :: 'd' :: '#' :: rest =>
    target identities (rest.takeWhile Char.isDigit) ++
      resolveChars identities (rest.dropWhile Char.isDigit)
  | c :: rest => c :: resolveChars identities rest
  | [] => []
termination_by cs => cs.length
decreasing_by
  all_goals
    have := (List.dropWhile_suffix (l := rest) Char.isDigit).length_le
    simp
    try omega

end Reference

/-- A text with its references replaced. -/
def Stores.resolve (s : Stores) (text : String) : String :=
  String.ofList (Reference.resolveChars s.identities text.toList)

namespace Json

mutual

/-- Changes every text in a value; the keys of objects stay. -/
def mapText (f : String → String) : Json → Json
  | .string s => .string (f s)
  | .array items => .array (mapItems f items)
  | .object fields => .object (mapFields f fields)
  | v => v

def mapItems (f : String → String) : List Json → List Json
  | [] => []
  | v :: rest => mapText f v :: mapItems f rest

def mapFields (f : String → String) : List (String × Json) → List (String × Json)
  | [] => []
  | (k, v) :: rest => (k, mapText f v) :: mapFields f rest

end

end Json

/-- Changes every text in the fields of a document. -/
def Document.mapText (f : String → String) (d : Document) : Document :=
  ⟨Json.mapFields f d.fields⟩

end ActionServer
