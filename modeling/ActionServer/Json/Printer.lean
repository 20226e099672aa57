import ActionServer.Json.Document
import ActionServer.Number.Shortest

/-!
# Compact JSON text

A value is written without blanks. Inside strings only the quote, the backslash and the control
characters are escaped; everything else stands as it is. Doubles are written with the fewest digits
that read back: positionally between `1e-5` and `1e16`, always with a point, and otherwise with an
exponent that carries its sign.
-/

namespace ActionServer

namespace Double

/-- The digits of a double with its point or exponent; `point` is the place of the point counted
from the first digit. -/
def arrange (digits : List Char) (point : Int) : List Char :=
  let size : Int := digits.length
  if size ≤ point ∧ point ≤ 16 then
    digits ++ List.replicate (point - size).toNat '0' ++ ['.', '0']
  else if 0 < point ∧ point ≤ 16 then
    digits.take point.toNat ++ ['.'] ++ digits.drop point.toNat
  else if -5 < point ∧ point ≤ 0 then
    ['0', '.'] ++ List.replicate (-point).toNat '0' ++ digits
  else
    let power := point - 1
    let mantissa := match digits with
      | [d] => [d]
      | d :: rest => d :: '.' :: rest
      | [] => []
    mantissa ++ ['e', if power < 0 then '-' else '+'] ++ Nat.toDigits 10 power.natAbs

def chars (x : Double) : List Char :=
  let body :=
    if x.isZero then ['0', '.', '0']
    else
      let d := Decimal.shortest x.magnitude
      let digits := Nat.toDigits 10 d.digits
      arrange digits (digits.length + d.exponent)
  if x.negative then '-' :: body else body

end Double

namespace Json

def hexDigit (n : Nat) : Char :=
  if n < 10 then Char.ofNat (0x30 + n) else Char.ofNat (0x61 + (n - 10))

/-- The text of one character inside a string. -/
def escape (c : Char) : List Char :=
  if c = '"' then ['\\', '"']
  else if c = '\\' then ['\\', '\\']
  else if c = '\x08' then ['\\', 'b']
  else if c = '\x0c' then ['\\', 'f']
  else if c = '\n' then ['\\', 'n']
  else if c = '\r' then ['\\', 'r']
  else if c = '\t' then ['\\', 't']
  else if c.toNat < 0x20 then
    ['\\', 'u', '0', '0', hexDigit (c.toNat / 16), hexDigit (c.toNat % 16)]
  else [c]

def quoteChars (s : String) : List Char :=
  '"' :: s.toList.flatMap escape ++ ['"']

def intChars (i : Int) : List Char :=
  if i < 0 then '-' :: Nat.toDigits 10 i.natAbs else Nat.toDigits 10 i.toNat

mutual

def chars : Json → List Char
  | null => ['n', 'u', 'l', 'l']
  | bool true => ['t', 'r', 'u', 'e']
  | bool false => ['f', 'a', 'l', 's', 'e']
  | number (.integer i) => intChars i.val
  | number (.double x) => x.chars
  | string s => quoteChars s
  | array items => '[' :: itemsChars items ++ [']']
  | object fields => '{' :: fieldsChars fields ++ ['}']

def itemsChars : List Json → List Char
  | [] => []
  | [x] => chars x
  | x :: y :: rest => chars x ++ ',' :: itemsChars (y :: rest)

def fieldsChars : List (String × Json) → List Char
  | [] => []
  | [(k, x)] => quoteChars k ++ ':' :: chars x
  | (k, x) :: f :: rest => quoteChars k ++ ':' :: chars x ++ ',' :: fieldsChars (f :: rest)

end

/-- The compact text of a value. -/
def text (v : Json) : String :=
  String.ofList v.chars

end Json

/-- The compact text of a document. -/
def Document.text (d : Document) : String :=
  d.toJson.text

end ActionServer
