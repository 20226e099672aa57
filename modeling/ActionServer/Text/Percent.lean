import ActionServer.Text.Utf8

/-!
# Percent encoding

A percent sign with two hexadecimal digits stands for a byte; a percent sign without them stands for
itself. A query string also writes a space as a plus sign.
-/

namespace ActionServer.Percent

def hexDigit? (b : UInt8) : Option UInt8 :=
  if 0x30 ≤ b && b ≤ 0x39 then some (b - 0x30)
  else if 0x41 ≤ b && b ≤ 0x46 then some (b - 0x41 + 10)
  else if 0x61 ≤ b && b ≤ 0x66 then some (b - 0x61 + 10)
  else none

/-- The bytes that an encoded sequence stands for. -/
def decodeBytes : List UInt8 → List UInt8
  | 0x25 :: h :: l :: rest =>
    match hexDigit? h, hexDigit? l with
    | some h, some l => (h * 16 + l) :: decodeBytes rest
    | _, _ => 0x25 :: decodeBytes (h :: l :: rest)
  | b :: rest => b :: decodeBytes rest
  | [] => []

/-- Decodes a text; the result has to be UTF-8. -/
def decode (s : String) : Except Utf8.Fault String :=
  Utf8.decode (decodeBytes (Utf8.encode s))

def plusToSpace (b : UInt8) : UInt8 :=
  if b == 0x2B then 0x20 else b

/-- Decodes a key or value of a query; bytes that are no UTF-8 are replaced. -/
def decodeForm (s : String) : String :=
  Utf8.lossy (decodeBytes ((Utf8.encode s).map plusToSpace))

def hexUpper (n : UInt8) : Char :=
  if n < 10 then Char.ofNat (0x30 + n.toNat) else Char.ofNat (0x41 + (n.toNat - 10))

/-- The three characters that stand for a byte. -/
def encodeByte (b : UInt8) : List Char :=
  ['%', hexUpper (b / 16), hexUpper (b % 16)]

/-- Encodes the bytes of controls, of the characters in a set, and of everything outside ASCII. -/
def encodeChar (special : Char → Bool) (c : Char) : List Char :=
  if c.toNat < 0x20 ∨ 0x7E < c.toNat ∨ special c then
    (Utf8.encode (String.singleton c)).flatMap encodeByte
  else [c]

end ActionServer.Percent
