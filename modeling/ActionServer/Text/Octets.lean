/-!
# Bytes as characters

Where text need not be UTF-8, each byte is taken as the character of its number, so that the parts of
a path or of a script can be told apart in any bytes.
-/

namespace ActionServer.Octets

/-- Bytes as characters below 256. -/
def chars (bytes : List UInt8) : List Char :=
  bytes.map fun b => Char.ofNat b.toNat

/-- The bytes of such characters. -/
def bytes (cs : List Char) : List UInt8 :=
  cs.map fun c => UInt8.ofNat c.toNat

/-- Bytes as a text of characters below 256. -/
def text (bs : List UInt8) : String :=
  String.ofList (chars bs)

/-- The bytes of such a text. -/
def ofText (s : String) : List UInt8 :=
  bytes s.toList

end ActionServer.Octets
