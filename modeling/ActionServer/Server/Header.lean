import ActionServer.Text.Utf8

/-!
# Header values

The value of a header is a list of bytes. A sender may use any bytes but controls, the tab excepted;
on the way, blanks around the value are lost. A value can be read as text if all its bytes are
visible ASCII characters, spaces or tabs.
-/

namespace ActionServer.Header

/-- Whether a byte may stand in a header value. -/
def isAllowed (b : UInt8) : Bool :=
  (0x20 ≤ b && b != 0x7F) || b == 0x09

/-- The value that a sender makes of a text. -/
def ofText? (s : String) : Option (List UInt8) :=
  let bytes := Utf8.encode s
  if bytes.all isAllowed then some bytes else none

def isSpace (b : UInt8) : Bool := b == 0x20 || b == 0x09

/-- The value that arrives. -/
def arrive (value : List UInt8) : List UInt8 :=
  ((value.dropWhile isSpace).reverse.dropWhile isSpace).reverse

/-- Whether a byte is visible ASCII, a space or a tab. -/
def isVisible (b : UInt8) : Bool :=
  (0x20 ≤ b && b < 0x7F) || b == 0x09

/-- The text of a value. -/
def text? (value : List UInt8) : Option String :=
  if value.all isVisible then some (String.ofList (value.map fun b => Char.ofNat b.toNat)) else none

end ActionServer.Header
