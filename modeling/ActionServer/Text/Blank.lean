/-!
# Blank characters

A character is blank when the Unicode standard gives it the property `White_Space`. Names, settings,
protocol lines and diagnostics are all trimmed of exactly these characters, and of no others: a zero
width space or a byte order mark is text.
-/

namespace ActionServer.Text

/-- The twenty-five blank characters of the Unicode standard. -/
def isBlank (c : Char) : Bool :=
  let n := c.toNat
  (0x09 ≤ n && n ≤ 0x0D) || n == 0x20 || n == 0x85 || n == 0xA0 || n == 0x1680 ||
    (0x2000 ≤ n && n ≤ 0x200A) || n == 0x2028 || n == 0x2029 || n == 0x202F || n == 0x205F ||
    n == 0x3000

/-- The characters left when blanks are dropped from both ends. -/
def trimChars (cs : List Char) : List Char :=
  ((cs.dropWhile isBlank).reverse.dropWhile isBlank).reverse

/-- A text without the blanks around it. -/
def trim (s : String) : String :=
  String.ofList (trimChars s.toList)

/-- Whether nothing but blanks is left of a text. -/
def isAllBlank (s : String) : Bool :=
  s.toList.all isBlank

/-- A text without its trailing slashes. -/
def trimTrailingSlashes (s : String) : String :=
  String.ofList ((s.toList.reverse.dropWhile (· == '/')).reverse)

/-- The rest of a text after a given beginning. -/
def stripPrefix? (beginning s : String) : Option String :=
  let rec go : List Char → List Char → Option (List Char)
    | [], rest => some rest
    | _ :: _, [] => none
    | p :: ps, c :: cs => if p = c then go ps cs else none
  (go beginning.toList s.toList).map String.ofList

/-- Small letters for the capitals of ASCII; every other character stays. -/
def asciiLower (s : String) : String :=
  String.ofList (s.toList.map Char.toLower)

/-- Capitals for the small letters of ASCII; every other character stays. -/
def asciiUpper (s : String) : String :=
  String.ofList (s.toList.map Char.toUpper)

end ActionServer.Text
