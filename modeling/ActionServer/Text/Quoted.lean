import ActionServer.Text.HiddenTable
import ActionServer.Text.Lowercase

/-!
# Quoted text

A text in a diagnostic stands between double quotes. Quotes and backslashes in it are escaped, some
controls have a letter of their own, and every other character that cannot be shown is written by
its number.
-/

namespace ActionServer.Text

/-- Whether a character can stand for itself in a diagnostic. -/
def isShown (c : Char) : Bool :=
  (' ' ≤ c && c ≤ '~') || !inRuns c.toNat hiddenRuns

/-- The form of a character between double quotes. -/
def quoteChar (c : Char) : List Char :=
  if c = '"' ∨ c = '\\' then ['\\', c]
  else if c = '\x00' then ['\\', '0']
  else if c = '\t' then ['\\', 't']
  else if c = '\n' then ['\\', 'n']
  else if c = '\r' then ['\\', 'r']
  else if isShown c then [c]
  else ['\\', 'u', '\x7b'] ++ Nat.toDigits 16 c.toNat ++ ['\x7d']

/-- A text between double quotes. -/
def quoted (s : String) : String :=
  String.ofList (['"'] ++ s.toList.flatMap quoteChar ++ ['"'])

end ActionServer.Text
