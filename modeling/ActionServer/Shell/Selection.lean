import ActionServer.Shell.Fields

/-!
# Menus

How the words among which a reader chooses are listed: numbered, in columns that fill a line, the
numbers going down the columns. Blanks between columns are tabs where a tab reaches far enough.
-/

namespace ActionServer.Shell.Selection

/-- How many characters a line has. -/
def lineWidth : Nat := 80

/-- How far tabs reach. -/
def tabWidth : Nat := 8

/-- Blanks from one column of a line to another one. -/
def indent : (steps : Nat) → (start stop : Nat) → List Char
  | 0, _, _ => []
  | n + 1, start, stop =>
    if stop ≤ start then []
    else if start / tabWidth < stop / tabWidth then
      '\t' :: indent n (start + tabWidth - start % tabWidth) stop
    else ' ' :: indent n (start + 1) stop

def digits (n : Nat) : Nat := (toString n).length

/-- How quotients are rounded up. -/
def quotient (a b : Nat) : Nat := (a + b - 1) / b

/-- What is between a number and its word. -/
def sign : String := ") "

/-- A word with its number, which is brought to a width. -/
def entry (width number : Nat) (word : String) : List Char :=
  let ds := (toString number).toList
  List.replicate (width - ds.length) ' ' ++ ds ++ sign.toList ++ word.toList

/-- The entries of a row from one on, given where in the line it stands. -/
def rowFrom (words : List String) (rows elementWidth otherWidth : Nat) :
    (steps : Nat) → (width place index : Nat) → List Char
  | 0, _, _, _ => []
  | n + 1, width, place, index =>
    match words[index]? with
    | none => []
    | some word =>
      let text := entry width (index + 1) word
      if words.length ≤ index + rows then text
      else
        text ++ indent (lineWidth * 2) (place + text.length) (place + elementWidth) ++
          rowFrom words rows elementWidth otherWidth n otherWidth (place + elementWidth) (index + rows)

/-- The menu of some words. -/
def menu (words : List String) : List Char :=
  let count := words.length
  if count = 0 then ['\n']
  else
    let numberWidth := digits count
    let elementWidth := (words.map String.length).foldl max 0 + numberWidth + sign.length + 2
    let columns := max (lineWidth / elementWidth) 1
    let rows := quotient count columns
    let columns := quotient count rows
    let rows := if rows = 1 then columns else rows
    (List.range rows).flatMap fun row =>
      rowFrom words rows elementWidth numberWidth (count + 1) (digits rows) 0 row ++ ['\n']

/-- The word that an answer chooses; an answer that is no number of one chooses nothing. -/
def choice (words : List String) (answer : String) : String :=
  let cs := answer.toList.filter fun c => !Fields.isBlank c
  let n := (Braces.integer? cs).getD 0
  if 1 ≤ n then (words[n.toNat - 1]?).getD "" else ""

end ActionServer.Shell.Selection
