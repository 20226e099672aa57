/-!
# Quoting

Texts in forms that the shell reads back: between single quotes, between double quotes, with
backslashes, and between dollar quotes where a byte has no printed form. Which form is taken depends
on what is shown: arguments of a traced command, values of variables, or texts that a script asked to
quote.
-/

namespace ActionServer.Shell.Quoting

/-- Whether a byte has a printed form. -/
def isPrinted (c : Char) : Bool := ' ' ≤ c && c ≤ '~'

/-- Between single quotes; a quote inside is written between two such texts. -/
def single (cs : List Char) : List Char :=
  if cs = ['\''] then ['\\', '\'']
  else
    let inner := cs.flatMap fun c => if c = '\'' then ['\'', '\\', '\'', '\''] else [c]
    '\'' :: inner ++ ['\'']

/-- Between double quotes. -/
def double (cs : List Char) : List Char :=
  let isEscaped (c : Char) : Bool := c == '"' || c == '$' || c == '\x60' || c == '\\'
  '"' :: cs.flatMap (fun c => if isEscaped c then ['\\', c] else [c]) ++ ['"']

/-- A byte between dollar quotes. -/
def dollarChar (c : Char) : List Char :=
  match c with
  | '\n' => ['\\', 'n']
  | '\t' => ['\\', 't']
  | '\r' => ['\\', 'r']
  | '\x07' => ['\\', 'a']
  | '\x08' => ['\\', 'b']
  | '\x0b' => ['\\', 'v']
  | '\x0c' => ['\\', 'f']
  | '\x1b' => ['\\', 'E']
  | '\\' => ['\\', '\\']
  | '\'' => ['\\', '\'']
  | c =>
    if isPrinted c then [c]
    else
      let ds := Nat.toDigits 8 c.toNat
      '\\' :: (List.replicate (3 - ds.length) '0' ++ ds)

/-- Between dollar quotes. -/
def dollar (cs : List Char) : List Char :=
  '$' :: '\'' :: cs.flatMap dollarChar ++ ['\'']

def needsDollar (cs : List Char) : Bool := !cs.all isPrinted

/-- A text with a form that can be used again, whatever is in it. -/
def reusable (cs : List Char) : List Char :=
  if needsDollar cs then dollar cs else single cs

/-- The value of a variable in a listing. -/
def value (cs : List Char) : List Char :=
  if needsDollar cs then dollar cs else double cs

/-- Characters with a meaning for the shell wherever they stand. -/
def isSpecial (c : Char) : Bool := " \t\n!\"$&'()*;<>?[\\]^\x60\x7b|\x7d".toList.contains c

/-- Each character by itself, with a backslash where it is special. -/
def escapeFrom : (before : Option Char) → List Char → List Char
  | _, [] => []
  | before, c :: rest =>
    let atStart := before.isNone
    let escaped := isSpecial c || c == ',' || (c == '#' && atStart) ||
      (c == '~' && (atStart || before == some '=' || before == some ':'))
    (if escaped then ['\\', c] else [c]) ++ escapeFrom (some c) rest

/-- With backslashes. -/
def escape (cs : List Char) : List Char :=
  if cs.isEmpty then ['\'', '\'']
  else if needsDollar cs then dollar cs
  else escapeFrom none cs

/-- Whether the shell would read a text as something else than itself. -/
def isMisread : (before : Option Char) → List Char → Bool
  | _, [] => false
  | before, c :: rest =>
    isSpecial c || (c == '#' && before.isNone) ||
      (c == '~' && (before.isNone || before == some '=' || before == some ':')) ||
      isMisread (some c) rest

/-- A word of a command that is traced. -/
def traced (cs : List Char) : List Char :=
  if cs.isEmpty then ['\'', '\'']
  else if isMisread none cs then single cs
  else if needsDollar cs then dollar cs
  else cs

/-- The value of an assignment that is traced; an empty one is left out. -/
def tracedValue (cs : List Char) : List Char :=
  if cs.isEmpty then [] else traced cs

/-- A name as diagnostics show it: with escapes where a byte has no printed form. -/
def shown (s : String) : String :=
  if needsDollar s.toList then String.ofList (dollar s.toList) else s

/-- A byte without a printed form as programs show it. -/
def programChar (c : Char) : List Char :=
  if c = '\x1b' then "\\033".toList else dollarChar c

/-- A text between the quotes of a message of a program. -/
def cited (cs : List Char) : List Char :=
  '\'' :: cs.flatMap programChar ++ ['\'']

/-- Whether a byte means nothing special in the name of a file between double quotes. -/
def isHarmless (c : Char) : Bool :=
  isPrinted c && !"!\"$&()*;<=>[^\x60|\\?#~\x7b\x7d".toList.contains c

/-- The name of a file between quotes, part by part: bytes without a printed form stand between dollar
quotes. `inDollar` says whether those are open. -/
def fileNameRest : (inDollar : Bool) → List Char → List Char
  | _, [] => ['\'']
  | inDollar, c :: rest =>
    if isPrinted c then
      let ended := if inDollar then ['\'', '\''] else []
      if c = '\'' then
        ['\'', '\\', '\'', '\''] ++ fileNameRest false rest
      else ended ++ c :: fileNameRest false rest
    else
      let begun := if inDollar then [] else ['\'', '$', '\'']
      begun ++ programChar c ++ fileNameRest true rest

/-- The name of a file in a message of a program: quoted if the shell would not read it as it is. -/
def fileName (cs : List Char) : List Char :=
  let isSpecial (c : Char) : Bool := " !\"$&()*;<=>[^\x60|\\?:'".toList.contains c || !isPrinted c
  let isFirst := match cs with
    | c :: rest => c == '#' || c == '~' || (rest.isEmpty && (c == '\x7b' || c == '\x7d'))
    | [] => true
  if !isFirst && !cs.any isSpecial then cs
  else if cs.contains '\'' && cs.all isHarmless then '"' :: cs ++ ['"']
  else '\'' :: fileNameRest false cs

end ActionServer.Shell.Quoting
