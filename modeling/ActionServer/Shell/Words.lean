import ActionServer.Shell.Syntax

/-!
# Reading words

A word goes on to the next blank or operator that is not quoted. Inside double quotes only the dollar
sign, the backquote and the backslash keep a meaning. The commands of a substitution are read by a
reader that is passed in, since they are made of words in turn.
-/

namespace ActionServer.Shell

/-- A stretch of a text that is shown in another form. Its ends are told by how much of the text is
left there. -/
structure Rewriting where
  first : Nat
  stop : Nat
  text : List Char

/-- A document that the end of the script ended: that line, the line where it begins, and the
delimiter that is missing. -/
structure OpenDocument where
  last : Nat
  first : Nat
  wanted : String
  deriving DecidableEq, Repr

/-- A place in a script. -/
structure Cursor where
  rest : List Char
  line : Nat
  /-- Lines that were taken out of the rest and count at the next line feed. -/
  skipped : Nat
  /-- How many line feeds come before that one. -/
  deferral : Nat
  openDocuments : List OpenDocument
  /-- Whether groups of patterns are read. -/
  groups : Bool
  /-- Whether a regular expression is read. -/
  regex : Bool
  /-- Whether the commands of a substitution are read. -/
  isNested : Bool
  /-- Whether the commands of substitutions are kept as they stand. -/
  isVerbatim : Bool
  /-- Whether double quotes stand for themselves, as they do in a document. -/
  isDocument : Bool
  /-- What is shown in another form, the last first. -/
  rewritings : List Rewriting
  /-- Lines that began inside a substitution. -/
  innerLines : List Nat

/-- What is wrong with a condition between double brackets, with the token that was found if it has a
name. -/
inductive ConditionProblem where
  | operand (isUnary : Bool) (token : Option String)
  | operator (token : Option String)
  | parenthesis (token : Option String)
  | misplaced (token : String)
  | leftOver (token : Option String)
  | unfinished
  deriving DecidableEq, Repr

/-- Why a script cannot be read. -/
inductive SyntaxFault where
  | unexpected (token : String) (line : Nat)
  | endOfFile (line : Nat) (openDocuments : List OpenDocument)
  | unmatched (closer : Char) (line : Nat)
  /-- The parenthesis after the commands of a substitution is missing. -/
  | openSubstitution (line : Nat) (openDocuments : List OpenDocument)
  /-- A counting loop has too few expressions, or too many. -/
  | expressionMissing (text : String) (line : Nat)
  | expressionLeftOver (text : String) (line : Nat)
  /-- A fault among the values of an array. -/
  | inArray (fault : SyntaxFault)
  /-- Problems with their lines, and how much of the text is left behind the last one, whether that is
  the end of the text or not. -/
  | condition (problems : List (ConditionProblem × Nat)) (atEnd : Bool) (line remaining : Nat)
  deriving DecidableEq, Repr

abbrev Parse := StateT Cursor (Except SyntaxFault)

namespace Cursor

def ofChars (cs : List Char) (line : Nat) (groups : Bool) : Cursor :=
  { rest := cs, line, skipped := 0, deferral := 0, openDocuments := [], groups, regex := false
    isNested := false, isVerbatim := false, isDocument := false, rewritings := [], innerLines := [] }

/-- One character further. -/
def advance (c : Cursor) : Cursor :=
  match c.rest with
  | [] => c
  | '\n' :: rest =>
    if c.deferral = 0 then { c with rest, line := c.line + 1 + c.skipped, skipped := 0 }
    else { c with rest, line := c.line + 1, deferral := c.deferral - 1 }
  | _ :: rest => { c with rest }

/-- Some characters further. -/
def advanceBy : Nat → Cursor → Cursor
  | 0, c => c
  | n + 1, c => advanceBy n c.advance

/-- The characters between two places as they stand. -/
def rawBetween (start stop : Cursor) : List Char :=
  start.rest.take (start.rest.length - stop.rest.length)

/-- A text up to where so much of it is left, given what is shown in another form. -/
def shownUpTo (left : Nat) (cs : List Char) : List Rewriting → List Char
  | [] => cs.take (cs.length - left)
  | r :: more =>
    cs.take (cs.length - r.first) ++ r.text ++ shownUpTo left (cs.drop (cs.length - r.stop)) more

/-- The characters between two places as they are shown. -/
def between (start stop : Cursor) : List Char :=
  let within := stop.rewritings.filter fun r =>
    r.first ≤ start.rest.length && stop.rest.length ≤ r.stop
  shownUpTo stop.rest.length start.rest within.reverse

/-- Shows what stands between an earlier place and the last characters in another form. -/
def rewrite (start : Cursor) (last : Nat) (text : List Char) (c : Cursor) : Cursor :=
  { c with rewritings := ⟨start.rest.length, c.rest.length + last, text⟩ :: start.rewritings }

end Cursor

namespace Words

def isNameStart (c : Char) : Bool := c.isAlpha || c == '_'

def isNameChar (c : Char) : Bool := c.isAlphanum || c == '_'

/-- Whether a text is a name of a variable. -/
def isName (cs : List Char) : Bool :=
  match cs with
  | [] => false
  | c :: rest => isNameStart c && rest.all isNameChar

/-- Parameters whose name is a sign. -/
def isSign (c : Char) : Bool := "@*#?-$!".toList.contains c

/-- What ends a word. -/
def isMeta (c : Char) : Bool := " \t\n|&;()<>".toList.contains c

/-- The next character. -/
def peek : Parse (Option Char) := fun c => .ok (c.rest.head?, c)

def skip (n : Nat) : Parse Unit := fun c => .ok ((), c.advanceBy n)

def fault {α : Type} (f : Nat → SyntaxFault) : Parse α := fun c => .error (f c.line)

/-- The end of the text where more is needed. -/
def ended {α : Type} : Parse α := fun c => .error (.endOfFile c.line c.openDocuments)

def currentLine : Parse Nat := fun c => .ok (c.line, c)

/-- The characters as long as a condition holds. -/
def takeWhile (p : Char → Bool) : Parse (List Char) := fun c =>
  let cs := c.rest.takeWhile p
  .ok (cs, c.advanceBy cs.length)

/-- The characters up to a closing one, which is passed. -/
def takeUntil (closer : Char) : Parse (List Char) := do
  let line ← currentLine
  let cs ← takeWhile (· != closer)
  match ← peek with
  | some _ => do
    skip 1
    return cs
  | none => fault fun _ => .unmatched closer line

/-- Digits of a base, at most so many. -/
def takeDigits (isDigit : Char → Bool) (most : Nat) (cs : List Char) : List Char × List Char :=
  let ds := (cs.take most).takeWhile isDigit
  (ds, cs.drop ds.length)

def isOctal (c : Char) : Bool := '0' ≤ c && c ≤ '7'

def isHex (c : Char) : Bool := c.isDigit || ('a' ≤ c && c ≤ 'f') || ('A' ≤ c && c ≤ 'F')

def digitValue (c : Char) : Nat :=
  if c.isDigit then c.toNat - '0'.toNat else c.toLower.toNat - 'a'.toNat + 10

def number (base : Nat) (ds : List Char) : Nat :=
  ds.foldl (fun n c => base * n + digitValue c) 0

/-- The character of a byte. -/
def byteChar (n : Nat) : Char := Char.ofNat (n % 256)

/-- Escapes with one letter. -/
def letterEscape? : Char → Option Char
  | 'a' => some '\x07'
  | 'b' => some '\x08'
  | 'e' | 'E' => some '\x1b'
  | 'f' => some '\x0c'
  | 'n' => some '\n'
  | 'r' => some '\r'
  | 't' => some '\t'
  | 'v' => some '\x0b'
  | '\\' => some '\\'
  | _ => none

/-- A code point: the character itself if it is a byte below 128, and otherwise an escape. -/
def codePoint (n : Nat) : List Char :=
  if n < 128 then [Char.ofNat n]
  else
    let ds := (Nat.toDigits 16 n).map Char.toUpper
    let escape (c : Char) (width : Nat) : List Char :=
      '\\' :: c :: (List.replicate (width - ds.length) '0' ++ ds)
    if n < 0x10000 then escape 'u' 4 else escape 'U' 8

/-- Undoes the escapes of a text between dollar quotes. -/
def dollarEscapes : Nat → List Char → List Char
  | 0, cs => cs
  | _, [] => []
  | n + 1, '\\' :: c :: rest =>
    match letterEscape? c with
    | some e => e :: dollarEscapes n rest
    | none =>
      if c = '\'' ∨ c = '"' ∨ c = '?' then c :: dollarEscapes n rest
      else if isOctal c then
        let (ds, after) := takeDigits isOctal 3 (c :: rest)
        byteChar (number 8 ds) :: dollarEscapes n after
      else if c = 'x' then
        let (ds, after) := takeDigits isHex 2 rest
        if ds.isEmpty then '\\' :: c :: dollarEscapes n rest
        else byteChar (number 16 ds) :: dollarEscapes n after
      else if c = 'u' ∨ c = 'U' then
        let (ds, after) := takeDigits isHex (if c = 'u' then 4 else 8) rest
        if ds.isEmpty then '\\' :: c :: dollarEscapes n rest
        else codePoint (number 16 ds) ++ dollarEscapes n after
      else '\\' :: c :: dollarEscapes n rest
  | n + 1, c :: rest => c :: dollarEscapes n rest

/-- The text between dollar quotes, whose end may not be escaped. -/
def dollarText : List Char → Option (List Char × List Char)
  | [] => none
  | '\\' :: c :: rest => (dollarText rest).map fun (text, after) => ('\\' :: c :: text, after)
  | c :: rest =>
    if c = '\'' then some ([], rest)
    else (dollarText rest).map fun (text, after) => (c :: text, after)

/-- The text up to the parenthesis that closes an open one, and what follows; `depth` counts those that
were opened since, and `quote` is the quote that is open. The text so far comes last first. The error
is what the text would have to go on with. -/
def enclosed : (depth : Nat) → (quote : Option Char) → List Char → List Char →
    Except Char (List Char × List Char)
  | _, quote, _, [] => .error (quote.getD ')')
  | depth, quote, sofar, '\\' :: c :: rest =>
    if quote = some '\'' ∧ c = '\'' then enclosed depth none (c :: '\\' :: sofar) rest
    else enclosed depth quote (c :: '\\' :: sofar) rest
  | depth, some q, sofar, c :: rest =>
    enclosed depth (if c = q then none else some q) (c :: sofar) rest
  | 0, none, sofar, ')' :: rest => .ok (sofar.reverse, rest)
  | depth + 1, none, sofar, ')' :: rest => enclosed depth none (')' :: sofar) rest
  | depth, none, sofar, c :: rest =>
    if c = '(' then enclosed (depth + 1) none (c :: sofar) rest
    else if c = '"' ∨ c = '\'' then enclosed depth (some c) (c :: sofar) rest
    else enclosed depth none (c :: sofar) rest

/-- The expression between two pairs of parentheses whose first signs have been passed, with what
follows the inner pair where that is no parenthesis. The error is what the text would have to go on
with. -/
def expressionText (cs : List Char) : Except Char (List Char × Option (List Char)) := do
  let (text, rest) ← enclosed 0 none [] cs
  return (text, if rest.head? = some ')' then none else some rest)

/-- The text up to a backquote that is not escaped, with the escapes of backquotes, backslashes and
dollar signs undone, and between quotes those of double quotes; and how long it was. -/
def backquoteText (inQuotes : Bool) : List Char → Option (List Char × Nat)
  | [] => none
  | '\x60' :: _ => some ([], 1)
  | '\\' :: c :: rest =>
    (backquoteText inQuotes rest).map fun (text, n) =>
      let isEscape := c == '\x60' || c == '\\' || c == '$' || (inQuotes && c == '"')
      (if isEscape then c :: text else '\\' :: c :: text, n + 2)
  | c :: rest => (backquoteText inQuotes rest).map fun (text, n) => (c :: text, n + 1)

/-- Literal characters, quoted or not. -/
def literal (inQuotes : Bool) (cs : List Char) : Parts :=
  if inQuotes then [.quoted cs] else cs.map .plain

/-- Whether a text has a comment in it, which hides the end of the substitution that it is part of. -/
def hasComment : (afterBlank : Bool) → List Char → Bool
  | _, [] => false
  | afterBlank, c :: rest =>
    (afterBlank && c == '#') || hasComment (c == ' ' || c == '\t' || c == '\n') rest

/-- Shows a part that is no use of a parameter with all that stands between the same quotes. -/
def showAround (inQuotes : Bool) (whole : List Char) : WordPart → WordPart
  | .parameter q subject (.bad text) =>
    .parameter q subject (.bad (if q = inQuotes then whole else text))
  | part => part

/-- Signs that a group of patterns can begin with. -/
def isGroupSign (c : Char) : Bool := "?*+@!".toList.contains c

/-- Letters of transformations. -/
def isTransform (c : Char) : Bool := "QEPAKakuUL".toList.contains c

/-- The text between single quotes inside braces that are inside double quotes. The quotes keep what is
between them from closing the braces, and stand for themselves. -/
def guarded : Parse Parts := do
  skip 1
  return [.quoted ('\'' :: (← takeUntil '\'') ++ ['\''])]

mutual

/-- The parts of a word up to a character that ends it. -/
def parts (commands : Parse (List Char)) :
    Nat → (stop : Char → Bool) → (inQuotes : Bool) → Parse Parts
  | 0, _, _ => ended
  | n + 1, stop, inQuotes => do
    let cursor ← get
    match cursor.rest with
    | [] => return []
    | c :: more =>
      if !inQuotes && (c == '<' || c == '>') && more.head? == some '(' then do
        skip 1
        let first ← substitution commands fun text => .pipe (c == '<') text
        return first :: (← parts commands n stop inQuotes)
      else if !inQuotes && cursor.groups && isGroupSign c && more.head? == some '(' then do
        skip 2
        let group ← grouped commands n 0
        return .plain c :: .plain '(' :: group ++ (← parts commands n stop inQuotes)
      else if !inQuotes && cursor.regex && (c == '(' || c == '|') then do
        skip 1
        let group ← if c = '(' then grouped commands n 0 else pure []
        return .plain c :: group ++ (← parts commands n stop inQuotes)
      else if stop c then return []
      else
        let first ← if inQuotes && c == '\'' && stop '\x7d' then guarded
          else part commands n stop inQuotes c
        let others ← parts commands n stop inQuotes
        return first ++ others

/-- The parts up to the parenthesis that closes an open one, with that parenthesis. -/
def grouped (commands : Parse (List Char)) : Nat → (depth : Nat) → Parse Parts
  | 0, _ => ended
  | n + 1, depth => do
    match ← peek with
    | none => fault (.unmatched ')')
    | some ')' => do
      skip 1
      match depth with
      | 0 => return [.plain ')']
      | d + 1 => return .plain ')' :: (← grouped commands n d)
    | some '(' => do
      skip 1
      return .plain '(' :: (← grouped commands n (depth + 1))
    | some c => do
      let first ← part commands n (fun _ => false) false c
      return first ++ (← grouped commands n depth)

/-- The parts up to the bracket that closes an open one, which is passed. Inside braces, the bracket has
to stand in front of the closing brace. -/
def bracketed (commands : Parse (List Char)) (inBraces : Bool) : Nat → (depth : Nat) → Parse Parts
  | 0, _ => ended
  | n + 1, depth => do
    match ← peek with
    | none => fault (.unmatched ']')
    | some '\x7d' =>
      if inBraces then fault (.unmatched ']')
      else do
        skip 1
        return .plain '\x7d' :: (← bracketed commands inBraces n depth)
    | some ']' => do
      skip 1
      match depth with
      | 0 => return []
      | d + 1 => return .plain ']' :: (← bracketed commands inBraces n d)
    | some '[' => do
      skip 1
      return .plain '[' :: (← bracketed commands inBraces n (depth + 1))
    | some c => do
      let first ← part commands n (fun _ => false) false c
      return first ++ (← bracketed commands inBraces n depth)

/-- The part that begins with a character. -/
def part (commands : Parse (List Char)) :
    Nat → (stop : Char → Bool) → (inQuotes : Bool) → Char → Parse Parts
  | 0, _, _, _ => ended
  | n + 1, stop, inQuotes, c =>
    if c = '\\' then do
      skip 1
      match ← peek with
      | none => return [.quoted ['\\']]
      | some '\n' => do
        skip 1
        return []
      | some d =>
        let isDocument := (← get).isDocument
        let isEscape := "$\x60\\".toList.contains d || (d == '"' && !isDocument) || stop d
        if !inQuotes || isEscape then do
          skip 1
          return [.quoted [d]]
        else if d = '\'' then do
          skip 1
          return [.quoted ['\\', d]]
        else return [.quoted ['\\']]
    else if c = '\'' ∧ !inQuotes then do
      skip 1
      return [.quoted (← takeUntil '\'')]
    else if c = '"' then do
      let line ← currentLine
      skip 1
      let start ← get
      if start.isDocument then return [.quoted ['"']]
      let inner ← parts commands n (· == '"') true
      match ← peek with
      | some _ => do
        let whole := start.between (← get)
        skip 1
        return if inner.isEmpty then [.quoted []] else inner.map (showAround true whole)
      | none => fault fun _ => .unmatched '"' line
    else if c = '$' then do
      skip 1
      dollar commands n inQuotes
    else if c = '\x60' then do
      skip 1
      let cursor ← get
      match backquoteText (inQuotes && !cursor.isDocument) cursor.rest with
      | none => fault (.unmatched '\x60')
      | some (text, count) => do
        skip count
        return [.command inQuotes text]
    else do
      skip 1
      return literal inQuotes [c]

/-- What a dollar sign begins. -/
def dollar (commands : Parse (List Char)) : Nat → (inQuotes : Bool) → Parse Parts
  | 0, _ => ended
  | n + 1, inQuotes => do
    let cursor ← get
    let inner (text : List Char) : Parse Parts := do
      let after := cursor.advanceBy (text.length + 4)
      let left := after.rest.length + 2
      set { cursor with
              rest := text, skipped := 0, deferral := 0, regex := false, isDocument := false
              rewritings := [] }
      let parts ← parts commands n (fun _ => false) true
      let inside := (← get).rewritings.map fun r => ⟨r.first + left, r.stop + left, r.text⟩
      set { after with rewritings := inside ++ cursor.rewritings }
      return parts
    match cursor.rest with
    | '(' :: '(' :: rest =>
      match expressionText rest with
      | .ok (text, none) =>
        if hasComment true text then do
          set (cursor.advanceBy (text.length + 4))
          let whole := "$((".toList ++ text ++ "))".toList
          return [.parameter inQuotes (.mk false "" none) (.unclosed ')' whole)]
        else do
          return [.arithmetic inQuotes (← inner text)]
      | .ok (text, some after) =>
        match enclosed 0 none [] after with
        | .ok (more, _) => do
          let whole := '(' :: text ++ ')' :: more
          skip (whole.length + 2)
          return [.command inQuotes whole]
        | .error closer => fault (.unmatched closer)
      | .error closer => fault (.unmatched closer)
    | '(' :: _ => return [← substitution commands (.command inQuotes)]
    | '[' :: _ => do
      skip 1
      return [.arithmetic inQuotes (← bracketed commands false n 0)]
    | '\x7b' :: _ => do
      skip 1
      return [← braces commands n inQuotes]
    | c :: rest =>
      if c = '\'' ∧ !inQuotes then
        match dollarText rest with
        | some (text, _) => do
          skip (text.length + 2)
          return [.quoted (dollarEscapes (text.length + 1) text)]
        | none => fault fun line => .unmatched '\'' line
      else if c = '"' ∧ !inQuotes then return []
      else if isNameStart c then do
        let name ← takeWhile isNameChar
        return [.parameter inQuotes (.mk false (String.ofList name) none) .value]
      else if c.isDigit || isSign c then do
        skip 1
        return [.parameter inQuotes (.mk false (String.singleton c) none) .bare]
      else return literal inQuotes ['$']
    | [] => return literal inQuotes ['$']

/-- The commands between parentheses, the first of which is next. -/
def substitution (commands : Parse (List Char)) (make : List Char → WordPart) :
    Parse WordPart := do
  skip 1
  let outer ← get
  set { outer with regex := false }
  let text ← fun c =>
    match commands c with
    | .error (.endOfFile line documents) => .error (.openSubstitution line documents)
    | result => result
  match ← peek with
  | some _ => do
    modify fun c => { outer.rewrite 0 text c with regex := outer.regex }
    skip 1
    return make text
  | none => fun c => .error (.openSubstitution c.line c.openDocuments)

/-- The subscript of a parameter, if there is one. One that is not closed is empty. -/
def subscript (commands : Parse (List Char)) : Nat → Parse (Option Subscript)
  | 0 => ended
  | n + 1 => do
    match (← get).rest with
    | '[' :: '@' :: ']' :: _ => do
      skip 3
      return some .all
    | '[' :: '*' :: ']' :: _ => do
      skip 3
      return some .joined
    | '[' :: _ => fun c =>
      match bracketed commands true n 0 c.advance with
      | .ok (place, c) => .ok (some (.place place), c)
      | .error (.unmatched ']' _) => .ok (some (.place []), c)
      | .error fault => .error fault
    | _ => return none

/-- An offset or a length between braces: up to a colon that belongs to no condition, or to the
closing brace. -/
def amount (commands : Parse (List Char)) (inQuotes : Bool) :
    Nat → (depth conditions : Nat) → Parse Parts
  | 0, _, _ => ended
  | n + 1, depth, conditions => do
    match ← peek with
    | none | some '\x7d' => return []
    | some c =>
      if c = ':' ∧ depth = 0 ∧ conditions = 0 then return []
      else
        let first ← part commands n (· == '\x7d') inQuotes c
        let depth := if c = '(' then depth + 1 else if c = ')' then depth - 1 else depth
        let conditions := if c = '?' then conditions + 1 else if c = ':' then conditions - 1
          else conditions
        return first ++ (← amount commands inQuotes n depth conditions)

/-- A parameter between braces, the first of which has been passed. -/
def braces (commands : Parse (List Char)) : Nat → (inQuotes : Bool) → Parse WordPart
  | 0, _ => ended
  | n + 1, inQuotes => do
    let line ← currentLine
    let start ← get
    let word (quotes : Bool) : Parse Parts := do
      let before ← get
      set { before with isDocument := false }
      let w ← parts commands n (· == '\x7d') quotes
      modify fun c => { c with isDocument := start.isDocument }
      let text := before.rawBetween (← get)
      if quotes && text.contains '\'' then do
        let read (text : List Char) : Option Parts :=
          let start := { before with rest := text, skipped := 0, isDocument := false }
          ((parts commands n (fun _ => false) true start).toOption).map (·.1)
        let plain := text.filter (· != '"')
        return ((read text).orElse fun _ => read plain).getD w
      else return w
    let finish (subject : Subject) (use : List Char → ParameterUse) : Parse WordPart := do
      let rest ← word inQuotes
      let isClosed := (← peek).isSome
      if !isClosed && (rest.isEmpty || !start.isVerbatim) then
        fault fun _ => .unmatched '\x7d' line
      else do
        skip 1
        let whole := '$' :: '\x7b' :: start.between (← get)
        return .parameter inQuotes subject (if rest.isEmpty then use whole else .bad whole)
    let close (subject : Subject) (use : ParameterUse) : Parse WordPart :=
      finish subject fun _ => use
    let operate (subject : Subject) : Parse WordPart := do
      let given (length : Nat) (use : Parts → ParameterUse) (quotes : Bool) : Parse WordPart := do
        skip length
        close subject (use (← word quotes))
      match (← get).rest with
      | ':' :: '-' :: _ => given 2 (.default true) inQuotes
      | ':' :: '=' :: _ => given 2 (.assign true) inQuotes
      | ':' :: '?' :: _ => given 2 (.require true) false
      | ':' :: '+' :: _ => given 2 (.alternative true) inQuotes
      | '-' :: _ => given 1 (.default false) inQuotes
      | '=' :: _ => given 1 (.assign false) inQuotes
      | '?' :: _ => given 1 (.require false) false
      | '+' :: _ => given 1 (.alternative false) inQuotes
      | '#' :: '#' :: _ => given 2 (.dropStart true) false
      | '#' :: _ => given 1 (.dropStart false) false
      | '%' :: '%' :: _ => given 2 (.dropEnd true) false
      | '%' :: _ => given 1 (.dropEnd false) false
      | '/' :: second :: _ => do
        skip (if second = '/' ∨ second = '#' ∨ second = '%' then 2 else 1)
        let slash ← if second = '/' ∧ (← peek) = some '/' then do
            skip 1
            pure [.plain '/']
          else pure []
        let pattern ← parts commands n (fun c => c == '\x7d' || c == '/') false
        let pattern := slash ++ pattern
        let replacement ← match ← peek with
          | some '/' => do
            skip 1
            word false
          | _ => pure []
        close subject (match second with
          | '/' => .replace true pattern replacement
          | '#' => .replaceStart pattern replacement
          | '%' => .replaceEnd pattern replacement
          | _ => .replace false pattern replacement)
      | ':' :: '\x7d' :: _ => do
        skip 1
        finish subject .bad
      | ':' :: _ => do
        skip 1
        let offset ← amount commands inQuotes n 0 0
        match ← peek with
        | some ':' => do
          skip 1
          close subject (.slice offset (some (← amount commands inQuotes n 0 0)))
        | _ => close subject (.slice offset none)
      | '^' :: '^' :: _ => given 2 (.recase .upper true) false
      | '^' :: _ => given 1 (.recase .upper false) false
      | ',' :: ',' :: _ => given 2 (.recase .lower true) false
      | ',' :: _ => given 1 (.recase .lower false) false
      | '~' :: '~' :: _ => given 2 (.recase .toggle true) false
      | '~' :: _ => given 1 (.recase .toggle false) false
      | '@' :: c :: rest =>
        if isTransform c ∧ rest.head? = some '\x7d' then do
          skip 2
          close subject (.transform c)
        else do
          let _ ← word inQuotes
          finish subject .badTransform
      | _ => close subject .value
    let sign (c : Char) : Subject := .mk false (String.singleton c) none
    match start.rest with
    | '#' :: '\x7d' :: _ => do
      skip 1
      close (sign '#') .value
    | '#' :: c :: rest =>
      if isNameStart c || c.isDigit then do
        skip 1
        let name ← takeWhile (if isNameStart c then isNameChar else Char.isDigit)
        let place ← if isNameStart c then subscript commands n else pure none
        close (.mk false (String.ofList name) place) .length
      else if isSign c && rest.head? == some '\x7d' then do
        skip 2
        close (sign c) .length
      else do
        skip 1
        operate (sign '#')
    | '!' :: '\x7d' :: _ => do
      skip 1
      close (sign '!') .value
    | '!' :: c :: _ =>
      if isNameStart c then do
        skip 1
        let name := String.ofList (← takeWhile isNameChar)
        let place ← subscript commands n
        match place, (← get).rest with
        | none, '*' :: '\x7d' :: _ => do
          skip 1
          close (.mk false name none) (.names false)
        | none, '@' :: '\x7d' :: _ => do
          skip 1
          close (.mk false name none) (.names true)
        | some .all, '\x7d' :: _ | some .joined, '\x7d' :: _ =>
          close (.mk false name place) .places
        | _, _ => operate (.mk true name place)
      else if c.isDigit then do
        skip 1
        let digits ← takeWhile Char.isDigit
        operate (.mk true (String.ofList digits) none)
      else if c = '#' ∨ c = '?' ∨ c = '@' ∨ c = '*' then do
        skip 2
        operate (.mk true (String.singleton c) none)
      else do
        skip 1
        operate (sign '!')
    | c :: _ =>
      if isNameStart c then do
        let name ← takeWhile isNameChar
        let place ← subscript commands n
        match place with
        | some (.place []) => finish (.mk false (String.ofList name) none) .bad
        | _ => operate (.mk false (String.ofList name) place)
      else if c.isDigit then do
        let digits ← takeWhile Char.isDigit
        operate (.mk false (String.ofList digits) none)
      else if isSign c then do
        skip 1
        operate (sign c)
      else do
        let _ ← word inQuotes
        finish (.mk false "" none) .bad
    | [] => fault fun _ => .unmatched '\x7d' line

end

/-- A variable, perhaps with a place in it, and what is assigned to it. -/
structure Assignment where
  name : String
  place : Option Parts
  append : Bool
  value : Parts

/-- The parts up to the bracket that closes an open one, and those after it. -/
def splitBracket : (depth : Nat) → Parts → Option (Parts × Parts)
  | _, [] => none
  | 0, .plain ']' :: rest => some ([], rest)
  | depth, p :: rest =>
    let depth := match p with
      | .plain '[' => depth + 1
      | .plain ']' => depth - 1
      | _ => depth
    (splitBracket depth rest).map fun (inner, after) => (p :: inner, after)

/-- The assignment that a word is. -/
def assignment? (w : Parts) : Option Assignment :=
  let front := w.takeWhile fun
    | .plain c => isNameChar c
    | _ => false
  let chars := front.filterMap fun
    | .plain c => some c
    | _ => none
  if !isName chars then none
  else
    let name := String.ofList chars
    let (place, rest) := match w.drop front.length with
      | .plain '[' :: rest =>
        match splitBracket 0 rest with
        | some (inner, after) => (some inner, after)
        | none => (none, [])
      | rest => (none, rest)
    match rest with
    | .plain '=' :: value => some ⟨name, place, false, value⟩
    | .plain '+' :: .plain '=' :: value => some ⟨name, place, true, value⟩
    | _ => none

end Words

end ActionServer.Shell
