import ActionServer.Shell.Grammar

/-!
# Telling of faults

What is said of a text that cannot be read: where the fault is, what was found there, and the line as
it stands in the text.
-/

namespace ActionServer.Shell

/-- A text that is run, with its name. Every line of it ends with a line feed. -/
structure ScriptText where
  name : String
  firstLine : Nat
  chars : List Char
  /-- Whether its lines can be shown when they are read. -/
  isShown : Bool

namespace ScriptText

/-- A text whose last line is ended, if it does not end by itself. -/
def ofChars (name : String) (firstLine : Nat) (chars : List Char) : ScriptText :=
  let isEnded := chars.isEmpty || chars.getLast? == some '\n'
  ⟨name, firstLine, if isEnded then chars else chars ++ ['\n'], true⟩

/-- The beginning of a text. -/
def start (t : ScriptText) (groups : Bool) : Cursor := Cursor.ofChars t.chars t.firstLine groups

/-- The lines of a text; what stands behind the last line feed is one only if it is not empty. -/
def splitLines : List Char → List (List Char)
  | [] => []
  | c :: rest =>
    if c = '\n' then [] :: splitLines rest
    else match splitLines rest with
      | line :: more => (c :: line) :: more
      | [] => [[c]]

/-- A line of a text by its number. -/
def line (t : ScriptText) (number : Nat) : List Char :=
  ((splitLines t.chars)[number - t.firstLine]?).getD []

/-- The place where a line begins. -/
def startOf (t : ScriptText) (number : Nat) (groups : Bool) : Cursor :=
  let left := (splitLines t.chars).drop (number - t.firstLine)
  Cursor.ofChars (left.flatMap (· ++ ['\n'])) number groups

/-- The text of a substitution. -/
def ofSubstitution (name : String) (firstLine : Nat) (chars : List Char) : ScriptText :=
  { ofChars name firstLine chars with isShown := false }

/-- The lines from a number up to another one, which does not count. -/
def linesBetween (t : ScriptText) (first stop : Nat) : List (List Char) :=
  ((splitLines t.chars).drop (first - t.firstLine)).take (stop - first)

/-- What is said of documents that the end of a text ended. -/
def warnings (t : ScriptText) (documents : List OpenDocument) : List String :=
  documents.map fun d =>
    s!"{t.name}: line {d.last}: warning: here-document at line {d.first} delimited by end-of-file " ++
      s!"(wanted \x60{d.wanted}')"

end ScriptText

namespace ConditionProblem

/-- What is said of a problem with a condition. -/
def message : ConditionProblem → String
  | .operand isUnary token =>
    let kind := if isUnary then "unary" else "binary"
    match token with
    | some t => s!"unexpected argument \x60{t}' to conditional {kind} operator"
    | none => s!"unexpected argument to conditional {kind} operator"
  | .operator (some t) => s!"unexpected token \x60{t}', conditional binary operator expected"
  | .operator none => "conditional binary operator expected"
  | .parenthesis (some t) => s!"unexpected token \x60{t}', expected \x60)'"
  | .parenthesis none => "expected \x60)'"
  | .misplaced t => s!"unexpected token \x60{t}' in conditional command"
  | .leftOver (some t) => s!"syntax error in conditional expression: unexpected token \x60{t}'"
  | .leftOver none => "syntax error in conditional expression"
  | .unfinished => "unexpected EOF while looking for \x60]]'"

end ConditionProblem

namespace SyntaxFault

/-- The text that ends at a place of a line, or with the character there: back to a blank, or to a
sign that separates commands. -/
def textBefore (line : List Char) (place : Nat) : List Char :=
  let isBlank (c : Char) : Bool := c == ' ' || c == '\t' || c == '\n'
  let back := (line.take (place + 1)).reverse.dropWhile isBlank
  match back with
  | [] => []
  | c :: before =>
    if ";|&".toList.contains c then [c]
    else
      let chunk := back.takeWhile fun c => !isBlank c && !";|&".toList.contains c
      let sign := (before.drop (chunk.length - 1)).head?.filter fun c => !isBlank c
      sign.toList ++ chunk.reverse

/-- What is said of a fault in a text. -/
def report (text : ScriptText) (fault : SyntaxFault) : List String :=
  let inLine (line : Nat) (message : String) : String := s!"{text.name}: line {line}: " ++ message
  let shown (line : Nat) : String :=
    let whole := String.ofList (text.line line)
    inLine line s!"\x60{whole}'"
  match fault with
  | .unexpected token line =>
    [inLine line s!"syntax error near unexpected token \x60{token}'", shown line]
  | .endOfFile line _ => [inLine line "syntax error: unexpected end of file"]
  | .unmatched closer line =>
    [inLine line s!"unexpected EOF while looking for matching \x60{closer}'"]
  | .openSubstitution line _ => [inLine line "unexpected EOF while looking for matching \x60)'"]
  | .expressionMissing expression line =>
    [inLine line "syntax error: arithmetic expression required",
      inLine line s!"syntax error: \x60(({expression}))'"]
  | .expressionLeftOver expression line =>
    [inLine line "syntax error: \x60;' unexpected",
      inLine line s!"syntax error: \x60(({expression}))'"]
  | .inArray fault => report text fault
  | .condition problems atEnd line remaining =>
    (problems.map fun (p, line) => inLine line p.message) ++
      if atEnd then [inLine line "syntax error: unexpected end of file"]
      else
        let earlier := (text.linesBetween text.firstLine line).map fun l => l.length + 1
        let place := text.chars.length - remaining - earlier.sum
        let near := String.ofList (textBefore (text.line line) place)
        [inLine line s!"syntax error near \x60{near}'", shown line]

/-- Whether the fault is one in a condition. -/
def problems? : SyntaxFault → Option (List (ConditionProblem × Nat))
  | .condition problems _ _ _ => some problems
  | _ => none

/-- The status of a text that cannot be read, given that of the command before. A quote or bracket that
is left open only counts where nothing failed before. -/
def status (before : Nat) : SyntaxFault → Nat
  | .unmatched _ _ => if before = 0 then 2 else before
  | .inArray _ => 1
  | _ => 2

/-- The last line that is read, if it is not the last one of the text. -/
def lastLine? : SyntaxFault → Option Nat
  | .unexpected _ line => some line
  | .inArray fault => fault.lastLine?
  | _ => none

/-- Documents that the end of the text ended. -/
def openDocuments : SyntaxFault → List OpenDocument
  | .endOfFile _ documents | .openSubstitution _ documents => documents
  | .inArray fault => fault.openDocuments
  | _ => []

/-- The line where the text is read on: after an operator among the values of an array. -/
def nextLine? : SyntaxFault → Option Nat
  | .inArray (.unexpected _ line) => some (line + 1)
  | _ => none

end SyntaxFault

end ActionServer.Shell
