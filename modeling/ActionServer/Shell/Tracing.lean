import ActionServer.Shell.Expansion

/-!
# Traces

A shell can show each command before it runs it: on a line that begins with the value of a variable,
whose first character stands there once for each text that is run around the command.
-/

namespace ActionServer.Shell.Tracing

/-- What a line begins with where nothing else has been set. -/
def usualLead : String := "+ "

/-- The parts of a text between double quotes, in which commands can stand. -/
def partsOf (text : List Char) : Parts :=
  let steps := Grammar.stepsFor text
  let start := { Cursor.ofChars text 1 false with isVerbatim := true }
  match Words.parts (Grammar.inner steps) steps (fun _ => false) true start with
  | .ok (parts, _) => parts
  | .error _ => [.quoted text]

/-- What a line begins with. Nothing is traced while it is made. -/
def lead (substitute : Expansion.Substitute) (n : Nat) : Run (List Char) := do
  let before ← Run.get
  let text := (before.get? "PS4").getD usualLead
  Run.modify fun m => m.setOption false "xtrace"
  let ps ← Expansion.pieces substitute n (partsOf (Expansion.prompt before text.toList))
  Run.modify fun m =>
    { m with options := before.options, status := before.status, substituted := before.substituted }
  return match Piece.text ps with
    | [] => []
    | c :: rest => List.replicate (before.nesting + 1) c ++ rest

/-- Where traces go. -/
def descriptor (m : Machine) : Nat :=
  match (m.get? "BASH_XTRACEFD").map String.toList with
  | some (d :: ds) => if (d :: ds).all Char.isDigit then Words.number 10 (d :: ds) else 2
  | _ => 2

/-- Shows a text, where the shell is asked for traces. -/
def line (substitute : Expansion.Substitute) (n : Nat) (text : List Char) : Run Unit := do
  if (← Run.get).hasOption "xtrace" then
    let front ← lead substitute n
    let _ ← Run.put (descriptor (← Run.get)) (front ++ text ++ ['\n'])

/-- Words as a trace has them. -/
def shown (words : List String) : List Char :=
  [' '].intercalate (words.map fun w => Quoting.traced w.toList)

/-- A side of a condition as a trace has it. -/
def side (text : List Char) : List Char := if text.isEmpty then ['\'', '\''] else text

/-- A pattern as a trace has it: a backslash before each character that is quoted. -/
def pattern (marks : List Mark) : List Char :=
  marks.flatMap fun m => if m.isQuoted then ['\\', m.char] else [m.char]

/-- A part of a condition as a trace has it. -/
def condition (isNegated : Bool) (texts : List (List Char)) : List Char :=
  "[[ ".toList ++ (if isNegated then ['!', ' '] else []) ++ [' '].intercalate texts ++ " ]]".toList

/-- An expression as a trace has it. -/
def expression (text : List Char) : List Char := "(( ".toList ++ text ++ " ))".toList

end ActionServer.Shell.Tracing
