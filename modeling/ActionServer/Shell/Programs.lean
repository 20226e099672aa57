import ActionServer.Shell.Fractions
import ActionServer.Shell.Reading
import ActionServer.Shell.Redirection

/-!
# Programs

The few programs that a script can run apart from what the shell does itself. A program is a process
of its own: what ends it does not end the script.
-/

namespace ActionServer.Shell.Programs

/-- Directories where programs are found. -/
def directories : List String := ["/usr/bin/", "/bin/"]

def names : List String := ["cat", "sleep", "true", "false"]

/-- The program that a command names, with or without its directory. -/
def find? (command : String) : Option String :=
  names.find? fun name => command == name || directories.any fun dir => command == dir ++ name

/-- What is said behind a diagnostic about arguments. -/
def hint (command : String) : String := s!"Try '{command} --help' for more information."

/-- Ends with a diagnostic about arguments. -/
def misused (command message : String) : Run Unit := do
  Run.tell s!"{command}: {message}"
  Run.tell (hint command)
  Run.setStatus 1

/-- How files are copied. -/
structure CopyStyle where
  numbers : Bool := false
  /-- Only lines with something in them are numbered. -/
  numbersFull : Bool := false
  /-- Of several empty lines one is left. -/
  squeezes : Bool := false
  showsEnds : Bool := false
  showsTabs : Bool := false
  showsControls : Bool := false

namespace CopyStyle

/-- Whether files are copied as they are. -/
def isPlain (s : CopyStyle) : Bool :=
  !(s.numbers || s.numbersFull || s.squeezes || s.showsEnds || s.showsTabs || s.showsControls)

/-- A style with what an option asks for; nothing if there is no such option. -/
def with? (s : CopyStyle) (c : Char) : Option CopyStyle :=
  match c with
  | 'n' => some { s with numbers := true }
  | 'b' => some { s with numbersFull := true }
  | 's' => some { s with squeezes := true }
  | 'E' => some { s with showsEnds := true }
  | 'T' => some { s with showsTabs := true }
  | 'v' => some { s with showsControls := true }
  | 'e' => some { s with showsControls := true, showsEnds := true }
  | 't' => some { s with showsControls := true, showsTabs := true }
  | 'A' => some { s with showsControls := true, showsEnds := true, showsTabs := true }
  | 'u' => some s
  | _ => none

/-- The letters of the options that have a name. -/
def named : List (String × Char) :=
  [("number", 'n'), ("number-nonblank", 'b'), ("squeeze-blank", 's'), ("show-ends", 'E'),
    ("show-tabs", 'T'), ("show-nonprinting", 'v'), ("show-all", 'A')]

/-- A byte that has no printed form, with signs for what it is. -/
def control (c : Char) : List Char :=
  let n := c.toNat
  if n < 32 then ['^', Char.ofNat (n + 64)]
  else if n < 127 then [c]
  else if n = 127 then ['^', '?']
  else
    let low := n - 128
    'M' :: '-' :: (if low < 32 then ['^', Char.ofNat (low + 64)]
      else if low < 127 then [Char.ofNat low]
      else ['^', '?'])

/-- A byte of a line. -/
def shown (s : CopyStyle) (c : Char) : List Char :=
  if c = '\t' then (if s.showsTabs then ['^', 'I'] else [c])
  else if s.showsControls then control c
  else [c]

end CopyStyle

/-- How far a copy has come. -/
structure CopyState where
  /-- The next character begins a line. -/
  atStart : Bool := true
  number : Nat := 1
  /-- How many empty lines came last. -/
  blanks : Nat := 0

/-- A number in front of a line. -/
def lineNumber (n : Nat) : List Char :=
  let ds := Nat.toDigits 10 n
  List.replicate (6 - ds.length) ' ' ++ ds ++ ['\t']

/-- What is written for some bytes; it comes last first. -/
def render (style : CopyStyle) : CopyState → List Char → List Char → CopyState × List Char
  | s, out, [] => (s, out)
  | s, out, c :: rest =>
    if c = '\n' && s.atStart then
      if style.squeezes && 1 ≤ s.blanks then render style { s with blanks := s.blanks + 1 } out rest
      else
        let numbered := style.numbers && !style.numbersFull
        let front := if numbered then lineNumber s.number else []
        let stop := if style.showsEnds then ['$', '\n'] else ['\n']
        render style
          { s with blanks := s.blanks + 1, number := if numbered then s.number + 1 else s.number }
          ((front ++ stop).reverse ++ out) rest
    else if c = '\n' then
      let stop := if style.showsEnds then ['$', '\n'] else ['\n']
      render style { s with atStart := true, blanks := 0 } (stop.reverse ++ out) rest
    else
      let numbered := s.atStart && (style.numbers || style.numbersFull)
      let front := if numbered then lineNumber s.number else []
      render style
        { atStart := false, blanks := 0, number := if numbered then s.number + 1 else s.number }
        ((front ++ style.shown c).reverse ++ out) rest

/-- Writes what is copied of some bytes; the reason if that is not possible. -/
def copyOut (style : CopyStyle) (s : CopyState) (cs : List Char) :
    Run (CopyState × Option String) := do
  if style.isPlain then return (s, ← Run.put 1 cs)
  else
    let (s, out) := render style s [] cs
    return (s, ← Run.put 1 out.reverse)

/-- How copying a file ended. -/
inductive CopyEnd where
  | complete
  | unreadable
  | broken (reason : String)

/-- Copies what a descriptor gives. -/
def copyFrom (style : CopyStyle) (descriptor : Nat) :
    Nat → CopyState → Run (CopyState × CopyEnd)
  | 0, s => return (s, .complete)
  | n + 1, s => do
    match ← Run.readChunk descriptor with
    | none => return (s, .unreadable)
    | some [] => return (s, .complete)
    | some cs => do
      match ← copyOut style s cs with
      | (s, some reason) => return (s, .broken reason)
      | (s, none) => copyFrom style descriptor n s

/-- Copies files, a dash standing for the input. The status is one if a file could not be copied. -/
def copyAll (command : String) (style : CopyStyle) (status : Nat) : CopyState → List String → Run Unit
  | _, [] => Run.setStatus status
  | s, path :: rest => do
    let m ← Run.get
    let device := if path = "-" then some 0 else Conditions.deviceDescriptor? path
    let shown := String.ofList (Quoting.fileName path.toList)
    let failed (reason : String) : Run (CopyState × Option String) := return (s, some reason)
    let finish (result : CopyState × CopyEnd) : Run (CopyState × Option String) := do
      match result with
      | (s, .complete) => return (s, none)
      | (s, .broken reason) => return (s, some s!"write error: {reason}")
      | (s, .unreadable) => return (s, some s!"{shown}: Bad file descriptor")
    let (s, fault) ← match device with
      | some d =>
        match m.channel? d with
        | none =>
          failed (if path = "-" then "-: Bad file descriptor"
            else s!"{shown}: No such file or directory")
        | some (.file []) => failed s!"{shown}: Is a directory"
        | some _ => do finish (← copyFrom style d Reading.lineLimit s)
      | none =>
        if path = "/dev/null" then pure (s, none)
        else do
          match ← Run.stat path with
          | .ok (.file bytes) => do
            let place := (Conditions.Scene.place? ⟨m, ← Run.files⟩ path).getD []
            if !bytes.isEmpty && m.channel? 1 == some (.file place) then
              failed s!"{shown}: input file is output file"
            else
              match ← copyOut style s (Octets.chars bytes) with
              | (s, some reason) => finish (s, .broken reason)
              | (s, none) => pure (s, none)
          | .ok .directory => failed s!"{shown}: Is a directory"
          | .error e =>
            failed (if Conditions.usualDirectories.contains path then s!"{shown}: Is a directory"
              else s!"{shown}: {faultReason e}")
    match fault with
    | some message => do
      Run.tell s!"{command}: {message}"
      if message = "-: Bad file descriptor" then
        Run.tell s!"{command}: closing standard input: Bad file descriptor"
      copyAll command style 1 s rest
    | none => copyAll command style status s rest

/-- What arguments ask for: a style and files, which can stand in front of options. -/
def copyArguments (style : CopyStyle) (files : List String) :
    List String → Except String (CopyStyle × List String)
  | [] => .ok (style, files.reverse)
  | "--" :: rest => .ok (style, files.reverse ++ rest)
  | a :: rest =>
    match a.toList with
    | '-' :: '-' :: name =>
      let name := String.ofList name
      match CopyStyle.named.filter fun o => name.toList.isPrefixOf o.1.toList with
      | [] => .error s!"unrecognized option '{a}'"
      | (first, c) :: others =>
        if !others.isEmpty && first != name then
          let options := (first :: others.map (·.1)).map fun o => s!"'--{o}'"
          let shown := " ".intercalate options
          .error s!"option '{a}' is ambiguous; possibilities: {shown}"
        else copyArguments ((style.with? c).getD style) files rest
    | '-' :: c :: cs =>
      match (c :: cs).find? fun c => (style.with? c).isNone with
      | some c => .error s!"invalid option -- '{c}'"
      | none =>
        copyArguments ((c :: cs).foldl (fun s c => (s.with? c).getD s) style) files rest
    | _ => copyArguments style (a :: files) rest

/-- Copies files to the output. -/
def cat (command : String) (arguments : List String) : Run Unit := do
  match copyArguments {} [] arguments with
  | .error message => misused command message
  | .ok (style, files) => do
    match (← Run.get).channel? 1 with
    | none => do
      Run.tell s!"{command}: standard output: Bad file descriptor"
      Run.setStatus 1
    | some _ => copyAll command style 0 {} (if files.isEmpty then ["-"] else files)

/-- Milliseconds from a number with a unit: seconds, minutes, hours or days. -/
def interval? (s : String) : Option Nat :=
  let cs := s.toList
  let (number, factor) := match cs.reverse with
    | 's' :: ds => (ds.reverse, 1)
    | 'm' :: ds => (ds.reverse, 60)
    | 'h' :: ds => (ds.reverse, 3600)
    | 'd' :: ds => (ds.reverse, 86400)
    | _ => (cs, 1)
  if number = "inf".toList ∨ number = "infinity".toList then some (Nat.pow 2 64)
  else
    match Fraction.read? number with
    | some ⟨⟨false, .finite count exponent⟩, [], _⟩ =>
      let (a, b) := Fraction.scale count exponent
      some ((factor * 1000 * a + b - 1) / b)
    | some ⟨⟨false, .infinite⟩, [], _⟩ => some (Nat.pow 2 64)
    | _ => none

/-- Waits for the sum of its intervals. -/
def sleep (command : String) (arguments : List String) : Run Unit := do
  let isOption (a : String) : Bool := a.toList.head? == some '-' && 1 < a.length && a != "--"
  let intervals := (arguments.filter (· != "--")).map fun a => (a, interval? a)
  match arguments.find? isOption with
  | some a =>
    if "--".toList.isPrefixOf a.toList then misused command s!"unrecognized option '{a}'"
    else
      let letter := String.ofList ((a.toList.drop 1).take 1)
      misused command s!"invalid option -- '{letter}'"
  | none =>
    if arguments.isEmpty then misused command "missing operand"
    else
      let bad := intervals.filter fun (_, ms) => ms.isNone
      if bad.isEmpty then do
        Run.sleep ((intervals.filterMap (·.2)).foldl (· + ·) 0)
        Run.setStatus 0
      else do
        Run.tellAll (bad.map fun (a, _) =>
          s!"{command}: invalid time interval " ++ String.ofList (Quoting.cited a.toList))
        Run.tell (hint command)
        Run.setStatus 1

/-- Runs a program, given how it was called. -/
def run (program command : String) (arguments : List String) : Run Unit :=
  match program with
  | "cat" => cat command arguments
  | "sleep" => sleep command arguments
  | "true" => Run.setStatus 0
  | _ => Run.setStatus 1

/-- The end of a command that names no program. -/
def missing (command : String) : Run Unit := do
  if !command.toList.contains '/' then
    Run.fail 127 s!"{Quoting.shown command}: command not found"
  else
    match ← Run.stat command with
    | .ok .directory => Run.fail 126 s!"{command}: Is a directory"
    | .ok (.file _) => Run.fail 126 s!"{command}: Permission denied"
    | .error .notADirectory => Run.fail 126 s!"{command}: Not a directory"
    | .error e =>
      if Conditions.usualDirectories.contains command then
        Run.fail 126 s!"{command}: Is a directory"
      else Run.fail 127 s!"{command}: {faultReason e}"

end ActionServer.Shell.Programs
