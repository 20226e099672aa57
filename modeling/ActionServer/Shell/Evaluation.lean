import ActionServer.Shell.Copies
import ActionServer.Shell.Faults
import ActionServer.Shell.Filling
import ActionServer.Shell.Naming
import ActionServer.Shell.Regex
import ActionServer.Shell.Selection
import ActionServer.Shell.Timing

/-!
# Running commands

Commands run in the order in which they stand, each handing control to the host for a moment. Between
two of them the shell looks for signals that it keeps commands for. Parts of a pipeline, commands in
parentheses and substitutions run in copies of the shell.

Each step takes one from a number: a script that takes more of them than it may never ends.
-/

namespace ActionServer.Shell.Evaluation

open Expansion (Substitute)

/-- A word of a command after its expansion. -/
inductive Field where
  | text (s : String)
  /-- An array that is declared. -/
  | list (name : String) (append : Bool) (entries : List Filling.Entry)

namespace Field

def name : Field → String
  | text s => s
  | list name _ _ => name

/-- Whether the field asks for places that are keys. -/
def asksForKeys : Field → Bool
  | text s => s.toList.head? == some '-' && s.toList.contains 'A'
  | list .. => false

end Field

/-- Commands whose arguments can be assignments, which are not split. -/
def declarators : List String := ["declare", "export", "local", "readonly", "typeset"]

/-- The fields of an argument of a declaration, behind other ones. -/
def declarationField (substitute : Substitute) (n : Nat) (before : List Field) (w : Word) :
    Run (List Field) := do
  match Words.assignment? w.parts with
  | none => return (← Expansion.allFields substitute n [w]).map .text
  | some a =>
    match a.value, a.place with
    | [.items items], none => do
      let isKeyed := before.any Field.asksForKeys || Filling.isKeyed (← Run.get) a.name
      let entries ← Filling.entriesOf substitute n isKeyed items
      Tracing.line substitute n (Filling.traced a.name a.append entries)
      return [.list a.name a.append entries]
    | value, place => do
      let place ← match place with
        | none => pure ""
        | some place => do
          let text := String.ofList (Piece.text (← Expansion.pieces substitute n place))
          pure s!"[{text}]"
      let text ← Expansion.valueText substitute n value
      return [.text (a.name ++ place ++ (if a.append then "+=" else "=") ++ text)]

/-- The fields of a declaration, behind those so far. -/
def declarationFields (substitute : Substitute) (n : Nat) (before : List Field) :
    List Word → Run (List Field)
  | [] => return before
  | w :: rest => do
    let fields ← declarationField substitute n before w
    declarationFields substitute n (before ++ fields) rest

/-- Whether a word has the values of an array. -/
def hasItems (w : Word) : Bool :=
  w.parts.any fun
    | .items _ => true
    | _ => false

/-- The fields of a command's words. -/
def commandFields (substitute : Substitute) (n : Nat) (words : List Word) : Run (List Field) :=
  match words with
  | [] => return []
  | first :: rest =>
    if declarators.contains first.source then
      declarationFields substitute n [.text first.source] rest
    else
      Run.collect (fun w => do
        if hasItems w then return [.text w.source]
        else return (← Expansion.allFields substitute n [w]).map .text) words

/-- Makes assignments one after the other, until one is not possible. -/
def assignAll (substitute : Substitute) (n : Nat) : List Word → Run Bool
  | [] => return true
  | w :: rest => do
    match Words.assignment? w.parts with
    | none => assignAll substitute n rest
    | some a =>
      if ← Filling.assign substitute n w.source a then assignAll substitute n rest else return false

/-- A variable that has a value only for a command: its name, and how it was before and is then. -/
structure Temporary where
  name : String
  before : Option Variable
  value : Option Variable

/-- Puts variables in place. -/
def place (entries : List (String × Option Variable)) : Run Unit :=
  Run.modify fun m => entries.foldl (fun m (name, v) =>
    match v with
    | some v => m.bind name v
    | none => m.unbind name) m

/-- Makes the assignments of a command, and takes them back; what the variables are for it. -/
def prepare (substitute : Substitute) (n : Nat) (assignments : List Word) : Run (List Temporary) := do
  if assignments.isEmpty then return []
  let before ← Run.get
  let names ← Run.collect (fun w => do
    match Words.assignment? w.parts with
    | none => return []
    | some a =>
      if a.place.isSome then
        let front := Filling.frontOf w.source a
        Run.complain s!"\x60{front}': not a valid identifier"
        return []
      else if hasItems w then return []
      else do
        let done ← Filling.assign substitute n w.source a
        return if done then [before.target a.name] else []) assignments
  let after ← Run.get
  let exported (v : Variable) : Variable :=
    { v with attributes := { v.attributes with isExported := true } }
  let all := names.eraseDups.map fun name =>
    (⟨name, before.bound? name, (after.bound? name).map exported⟩ : Temporary)
  place (all.map fun t => (t.name, t.before))
  return all

/-- Does something with variables as they are for a command. -/
def withTemporaries (all : List Temporary) (r : Run Unit) : Run Unit := do
  if all.isEmpty then r
  else do
    place (all.map fun t => (t.name, t.value))
    let result ← Run.attempt r
    place (all.map fun t => (t.name, t.before))
    Run.resume result

/-- Whether a text has the form of one of some patterns. -/
def matchesAny (substitute : Substitute) (n : Nat) (text : List Char) : List Word → Run Bool
  | [] => return false
  | w :: rest => do
    let marks ← Expansion.marks substitute n w.parts
    let m ← Run.get
    let p := Pattern.ofMarks (m.hasShellOption "extglob") (m.hasShellOption "nocasematch") marks
    if p.holds text then return true else matchesAny substitute n text rest

/-- The text of an expression after its expansion. -/
def expressionText (substitute : Substitute) (n : Nat) (w : Word) : Run (List Char) := do
  return Piece.text (← Expansion.pieces substitute n w.parts)

/-- The value of an expression between double parentheses; nothing if there is a fault in it. -/
def calculateWord (substitute : Substitute) (n : Nat) (w : Word) : Run (Option Int) := do
  let text ← expressionText substitute n w
  Tracing.line substitute n (Tracing.expression text)
  Run.calculate? "((" text

/-- The parts of an expression without the blanks at its beginning. -/
def trimStart : Parts → Parts
  | .plain c :: rest => if Arithmetic.isSpace c then trimStart rest else .plain c :: rest
  | .quoted cs :: rest =>
    match cs.dropWhile Arithmetic.isSpace with
    | [] => trimStart rest
    | cs => .quoted cs :: rest
  | w => w

/-- An expression of a counting loop; an empty one stands for one that holds. -/
def loopExpression (w : Word) : Word :=
  if w.source.toList.all Arithmetic.isSpace then .mk [.plain '1'] "1"
  else .mk (trimStart w.parts) w.source

/-- The status of a condition: zero if it holds, and one if it does not; two if it has no form. -/
def verdict (holds : Bool) : Nat := if holds then 0 else 1

/-- Notes what a regular expression has found. -/
def noteFound (found : Option (List (List Char))) : Run Unit :=
  Run.modify fun m => m.setTexts "BASH_REMATCH" ((found.getD []).map String.ofList)

/-- A condition on two words. -/
def compare (substitute : Substitute) (n : Nat) (isNegated : Bool) (op : String) (left right : Word) :
    Run Nat := do
  let a ← Expansion.text substitute n left.parts
  let trace (b : List Char) : Run Unit :=
    Tracing.line substitute n
      (Tracing.condition isNegated [Tracing.side a.toList, op.toList, Tracing.side b])
  match Conditions.comparison? op with
  | some holds => do
    let b ← Expansion.text substitute n right.parts
    trace b.toList
    match ← Run.calculate? "[[" a.toList with
    | none => return 1
    | some x =>
      match ← Run.calculate? "[[" b.toList with
      | none => return 1
      | some y => return verdict (holds x y)
  | none =>
    if op = "=~" then do
      let marks ← Expansion.marks substitute n right.parts
      trace (Tracing.pattern marks)
      match Regex.ofMarks? marks with
      | none => return 2
      | some (regex, groups) => do
        let anyCase := (← Run.get).hasShellOption "nocasematch"
        let found := Regex.find? anyCase regex groups a.toList
        noteFound found
        return verdict found.isSome
    else if op = "=" || op = "==" || op = "!=" then do
      let marks ← Expansion.marks substitute n right.parts
      trace (Tracing.pattern marks)
      let p := Pattern.ofMarks true ((← Run.get).hasShellOption "nocasematch") marks
      return verdict (p.holds a.toList != (op = "!="))
    else do
      let b ← Expansion.text substitute n right.parts
      trace b.toList
      match Conditions.binary? ⟨← Run.get, ← Run.files⟩ op a b with
      | some (.ok holds) => return verdict holds
      | _ => return 1

/-- The status of a condition; whether it is denied where it stands is told by its trace. -/
def holds (substitute : Substitute) (n : Nat) (isNegated : Bool) : Test → Run Nat
  | .word w => unary "-n" w
  | .unary op w => unary op w
  | .binary op left right => compare substitute n isNegated op left right
  | .negate t => do
    let status ← holds substitute n (!isNegated) t
    return verdict (status != 0)
  | .both a b => do
    match ← holds substitute n false a with
    | 0 => holds substitute n false b
    | status => return status
  | .either a b => do
    match ← holds substitute n false a with
    | 0 => return 0
    | _ => holds substitute n false b
  | .group t => holds substitute n false t
where
  /-- A condition on one word. -/
  unary (op : String) (w : Word) : Run Nat := do
    let text ← Expansion.text substitute n w.parts
    let text ← if op = "-v" then Expansion.placed substitute n text else pure text
    Tracing.line substitute n
      (Tracing.condition isNegated [op.toList, Tracing.side text.toList])
    return verdict ((Conditions.unary? ⟨← Run.get, ← Run.files⟩ op text).getD false)

/-- The status of a pipeline from those of its parts. -/
def pipelineStatus (m : Machine) (statuses : List Nat) : Nat :=
  if m.hasOption "pipefail" then (statuses.reverse.find? (· != 0)).getD 0
  else statuses.getLast?.getD 0

/-- Notes the statuses of the parts of a pipeline. -/
def noteStages (statuses : List Nat) : Run Unit :=
  Run.modify fun m => { m with stages := statuses }

/-- Notes the status of a command that is a pipeline by itself. -/
def noteStatus : Run Unit := Run.modify fun m => { m with stages := [m.status] }

/-- Notes what runs, unless it belongs to a trap. -/
def noteCurrent (line : Nat) (c : Current) : Run Unit :=
  Run.modify fun m => { m with line, current := if m.trapped.isEmpty then c else m.current }

/-- All that is read from a descriptor; the parts so far come last first. -/
def readAll (descriptor : Nat) : Nat → List (List Char) → Run (List Char)
  | 0, _ => Run.hang
  | n + 1, parts => do
    match ← Run.readChunk descriptor with
    | none | some [] => return parts.reverse.flatten
    | some cs => readAll descriptor n (cs :: parts)

/-- The text of a file that is run in the shell itself. -/
def openText (n : Nat) (path : String) : Run (Except String ScriptText) := do
  match Conditions.deviceDescriptor? path with
  | some d => return .ok (.ofChars path 1 (← readAll d n []))
  | none =>
    match ← Run.stat path with
    | .ok (.file bytes) => return .ok (.ofChars path 1 ((Octets.chars bytes).filter (· != '\x00')))
    | .ok .directory => return .error "is a directory"
    | .error e =>
      return if Conditions.usualDirectories.contains path then .error "is a directory"
        else if path = "/dev/null" then .ok (.ofChars path 1 [])
        else .error (faultReason e)

/-- The name of an event in the name of its commands. -/
def trapName : Event → String
  | .ending => "exit trap"
  | .signal _ => "trap"
  | .command => "debug trap"
  | .failure => "error trap"
  | .homecoming => "return trap"

/-- Traps that a function does not take over. -/
def isKeptFromFunctions (m : Machine) : Event → Bool
  | .failure => !m.hasOption "errtrace"
  | .command | .homecoming => !m.hasOption "functrace"
  | _ => false

/-- Whether a command is one without parts. -/
def isSimple : Command → Bool
  | .simple .. => true
  | _ => false

/-- The first descriptors that are chosen for the pipes of substitutions; the next ones go down. -/
def firstPassing : Nat := 63

/-- A descriptor that leads nowhere, from a number down. -/
def freeDescriptor (m : Machine) : Nat → Nat
  | 0 => 0
  | d + 1 => if (m.channel? (d + 1)).isNone then d + 1 else freeDescriptor m d

/-- Shows the lines of a text when they are read, except those that begin inside a substitution. -/
def echoLines (text : ScriptText) (first stop : Nat) (innerLines : List Nat) : Run Unit := do
  if text.isShown && (← Run.get).hasOption "verbose" then
    let lines := (text.linesBetween first stop).zipIdx first
    let shown := lines.filter fun e => !innerLines.contains e.2
    let _ ← Run.put 2 (shown.flatMap (·.1 ++ ['\n']))

/-- Sets the variable of a loop; a reference is made to stand for another variable. -/
def setLoopVariable (name value : String) : Run Bool := do
  match (← Run.get).bound? name with
  | some v =>
    if v.attributes.isReference && !v.attributes.isReadonly then do
      Run.modify fun m => m.bind name { v with value := .text value, isSet := true }
      return true
    else Assigning.put name none false value
  | none => Assigning.put name none false value

/-- The options of `exec` in front of the command: the name that the command is told, and the rest; the
error is a letter. -/
def execOptions (name : Option String) : Nat → List String → Except Char (Option String × List String)
  | 0, rest => .ok (name, rest)
  | _, [] => .ok (name, [])
  | n + 1, a :: rest =>
    match a.toList with
    | ['-', '-'] => .ok (name, rest)
    | '-' :: c :: cs =>
      let others := if cs.isEmpty then rest else String.ofList ('-' :: cs) :: rest
      if c = 'a' then
        match if cs.isEmpty then rest else String.ofList cs :: rest with
        | given :: rest => execOptions (some given) n rest
        | [] => .error 'a'
      else if c = 'c' ∨ c = 'l' then execOptions name n others
      else .error c
    | _ => .ok (name, a :: rest)

/-- Runs a program in place of the process, given how it is called. -/
def runProgram (name : String) (program : String) (arguments : List String) : Run Unit :=
  if Programs.names.contains program then Programs.run program name arguments
  else ((Builtins.find? program).getD fun _ => Run.setStatus 127) arguments

/-- The program that a name stands for. -/
def program? (m : Machine) (name : String) : Option String :=
  let path := ((m.found.lookup name).map (·.1)).getD name
  Programs.find? path <|> (if Naming.twins.contains name then some name else none)

/-- The redirection that a text consists of, if it does no more than to read a file. -/
def shownFile? (text : ScriptText) (m : Machine) : Option Redirect :=
  let start := text.start (m.hasShellOption "extglob")
  match Grammar.line? (Grammar.stepsFor start.rest) start with
  | .ok (some [.simple _ [] [] [.mk source .readFrom target document isQuoted]], after) =>
    if (source == .usual || source == .number 0) && after.rest.isEmpty then
      some (.mk source .readFrom target document isQuoted)
    else none
  | _ => none

/-- Whether a word that is read as the name of a function can be one: it has no quotes and dollar signs
in it. -/
def isFunctionName (source : String) : Bool :=
  !source.toList.any fun c => c == '\'' || c == '"' || c == '\\' || c == '$'

/-- Notes a function. -/
def define (line : Nat) (name : String) (body : Command) : Run Unit := do
  Run.modify fun m =>
    let f : Function := ⟨body, line, m.origin, false, false⟩
    { m with functions := (name, f) :: m.functions.filter (·.1 != name) }
  Run.setStatus 0

/-- Tells that a path names no program that could take the place of the shell. -/
def missingFile (path : String) : Run Unit := do
  let plain := if "./".toList.isPrefixOf path.toList then String.ofList (path.toList.drop 2) else path
  let full := Path.resolveFrom (← Run.get).workDir plain
  let problem? : Option String := match ← Run.stat path with
    | .ok .directory => some "Is a directory"
    | .ok _ => some "Permission denied"
    | .error .notADirectory => some "Not a directory"
    | .error _ =>
      if Conditions.usualDirectories.contains path then some "Is a directory" else none
  match problem? with
  | some problem => do
    Run.complain s!"{full}: {problem}"
    Run.fail 126 s!"exec: {full}: cannot execute: {problem}"
  | none => Run.fail 127 s!"{full}: No such file or directory"

mutual

/-- Runs the commands of a text, each line before the next one is read. Where a command gives up its
line, the next line follows. A text that cannot be read ends the shell where it is the script
itself. -/
def lines : Nat → (whole : Bool) → ScriptText → Cursor → Run Unit
  | 0, _, _, _ => Run.hang
  | n + 1, whole, text, cursor => do
    let cursor := { cursor with groups := (← Run.get).hasShellOption "extglob" }
    match Grammar.line? (Grammar.stepsFor cursor.rest) cursor with
    | .error fault => do
      let last := fault.lastLine?.getD (cursor.line + cursor.rest.length)
      echoLines text cursor.line (last + 1) []
      match fault.problems? with
      | some problems =>
        if whole && Grammar.startsCondition cursor then do
          Run.tellAll (problems.map fun (p, line) => s!"{text.name}: line {line}: " ++ p.message)
          Run.stop .exit
        else pure ()
      | none => pure ()
      Run.tellAll (text.warnings fault.openDocuments)
      let m ← Run.get
      if m.hasOption "errexit" && !m.guarded then do
        Run.tellAll ((fault.report text).take 1)
        Run.setStatus 2
        Run.stop .exit
      else do
        Run.tellAll (fault.report text)
        Run.setStatus (fault.status m.status)
        match fault.nextLine? with
        | some line =>
          if m.depth = 0 then lines n whole text (text.startOf line cursor.groups)
          else Run.stop .abandon
        | none => if whole then Run.stop .exit
    | .ok (none, after) => do
      echoLines text cursor.line after.line after.innerLines
      if !whole && cursor.rest.length = text.chars.length then Run.setStatus 0
    | .ok (some commands, after) => do
      echoLines text cursor.line after.line after.innerLines
      Run.tellAll (text.warnings after.openDocuments)
      let after := { after with openDocuments := [], innerLines := [] }
      match ← Run.attempt (sequence n commands) with
      | .ok _ => lines n whole text after
      | .error .abandon =>
        if (← Run.get).depth = 0 then lines n whole text after else Run.stop .abandon
      | .error flow => Run.stop flow

/-- Runs a text inside another one. -/
def inner : Nat → ScriptText → Run Unit
  | 0, _ => Run.hang
  | n + 1, text => do
    Run.modify fun m => { m with nesting := m.nesting + 1 }
    let result ← Run.attempt (lines n false text (text.start false))
    Run.modify fun m => { m with nesting := m.nesting - 1 }
    Run.resume result

def sequence : Nat → List Command → Run Unit
  | 0, _ => Run.hang
  | _, [] => return ()
  | n + 1, c :: rest => do
    execute n c
    sequence n rest

/-- Runs commands of which the last one can take the place of the process. -/
def lastSequence : Nat → List Command → Run Unit
  | 0, _ => Run.hang
  | _, [] => return ()
  | n + 1, [c] => last n c
  | n + 1, c :: rest => do
    execute n c
    lastSequence n rest

/-- Runs what is kept for an event. -/
def runTrap : Nat → Event → Run Unit
  | 0, _ => Run.hang
  | n + 1, event => do
    let m ← Run.get
    match m.traps.lookup event with
    | none | some "" => return ()
    | some chars =>
      if m.trapped.any (·.1 == event) then return ()
      else do
        let first := match event with
          | .signal _ => 1
          | _ => m.line
        let text := ScriptText.ofChars (m.origin ++ ": " ++ trapName event) first chars.toList
        Run.modify fun m => { m with trapped := (event, m.status) :: m.trapped }
        let result ← Run.attempt (inner n text)
        Run.modify fun after => { after with trapped := m.trapped, line := m.line }
        match result with
        | .error .exit => Run.stop .exit
        | .error .leaveFunction => Run.stop .leaveFunction
        | result => do
          Run.modify fun after =>
            { after with status := m.status, substituted := m.substituted, stages := m.stages
                         lastWord := m.lastWord }
          Run.resume result

/-- Runs what is kept for signals that have arrived. -/
def signals : Nat → Run Unit
  | 0 => Run.hang
  | n + 1 => do
    let m ← Run.get
    if m.traps.isEmpty then return ()
    else
      let arrived := (← Run.shared).pending m.process
      match arrived.find? fun s => (m.traps.lookup (.signal s)).isSome with
      | none => return ()
      | some s => do
        Run.update fun shared =>
          ((), { shared with signals := shared.signals.filter (· != (m.process, s)) })
        runTrap n (.signal s)
        signals n

/-- What follows a command that has failed, where nothing takes notice of that. -/
def checkStatus : Nat → Run Unit
  | 0 => Run.hang
  | n + 1 => do
    let m ← Run.get
    if m.status != 0 && !m.guarded then do
      runTrap n .failure
      if (← Run.get).exitOnError then Run.stop .exit

/-- Runs one command. -/
def execute : Nat → Command → Run Unit
  | 0, _ => Run.hang
  | n + 1, c => do
    if (← Run.get).hasOption "noexec" then return ()
    else do
      Run.tick
      signals n
      Run.withPassing (perform n c)

/-- Runs a command that can take the place of the process. -/
def last : Nat → Command → Run Unit
  | 0, _ => Run.hang
  | n + 1, .simple line assignments words redirects => do
    Run.tick
    signals n
    simple n true (.simple line assignments words redirects) line assignments words redirects
  | n + 1, .subshell line body redirects => do
    Run.modify fun m => { m with line, loops := 0 }
    if ← Redirection.applyAll (substitute n) n redirects then lastSequence n body
  | n + 1, c => execute n c

def perform : Nat → Command → Run Unit
  | 0, _ => Run.hang
  | n + 1, .simple line assignments words redirects =>
    simple n false (.simple line assignments words redirects) line assignments words redirects
  | n + 1, .pipeline negated parts => do
    if negated then do
      Run.guarding (pipe n parts)
      Run.modify fun m => m.setStatus (if m.status = 0 then 1 else 0)
    else pipe n parts
  | n + 1, .timed brief c => do
    let start := (← Run.shared).elapsed
    execute n c
    let m ← Run.get
    let ms := (← Run.shared).elapsed - start
    let format := if brief then Timing.briefFormat
      else (m.get? "TIMEFORMAT").getD Timing.usualFormat
    if format != "" then
      match Timing.text ms format with
      | .ok text => let _ ← Run.put 2 (text ++ ['\n'])
      | .error c => Run.complain s!"TIMEFORMAT: \x60{c}': invalid format character"
  | n + 1, .both a b => do
    Run.guarding (execute n a)
    if (← Run.get).status = 0 then execute n b
  | n + 1, .either a b => do
    Run.guarding (execute n a)
    if (← Run.get).status != 0 then execute n b
  | n + 1, .background c => do
    let processes ← match c with
      | .pipeline false (first :: second :: rest) => do
        let (processes, _) ← Run.keeping do
          launch n Machine.inBackground none false (first :: second :: rest)
        pure processes
      | c => do
        let process ← Run.spawnFrom (fun m => m.inBackground.deeper) (whole n (last n c))
        pure [process]
    Jobs.add processes (Listing.line c)
    Run.setStatus 0
  | n + 1, .subshell line body redirects => do
    Run.modify fun m => { m with line }
    let process ← Run.spawnFrom (fun m => { m.copied.deeper with loops := 0 }) (whole n do
      if ← Redirection.applyAll (substitute n) n redirects then lastSequence n body)
    Run.setStatus (← Run.joinForeground process)
    noteStatus
    checkStatus n
  | n + 1, .group body redirects =>
    Redirection.around (substitute n) n redirects (sequence n body)
  | n + 1, .conditional clauses otherwise redirects =>
    Redirection.around (substitute n) n redirects (branch n clauses otherwise)
  | n + 1, .loop untilSuccess condition body redirects =>
    Redirection.around (substitute n) n redirects
      (Run.looping (rounds n untilSuccess condition body 0))
  | n + 1, .each line name words body redirects =>
    Redirection.around (substitute n) n redirects do
      Run.modify fun m => { m with line }
      let values ← match words with
        | some ws => Expansion.allFields (substitute n) n ws
        | none => do pure (← Run.get).arguments
      if !Words.isName name.source.toList then
        Run.fail 1 (s!"\x60" ++ name.source ++ "': not a valid identifier")
      else do
        if values.isEmpty then Run.setStatus 0
        let head := (Listing.loopWords (({} : Page).write s!"for {name.source} in ") words).text
        Run.looping (eachValue n line head name.source values body)
  | n + 1, .select line name words body redirects =>
    Redirection.around (substitute n) n redirects do
      Run.modify fun m => { m with line }
      let values ← match words with
        | some ws => Expansion.allFields (substitute n) n ws
        | none => do pure (← Run.get).arguments
      if !Words.isName name.source.toList then
        Run.fail 1 (s!"\x60" ++ name.source ++ "': not a valid identifier")
      else do
        let head := (Listing.loopWords (({} : Page).write s!"select {name.source} in ") words).text
        noteCurrent line (.head head)
        runTrap n .command
        Tracing.line (substitute n) n head.toList
        Run.setStatus 0
        if !values.isEmpty then Run.looping (answers n name.source values body true)
  | n + 1, .counted line first condition step body redirects =>
    Redirection.around (substitute n) n redirects do
      Run.modify fun m => { m with line }
      if (← count n line first).isSome then Run.looping (counting n line condition step body 0)
  | n + 1, .choice line word branches redirects =>
    Redirection.around (substitute n) n redirects do
      let head := s!"case {word.source} in "
      noteCurrent line (.head head)
      runTrap n .command
      Tracing.line (substitute n) n (head.toList.take (head.length - 1))
      let text ← Expansion.text (substitute n) n word.parts
      if !(← choose n text.toList false branches) then Run.setStatus 0
  | n + 1, .define line name body => do
    let m ← Run.get
    let isReadonly := ((m.functions.lookup name).map (·.isReadonly)).getD false
    if !isFunctionName name then do
      Run.modify fun m => { m with line }
      Run.fail 1 s!"\x60{name}': not a valid identifier"
      checkStatus n
    else if isReadonly then do
      Run.modify fun m => { m with line }
      Run.fail 1 s!"{name}: readonly function"
      checkStatus n
    else define line name body
  | n + 1, .fresh c => execute n c
  | n + 1, .expression line text redirects => do
    Redirection.around (substitute n) n redirects do
      noteCurrent line (.command (.expression line text []))
      runTrap n .command
      let v ← calculateWord (substitute n) n text
      Run.setStatus (if v.getD 0 = 0 then 1 else 0)
    noteStatus
    checkStatus n
  | n + 1, .test line condition redirects => do
    Redirection.around (substitute n) n redirects do
      noteCurrent line (.command (.test line condition []))
      runTrap n .command
      Run.setStatus (← holds (substitute n) n false condition)
    noteStatus
    checkStatus n
  | n + 1, .partner line name body => do
    Run.modify fun m => { m with line }
    partner n name body

/-- Runs a command made of words. -/
def simple : Nat → (isLast : Bool) → Command → (line : Nat) → List Word → List Word →
    List Redirect → Run Unit
  | 0, _, _, _, _, _, _ => Run.hang
  | n + 1, isLast, c, line, assignments, words, redirects => do
    noteCurrent line (.command c)
    Run.modify fun m => { m with substituted := none }
    runTrap n .command
    match ← commandFields (substitute n) n words with
    | [] => do
      if ← assignAll (substitute n) n assignments then
        Redirection.around (substitute n) n redirects do
          Run.modify fun m => m.setStatus (m.substituted.getD 0)
        Run.modify fun m => { m with lastWord := "" }
      else do
        Run.setStatus 1
        Run.stop .abandon
    | first :: fields => do
      let name := first.name
      let arguments := fields.map Field.name
      let temporaries ← prepare (substitute n) n assignments
      Tracing.line (substitute n) n (Tracing.shown (name :: arguments))
      let m ← Run.get
      let isOwn := Builtins.isBuiltin m name
      match m.functions.lookup name with
      | some f =>
        Redirection.around (substitute n) n redirects
          (withTemporaries temporaries (callFunction n name f arguments))
      | none =>
        if isOwn && name = "exec" then replace n temporaries redirects arguments
        else if isOwn then
          Redirection.around (substitute n) n redirects
            (withTemporaries temporaries (callBuiltin n name fields))
        else external n isLast temporaries redirects name arguments
      Run.modify fun m => { m with lastWord := arguments.getLast?.getD name }
    noteStatus
    checkStatus n

/-- The output of commands, without the line feeds at its end, or the path of a pipe. -/
def substitute : Nat → Expansion.Substitution → Run (List Char)
  | 0, _ => Run.hang
  | n + 1, .output chars => do
    let m ← Run.get
    let text := ScriptText.ofSubstitution (m.origin ++ ": command substitution") m.line chars
    match shownFile? text m with
    | some redirect =>
      capture n (Redirection.around (substitute n) n [redirect] (Programs.run "cat" "cat" []))
    | none => capture n (lines n false text (text.start false))
  | n + 1, .pipe writes chars => do
    let id ← Run.connectingPipe
    let m ← Run.get
    let text := ScriptText.ofSubstitution (m.origin ++ ": process substitution") m.line chars
    let own : Channel := if writes then .source id else .sink id
    let other : Channel := if writes then .sink id else .source id
    let m ← Run.get
    let d := freeDescriptor m firstPassing
    Run.modify fun m => { m.connect d (some own) with passing := d :: m.passing }
    let process ← Run.keeping do
      Run.keepOnly (other :: m.kept)
      Run.spawnFrom (fun m =>
        (m.copied.deeper.connect d none).connect (if writes then 1 else 0) (some other))
        (whole n (lines n false text (text.start false)))
    Run.modify fun m => { m with lastJob := some process, former := process :: m.former }
    return s!"/dev/fd/{d}".toList

/-- The output of an action in a copy of the shell. -/
def capture : Nat → Run Unit → Run (List Char)
  | 0, _ => Run.hang
  | n + 1, r => do
    let id ← Run.connectingPipe
    let outer ← Run.get
    let make (m : Machine) : Machine :=
      let m := m.copied.deeper.connect 1 (some (.sink id))
      let m := { m with nesting := m.nesting + 1, jobs := outer.jobs }
      if m.hasShellOption "inherit_errexit" || m.hasOption "posix" then m
      else m.setOption false "errexit"
    let (chars, status) ← Run.keeping do
      Run.keepOnly (.source id :: .sink id :: outer.kept)
      let process ← Run.spawnFrom make (whole n r)
      Run.keepOnly (.source id :: outer.kept)
      let chars ← Run.drain id n []
      pure (chars, ← Run.join process)
    Run.modify fun m => { m with substituted := some status, status }
    if chars.contains '\x00' then
      Run.complain "warning: command substitution: ignored null byte in input"
    return dropLineFeeds (chars.filter (· != '\x00'))

/-- What a copy of the shell does from its beginning to its end. -/
def whole : Nat → Run Unit → Run Unit
  | 0, _ => Run.hang
  | n + 1, r => do
    let _ ← Run.attempt r
    bye n

/-- Runs what was kept for the end. -/
def bye : Nat → Run Unit
  | 0 => Run.hang
  | n + 1 => do
    let _ ← Run.attempt (signals n)
    let m ← Run.get
    match m.traps.lookup .ending with
    | none | some "" => return ()
    | some chars => do
      let text := ScriptText.ofChars (m.origin ++ ": exit trap") 1 chars.toList
      Run.modify fun m =>
        { m with
          traps := m.traps.filter (·.1 != .ending)
          calls := []
          trapped := (.ending, m.status) :: m.trapped }
      match ← Run.attempt (inner n text) with
      | .error .exit => return ()
      | _ => Run.setStatus m.status

/-- Starts commands, each reading what the one before writes; gives back their processes, and the pipe
that the last one writes to if it does. -/
def launch : Nat → (make : Machine → Machine) → (input : Option Nat) → (toPipe : Bool) →
    List Command → Run (List Nat × Option Nat)
  | 0, _, _, _, _ => Run.hang
  | _, _, input, _, [] => return ([], input)
  | n + 1, make, input, toPipe, c :: rest => do
    let before := (← Run.get).kept
    let reading (m : Machine) : Machine :=
      let jobs := m.jobs
      let m := make m
      let m := if isSimple c then { m with jobs } else m.deeper
      match input with
      | some id => m.connect 0 (some (.source id))
      | none => m
    if toPipe || !rest.isEmpty then do
      let id ← Run.connectingPipe
      Run.keepOnly (.source id :: .sink id :: before)
      let process ← Run.spawnFrom (fun m => (reading m).connect 1 (some (.sink id)))
        (whole n (last n c))
      let kept := match input with
        | some old => before.filter (· != .source old)
        | none => before
      Run.keepOnly (.source id :: kept)
      let (processes, output) ← launch n make (some id) toPipe rest
      return (process :: processes, output)
    else do
      let process ← Run.spawnFrom reading (whole n (last n c))
      return ([process], none)

/-- Waits for the end of processes; their statuses. -/
def joinAll : Nat → List Nat → Run (List Nat)
  | 0, _ => Run.hang
  | _, [] => return []
  | _, [process] => do return [← Run.joinForeground process]
  | n + 1, process :: rest => do
    let status ← Run.join process
    return status :: (← joinAll n rest)

/-- Runs the parts of a pipeline. -/
def pipe : Nat → List Command → Run Unit
  | 0, _ => Run.hang
  | n + 1, parts =>
    match parts with
    | [c] => execute n c
    | _ => do
      let m ← Run.get
      let statuses ← if m.hasShellOption "lastpipe" then
          match parts.reverse with
          | [] => pure []
          | final :: earlier => Run.keeping do
            let (processes, output) ← launch n Machine.copied none true earlier.reverse
            let result ← Run.attempt do
              match output with
              | some id => do
                Run.modify fun m => m.connect 0 (some (.source id))
                Run.keepOnly ((m.channel? 0).toList ++ m.kept)
                execute n final
              | none => execute n final
            Run.modify fun after => after.connect 0 (m.channel? 0)
            Run.keepOnly m.kept
            Run.resume result
            let status := (← Run.get).status
            pure ((← joinAll n processes) ++ [status])
        else do
          let (processes, _) ← Run.keeping (launch n Machine.copied none false parts)
          joinAll n processes
      noteStages statuses
      Run.modify fun m => m.setStatus (pipelineStatus m statuses)
      checkStatus n

/-- Runs commands beside the shell, connected to it by two pipes. -/
def partner : Nat → (name : String) → Command → Run Unit
  | 0, _, _ => Run.hang
  | n + 1, name, body => do
    let output ← Run.connectingPipe
    let input ← Run.connectingPipe
    let m ← Run.get
    let reading := freeDescriptor m firstPassing
    let writing := freeDescriptor m (firstPassing - 3)
    let process ← Run.keeping do
      Run.keepOnly (.source output :: .sink output :: .source input :: .sink input :: m.kept)
      Run.spawnFrom (fun m =>
        (m.copied.deeper.connect 0 (some (.source input))).connect 1 (some (.sink output)))
        (whole n (last n body))
    Run.modify fun m =>
      let m := (m.connect reading (some (.source output))).connect writing (some (.sink input))
      let m := m.setTexts name [toString reading, toString writing]
      m.setText (name ++ "_PID") (toString process)
    Run.hold
    Jobs.add [process] (Listing.line (.partner 0 name body))
    Run.setStatus 0

/-- Runs the commands of the first clause whose condition succeeds. -/
def branch : Nat → List Clause → List Command → Run Unit
  | 0, _, _ => Run.hang
  | n + 1, [], otherwise =>
    if otherwise.isEmpty then Run.setStatus 0 else sequence n otherwise
  | n + 1, .mk condition body :: rest, otherwise => do
    Run.guarding (sequence n condition)
    if (← Run.get).status = 0 then sequence n body else branch n rest otherwise

/-- Runs a loop with a condition; `last` is the status of the round before. -/
def rounds : Nat → Bool → List Command → List Command → (last : Nat) → Run Unit
  | 0, _, _, _, _ => Run.hang
  | n + 1, untilSuccess, condition, body, last => do
    let (goesOn, tests) ← Run.part (Run.guarding (sequence n condition))
    if goesOn then
      if !tests then rounds n untilSuccess condition body last
      else if ((← Run.get).status = 0) = untilSuccess then Run.setStatus last
      else do
        let (goesOn, _) ← Run.part (sequence n body)
        if goesOn then do
          let m ← Run.get
          rounds n untilSuccess condition body m.status

/-- Runs commands for each value of a variable. -/
def eachValue : Nat → (line : Nat) → (head name : String) → List String → List Command → Run Unit
  | 0, _, _, _, _, _ => Run.hang
  | _, _, _, _, [], _ => return ()
  | n + 1, line, head, name, value :: rest, body => do
    noteCurrent line (.head head)
    runTrap n .command
    Tracing.line (substitute n) n head.toList
    if ← setLoopVariable name value then do
      let (goesOn, _) ← Run.part (sequence n body)
      if goesOn then eachValue n line head name rest body
    else Run.setStatus 1

/-- Runs commands for each answer to a menu. -/
def answers : Nat → (name : String) → List String → List Command → (showsMenu : Bool) → Run Unit
  | 0, _, _, _, _ => Run.hang
  | n + 1, name, values, body, showsMenu => do
    if showsMenu then
      let _ ← Run.put 2 (Selection.menu values)
    let m ← Run.get
    let _ ← Run.put 2 ((m.get? "PS3").getD "#? ").toList
    Reading.read []
    let m ← Run.get
    if m.status != 0 then do
      let _ ← Run.put 1 ['\n']
      Run.setStatus 1
    else
      let answer := (m.get? "REPLY").getD ""
      if answer = "" then answers n name values body true
      else if ← setLoopVariable name (Selection.choice values answer) then do
        let (goesOn, _) ← Run.part (sequence n body)
        if goesOn then answers n name values body (((← Run.get).get? "REPLY").getD "" = "")
      else Run.setStatus 1

/-- The value of an expression of a counting loop. -/
def count : Nat → (line : Nat) → Word → Run (Option Int)
  | 0, _, _ => Run.hang
  | n + 1, line, w => do
    let w := loopExpression w
    noteCurrent line (.command (.expression line w []))
    runTrap n .command
    match ← calculateWord (substitute n) n w with
    | some v => return some v
    | none => do
      Run.setStatus 1
      return none

/-- Runs a loop with a counter; `last` is the status of the round before. -/
def counting : Nat → (line : Nat) → Word → Word → List Command → (last : Nat) → Run Unit
  | 0, _, _, _, _, _ => Run.hang
  | n + 1, line, condition, step, body, last => do
    match ← count n line condition with
    | none => return ()
    | some 0 => Run.setStatus last
    | some _ => do
      let (goesOn, _) ← Run.part (sequence n body)
      if goesOn then do
        let m ← Run.get
        if (← count n line step).isSome then counting n line condition step body m.status

/-- Runs the branches that a text selects; tells whether commands ran. -/
def choose : Nat → List Char → (selected : Bool) → List Branch → Run Bool
  | 0, _, _, _ => Run.hang
  | _, _, _, [] => return false
  | n + 1, text, selected, .mk patterns body fate :: rest => do
    if selected || (← matchesAny (substitute n) n text patterns) then do
      sequence n body
      let more ← match fate with
        | .stop => pure false
        | .fallThrough => choose n text true rest
        | .resume => choose n text false rest
      return more || !body.isEmpty
    else choose n text false rest

/-- Runs a function. -/
def callFunction : Nat → (name : String) → Function → List String → Run Unit
  | 0, _, _, _ => Run.hang
  | n + 1, name, f, arguments => do
    let m ← Run.get
    let limit := ((m.get? "FUNCNEST").bind Reading.natural?).getD 0
    if limit != 0 && limit ≤ (m.calls.filter (·.isFunction)).length then
      Run.giveUp s!"{name}: maximum function nesting level exceeded ({limit})"
    else do
      let (hidden, traps) := m.traps.partition fun t => isKeptFromFunctions m t.1
      let call : Call := ⟨name, f.origin, m.line, true, [], none⟩
      Run.modify fun m =>
        { m with calls := call :: m.calls, arguments, loops := 0, traps, origin := f.origin }
      let result ← Run.attempt do
        if !m.traps.isEmpty then
          Run.modify fun m => { m with line := f.line }
          runTrap n .command
        execute n f.body
        runTrap n .homecoming
      Run.modify fun after =>
        let own := after.calls.head?
        let after := after.reveal ((own.map (·.hidden)).getD [])
        { after with
          calls := after.calls.drop 1
          arguments := m.arguments
          loops := m.loops
          line := m.line
          origin := m.origin
          traps := hidden ++ after.traps.filter fun t => !hidden.any (·.1 == t.1)
          options := ((own.bind (·.options))).getD after.options }
      match result with
      | .error .leaveFunction => return ()
      | _ => Run.resume result

/-- Runs a built-in command. -/
def callBuiltin : Nat → (name : String) → List Field → Run Unit
  | 0, _, _ => Run.hang
  | n + 1, name, fields => do
    let fields ← places n name fields
    let arguments := fields.map Field.name
    let fillText (name : String) (append : Bool) (text : String) : Run Bool :=
      Filling.fill (substitute n) n true name append (Filling.itemsOf text)
    match name with
    | "export" | "readonly" | "declare" | "typeset" | "local" => do
      if name = "export" || name = "readonly" then
        traceAssigned n fields
      Declarations.declare name fillText (fields.map fun
        | .text s => .text s
        | .list name append entries => .list name (Filling.putEntries true name append entries))
    | "mapfile" | "readarray" =>
      Reading.mapFile name (fun command => evaluate n command) arguments
    | "eval" =>
      match Directories.letters [] arguments with
      | .error c => do
        Run.complain s!"eval: -{c}: invalid option"
        Builtins.misused "eval: usage: eval [arg ...]"
      | .ok words => evaluate n (" ".intercalate words)
    | "." | "source" => runFile n name arguments
    | "type" => Naming.type arguments
    | "builtin" =>
      match if arguments.head? = some "--" then arguments.tail else arguments with
      | [] => Run.setStatus 0
      | other :: rest => do
        if Builtins.isBuiltin (← Run.get) other then callBuiltin n other (rest.map .text)
        else Run.fail 1 s!"builtin: {other}: not a shell builtin"
    | "command" => callCommand n arguments
    | "exec" => replace n [] [] arguments
    | "return" => do
      let before := (← Run.get).status
      match ← Run.attempt (Builtins.leave arguments) with
      | .error .leaveFunction => do
        let status := (← Run.get).status
        Run.setStatus before
        runTrap n .homecoming
        Run.setStatus status
        Run.stop .leaveFunction
      | result => Run.resume result
    | _ => ((Builtins.find? name).getD fun _ => Run.setStatus 0) arguments

/-- Expands the places in arrays that the arguments of a built-in command name. -/
def places : Nat → (name : String) → List Field → Run (List Field)
  | 0, _, _ => Run.hang
  | n + 1, name, fields => do
    let expanded : Field → Run Field
      | .text s => do return .text (← Expansion.placed (substitute n) n s)
      | field => return field
    match name, fields with
    | "unset", _ | "read", _ | "declare", _ | "typeset", _ | "local", _ =>
      Run.collect (fun f => do return [← expanded f]) fields
    | "printf", .text "-v" :: target :: rest => return .text "-v" :: (← expanded target) :: rest
    | "test", .text "-v" :: target :: rest | "[", .text "-v" :: target :: rest =>
      return .text "-v" :: (← expanded target) :: rest
    | _, _ => return fields

/-- Shows the assignments among the arguments of a declaration. -/
def traceAssigned : Nat → List Field → Run Unit
  | 0, _ => Run.hang
  | _, [] => return ()
  | n + 1, .text s :: rest => do
    match Declarations.assigned? s with
    | some ⟨name, none, false, some value⟩ =>
      Tracing.line (substitute n) n
        ((name ++ "=").toList ++ Quoting.tracedValue value.toList)
    | _ => pure ()
    traceAssigned n rest
  | n + 1, _ :: rest => traceAssigned n rest

/-- Runs a text as commands of the shell. -/
def evaluate : Nat → String → Run Unit
  | 0, _ => Run.hang
  | n + 1, chars => do
    let m ← Run.get
    inner n (ScriptText.ofChars (m.origin ++ ": eval") m.line chars.toList)

/-- Runs a command that is no function, or tells what one is. -/
def callCommand : Nat → List String → Run Unit
  | 0, _ => Run.hang
  | n + 1, arguments =>
    match Directories.letters "pvV".toList arguments with
    | .error c => do
      Run.complain s!"command: -{c}: invalid option"
      Builtins.misused "command: usage: command [-pVv] command [arg ...]"
    | .ok words => do
      let options := Naming.optionsOf arguments words
      if options.contains 'v' || options.contains 'V' then
        Naming.describe (options.contains 'v') (options.contains 'p') words
      else
        match words with
        | [] => Run.setStatus 0
        | name :: rest => do
          if Builtins.isBuiltin (← Run.get) name then callBuiltin n name (rest.map .text)
          else external n false [] [] name rest

/-- Runs a program in a process of its own, or in the process of the shell if that has nothing else to
do. -/
def external : Nat → (isLast : Bool) → List Temporary → List Redirect → String → List String →
    Run Unit
  | 0, _, _, _, _, _ => Run.hang
  | n + 1, isLast, temporaries, redirects, name, arguments => do
    let m ← Run.get
    let apart (r : Run Unit) : Run Unit := do
      let work : Run Unit := do
        if ← Redirection.applyAll (substitute n) n redirects then do
          place (temporaries.map fun t => (t.name, t.value))
          r
      if isLast && m.traps.all (·.2 == "") then do
        work
        Run.stop .exit
      else do
        let process ← Run.spawnFrom Machine.copied do
          let _ ← Run.attempt work
          return ()
        Run.setStatus (← Run.joinForeground process)
    if name.toList.head? = some '%' then
      Redirection.around (substitute n) n redirects (Run.fail 1 "fg: no job control")
    else
      match program? m name with
      | some program => do
        Builtins.remember name 1
        apart (runProgram name program arguments)
      | none =>
        match m.functions.lookup "command_not_found_handle" with
        | some f =>
          if name.toList.contains '/' then
            Redirection.around (substitute n) n redirects (Programs.missing name)
          else apart (callFunction n "command_not_found_handle" f (name :: arguments))
        | none =>
          let path := ((m.found.lookup name).map (·.1)).getD name
          Redirection.around (substitute n) n redirects (Programs.missing path)

/-- Runs the text of a file in the shell itself. -/
def runFile : Nat → (name : String) → List String → Run Unit
  | 0, _, _ => Run.hang
  | n + 1, name, arguments =>
    match Directories.letters [] arguments with
    | .error c => do
      Run.complain s!"{name}: -{c}: invalid option"
      Builtins.misused s!"{name}: usage: {name} filename [arguments]"
    | .ok [] => do
      Run.complain s!"{name}: filename argument required"
      Builtins.misused s!"{name}: usage: {name} filename [arguments]"
    | .ok (path :: rest) => do
      match ← openText n path with
      | .error reason =>
        Run.fail 1 (if reason = "is a directory" then s!"{name}: {path}: {reason}"
          else s!"{path}: {reason}")
      | .ok text => do
        let outer ← Run.get
        let call : Call := ⟨"source", path, outer.line, false, [], none⟩
        Run.modify fun m =>
          { m with
            origin := path
            calls := call :: m.calls
            arguments := if rest.isEmpty then m.arguments else rest }
        let result ← Run.attempt do
          inner n text
          runTrap n .homecoming
        Run.modify fun m =>
          { m with
            origin := outer.origin
            calls := m.calls.drop 1
            line := outer.line
            arguments := if rest.isEmpty then m.arguments else outer.arguments }
        match result with
        | .error .leaveFunction => return ()
        | _ => Run.resume result

/-- Redirects the shell itself, and puts another program in its place if one is named. -/
def replace : Nat → List Temporary → List Redirect → List String → Run Unit
  | 0, _, _, _ => Run.hang
  | n + 1, temporaries, redirects, arguments => do
    if ← Redirection.applyAll (substitute n) n redirects then do
      Run.modify fun m => { m with passing := [] }
      Run.sweep
      match execOptions none (arguments.length + 16) arguments with
      | .error c => do
        let problem := if c = 'a' then "option requires an argument" else "invalid option"
        Run.complain s!"exec: -{c}: {problem}"
        Builtins.misused
          "exec: usage: exec [-cl] [-a name] [command [argument ...]] [redirection ...]"
      | .ok (called, words) =>
        match words with
        | [] => Run.setStatus 0
        | name :: rest => do
          let m ← Run.get
          match program? m name with
          | some program => do
            place (temporaries.map fun t => (t.name, t.value))
            Run.modify fun m => { m with traps := [] }
            Signals.announce
            runProgram (called.getD name) program rest
            Run.stop .exit
          | none => do
            if name.toList.contains '/' then missingFile name
            else if name = "." ∨ name = ".." then
              Run.fail 126 s!"exec: {name}: cannot execute: Is a directory"
            else Run.fail 127 s!"exec: {Quoting.shown name}: not found"
            if m.hasShellOption "execfail" && m.depth = 0 then return ()
            else Run.stop .exit

end

end ActionServer.Shell.Evaluation
