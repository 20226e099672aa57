import ActionServer.Shell.Process
import ActionServer.Shell.Variable
import ActionServer.Shell.Words
import ActionServer.Text.Octets

/-!
# The state of a running shell

A shell has variables, functions, options and descriptors, and remembers the status of its last
command. Its actions are written with what comes after them as an argument, so that a whole script
becomes a `Process`, which can wait for other ones at any place.

Texts are bytes, each kept as the character of its number.
-/

namespace ActionServer.Shell

/-- Why a command does not go on to the next one. -/
inductive Flow where
  | leaveLoop (levels : Nat)
  | nextRound (levels : Nat)
  | leaveFunction
  /-- Gives up the line. -/
  | abandon
  | exit
  deriving DecidableEq, Repr

/-- What a trap waits for. -/
inductive Event where
  | ending
  | signal (n : Nat)
  /-- A command is about to run. -/
  | command
  /-- A command has failed. -/
  | failure
  /-- A function, or a text read from a file, has come to its end. -/
  | homecoming
  deriving DecidableEq, Repr

structure Function where
  body : Command
  line : Nat
  /-- The name of the text that defines it. -/
  origin : String
  isReadonly : Bool
  isExported : Bool

/-- A function that runs, or a text read from a file. -/
structure Call where
  name : String
  origin : String
  /-- Where it was called. -/
  line : Nat
  isFunction : Bool
  /-- The variables that its local variables hid. -/
  hidden : List (String × Option Variable)
  /-- The options at its beginning, where they are to be the same at its end. -/
  options : Option (List String)

/-- Commands in the background. -/
structure Job where
  number : Nat
  /-- The process of the shell that started it. -/
  owner : Nat
  processes : List Nat
  text : String

/-- What runs, as it can be shown: a command, or the words at its beginning. -/
inductive Current where
  | command (c : Command)
  | head (text : String)

/-- How far options have been taken out of arguments. -/
structure OptionPlace where
  /-- The argument as its number, and the letter in it. -/
  argument : Nat
  letter : Nat
  deriving DecidableEq, Repr

structure Machine where
  bindings : List (String × Variable)
  calls : List Call
  arguments : List String
  zero : String
  /-- The name of the text that is run, for diagnostics. -/
  origin : String
  functions : List (String × Function)
  status : Nat
  /-- The status of the last command substitution in the command that is being made. -/
  substituted : Option Nat
  line : Nat
  /-- How many loops are around the command. -/
  loops : Nat
  /-- The names of the options that are on, those of `set` and those of `shopt`. -/
  options : List String
  shellOptions : List String
  /-- A failing command does not end the script here. -/
  guarded : Bool
  /-- The traps that run, the innermost one first, each with the status before it. -/
  trapped : List (Event × Nat)
  /-- How many copies of the shell are around this one. -/
  depth : Nat
  /-- How many texts that are run are around the command. -/
  nesting : Nat
  /-- The number of the process that runs this shell, and of the one that `$$` shows. -/
  process : Nat
  shellProcess : Nat
  workDir : String
  descriptors : List (Nat × Channel)
  /-- What descriptors led to that lead somewhere else for as long as a command runs. -/
  kept : List Channel
  /-- Descriptors that last as long as the command. -/
  passing : List Nat
  traps : List (Event × String)
  /-- The traps of the shell that this one is a copy of, as long as it has set none itself. -/
  formerTraps : List (Event × String)
  jobs : List Job
  /-- The numbers of the current job and of the one before it. -/
  currentJob : Option Nat
  previousJob : Option Nat
  /-- The processes of jobs that are no longer listed. -/
  former : List Nat
  /-- What `$!` shows. -/
  lastJob : Option Nat
  seed : Nat
  lastRandom : Nat
  optionPlace : OptionPlace
  /-- Milliseconds since the beginning, and what is added to the seconds that are shown. -/
  now : Nat
  secondsShift : Int
  directories : List String
  aliases : List (String × String)
  mask : Nat
  /-- Programs that have been found, with their paths, and how often they were run from there. -/
  found : List (String × String × Nat)
  /-- Built-in commands that are switched off. -/
  disabled : List String
  /-- What runs. -/
  current : Current
  /-- The statuses of the parts of the last pipeline. -/
  stages : List Nat
  /-- The last word of the last command. -/
  lastWord : String

/-- An action of a shell, given what comes after it. -/
def Run (α : Type) : Type := Machine → (Except Flow α → Machine → Process) → Process

namespace Run

def pure {α : Type} (a : α) : Run α := fun m k => k (.ok a) m

def bind {α β : Type} (r : Run α) (f : α → Run β) : Run β := fun m k =>
  r m fun result m =>
    match result with
    | .ok a => f a m k
    | .error flow => k (.error flow) m

instance : Monad Run where
  pure := pure
  bind := bind

instance {α : Type} : Inhabited (Run α) := ⟨fun _ _ => .hang⟩

/-- Does not go on to what comes next. -/
def stop {α : Type} (flow : Flow) : Run α := fun m k => k (.error flow) m

/-- Goes on even where the action does not, with the reason. -/
def attempt {α : Type} (r : Run α) : Run (Except Flow α) := fun m k =>
  r m fun result m => k (.ok result) m

/-- Goes on as an attempt ended. -/
def resume {α : Type} : Except Flow α → Run α
  | .ok a => pure a
  | .error flow => stop flow

def get : Run Machine := fun m k => k (.ok m) m

def modify (f : Machine → Machine) : Run Unit := fun m k => k (.ok ()) (f m)

/-- Gives others a turn. -/
def tick : Run Unit := fun m k =>
  .tick fun _ => .access fun s => k (.ok ()) { m with now := s.elapsed }

/-- Never goes on. -/
def hang {α : Type} : Run α := fun _ _ => .hang

/-- Looks at the shared state. -/
def shared : Run Shared := fun m k => .access fun s => k (.ok s) m

/-- Changes the shared state. -/
def update {α : Type} (f : Shared → α × Shared) : Run α := fun m k =>
  .access fun s =>
    let (a, after) := f s
    .update after fun _ => k (.ok a) m

/-- Waits until something holds of the shared state; tells whether it does, since that can be cut
short. -/
def await (isReady : Shared → Bool) (limit : Option Nat) : Run Bool := fun m k =>
  .await isReady limit fun holds => k (.ok holds) m

def sleep (ms : Nat) : Run Unit := do
  let _ ← await (fun _ => false) (some ms)
  return ()

end Run

namespace Machine

/-- The path whose bytes a text holds. -/
def pathOf (text : String) : String := Utf8.lossy (Octets.ofText text)

def setStatus (m : Machine) (n : Nat) : Machine := { m with status := n % 256 }

/-- Whether an option of `set` is on. -/
def hasOption (m : Machine) (name : String) : Bool := m.options.contains name

/-- Whether an option of `shopt` is on. -/
def hasShellOption (m : Machine) (name : String) : Bool := m.shellOptions.contains name

def exitOnError (m : Machine) : Bool := m.hasOption "errexit"

def unsetIsError (m : Machine) : Bool := m.hasOption "nounset"

/-- Puts a variable in place of the one of that name. -/
def bind (m : Machine) (name : String) (v : Variable) : Machine :=
  { m with bindings := (name, v) :: m.bindings.filter (·.1 != name) }

/-- The variable of a name, as it was put there. -/
def bound? (m : Machine) (name : String) : Option Variable := m.bindings.lookup name

def unbind (m : Machine) (name : String) : Machine :=
  { m with bindings := m.bindings.filter (·.1 != name) }

/-- Gives a variable a text, whatever its attributes. -/
def setText (m : Machine) (name text : String) : Machine :=
  match m.bound? name with
  | none => m.bind name (.ofText text)
  | some v =>
    let value := match v.value with
      | .text _ => .text text
      | .indexed items => .indexed (Indexed.put items 0 text)
      | .keyed items => .keyed (Keyed.put items "0" text)
    m.bind name { v with value, isSet := true }

/-- Makes a variable a list of texts. -/
def setTexts (m : Machine) (name : String) (texts : List String) : Machine :=
  let attributes := ((m.bound? name).map (·.attributes)).getD {}
  m.bind name ⟨.indexed (Indexed.ofTexts texts), true, attributes⟩

/-- Gives a descriptor something to lead to, or nothing. -/
def connect (m : Machine) (descriptor : Nat) (channel : Option Channel) : Machine :=
  let others := m.descriptors.filter (·.1 != descriptor)
  { m with descriptors := match channel with
      | some c => (descriptor, c) :: others
      | none => others }

def channel? (m : Machine) (descriptor : Nat) : Option Channel := m.descriptors.lookup descriptor

/-- What the descriptors lead to, or will lead to again. -/
def channels (m : Machine) : List Channel := m.descriptors.map (·.2) ++ m.kept

/-- Whether a function runs. -/
def inFunction (m : Machine) : Bool := m.calls.any (·.isFunction)

/-- Makes a variable local to the running function. -/
def hide (m : Machine) (name : String) : Machine :=
  let rec go : List Call → List Call
    | [] => []
    | c :: rest =>
      if c.isFunction then
        if c.hidden.any (·.1 == name) then c :: rest
        else { c with hidden := (name, m.bound? name) :: c.hidden } :: rest
      else c :: go rest
  { m with calls := go m.calls }

/-- Whether a variable is local to the running function. -/
def isLocal (m : Machine) (name : String) : Bool :=
  match m.calls.find? (·.isFunction) with
  | some c => c.hidden.any (·.1 == name)
  | none => false

/-- Gives back what local variables hid. -/
def reveal (m : Machine) (hidden : List (String × Option Variable)) : Machine :=
  hidden.foldl (fun m (name, old) =>
    match old with
    | some v => m.bind name v
    | none => m.unbind name) m

/-- The next number of a sequence without pattern, and what it is made of. -/
def draw (m : Machine) : Nat × Machine :=
  let seed := if m.seed = 0 then 123459876 else m.seed
  let high : Int := seed / 127773
  let low : Int := seed % 127773
  let t := 16807 * low - 2836 * high
  let seed := (if t < 0 then t + 0x7fffffff else t).toNat
  let value := ((seed >>> 16) ^^^ (seed % 65536)) % 32768
  (value, { m with seed, lastRandom := value })

end Machine

namespace Run

/-- The files as the shell sees them. -/
def files : Run FileSystem := do
  let m ← get
  let s ← shared
  return ⟨s.tree, m.workDir⟩

/-- What a path leads to. -/
def stat (path : String) : Run (Except FileFault FileEntry) := do
  return (← files).stat (Machine.pathOf path)

/-- A new pipe. -/
def addPipe (p : Pipe) : Run Nat := update fun s => s.addPipe p

/-- A pipe from which a text can be read. -/
def addText (cs : List Char) : Run Channel := do
  return .source (← addPipe (.ofChars cs))

/-- Notes for the others what the descriptors lead to. -/
def hold : Run Unit := do
  let m ← get
  update fun s => ((), s.hold m.process m.channels)

/-- Forgets the pipes that nobody holds. -/
def sweep : Run Unit :=
  update fun s =>
    let isHeld (id : Nat) : Bool := s.isHeld (.source id) || s.isHeld (.sink id)
    ((), { s with pipes := s.pipes.filter fun (id, _) => isHeld id })

/-- Lets another process do something; the number of that process. -/
def spawn (r : Run Unit) : Run Nat := fun m k =>
  let copy := { m with kept := [] }
  .spawn copy.channels
    (fun number => r { copy with process := number } fun _ after => .exit after.status)
    fun number => k (.ok number) m

/-- Waits for the end of a process, and gives back its status. -/
def join (process : Nat) : Run Nat := do
  let _ ← await (fun s => (s.ending? process).isSome) none
  return ((← shared).ending? process).getD 0

/-- Ends the process as a signal does. -/
def die {α : Type} (signal : Nat) : Run α := fun _ _ => .die signal

/-- The signal for writing where nobody reads. -/
def brokenPipe : Nat := 13

/-- Writing where nobody reads ends the process, unless the signal for that is expected. -/
def breakPipe : Run (Option String) := do
  let m ← get
  if (← shared).handles m.process brokenPipe then do
    update fun s => ((), s.send m.process brokenPipe)
    return some "Broken pipe"
  else die brokenPipe

/-- Writes to a channel; the result is the reason if that was not possible. -/
def write (channel : Channel) (cs : List Char) : Run (Option String) := do
  let outside (toErrors : Bool) : Run Bool := fun m k =>
    .write toErrors (Octets.bytes cs) fun heard => k (.ok heard) m
  match channel with
  | .output => if ← outside false then return none else breakPipe
  | .errors => if ← outside true then return none else breakPipe
  | .nothing => return none
  | .sink id => do
    let m ← get
    let hasReader (s : Shared) : Bool := s.isHeldBesides m.process (.source id)
    let _ ← await (fun s => !(s.pipe id).isFull || !hasReader s) none
    if hasReader (← shared) then do
      update fun s => ((), s.setPipe id ((s.pipe id).push cs))
      return none
    else breakPipe
  | .file names => do
    update fun s => ((), s.setFile names (s.fileBytes names ++ Octets.bytes cs))
    return none
  | .spot id => do
    update fun s => ((), s.writeSpot id (Octets.bytes cs))
    return none
  | .input | .source _ => return some "Bad file descriptor"

/-- Writes to a descriptor; the result is the reason if that was not possible. -/
def put (descriptor : Nat) (cs : List Char) : Run (Option String) := do
  if cs.isEmpty then return none
  match (← get).channel? descriptor with
  | some channel => write channel cs
  | none => return some "Bad file descriptor"

/-- A diagnostic. -/
def tell (message : String) : Run Unit := do
  let _ ← put 2 (message ++ "\n").toList
  return ()

/-- Diagnostics one by one. -/
def tellAll : List String → Run Unit
  | [] => return ()
  | message :: rest => do
    tell message
    tellAll rest

/-- A diagnostic with the place in the script. -/
def complain (message : String) : Run Unit := do
  let m ← get
  tell s!"{m.origin}: line {m.line}: {message}"

/-- Diagnostics with the place in the script, one by one. -/
def complainAll : List String → Run Unit
  | [] => return ()
  | message :: rest => do
    complain message
    complainAll rest

/-- Reads a byte from a descriptor; nothing if the descriptor leads nowhere. -/
def readByte (descriptor : Nat) (limit : Option Nat) : Run (Option Input) := do
  let m ← get
  match m.channel? descriptor with
  | some .input => fun m k => .read limit fun i => k (.ok (some i)) m
  | some (.source id) => do
    let isOver (s : Shared) : Bool := !s.isHeldBesides m.process (.sink id)
    if ← await (fun s => (s.pipe id).size != 0 || isOver s) limit then
      let taken ← update fun s =>
        match (s.pipe id).pop? with
        | some (c, p) => (some c, s.setPipe id p)
        | none => (none, s)
      return some (match taken with
        | some c => .byte (UInt8.ofNat c.toNat)
        | none => .ended)
    else return some .timedOut
  | some (.spot id) => do
    return some (match ← update fun s => s.readSpot id 1 with
      | b :: _ => .byte b
      | [] => .ended)
  | some .nothing => return some .ended
  | _ => return none

/-- Reads what is there to be read from a descriptor, up to a line feed where it comes from the host;
nothing if the descriptor leads nowhere, and no characters at the end. -/
def readChunk (descriptor : Nat) : Run (Option (List Char)) := do
  let m ← get
  match m.channel? descriptor with
  | some (.source id) => do
    let isOver (s : Shared) : Bool := !s.isHeldBesides m.process (.sink id)
    let _ ← await (fun s => (s.pipe id).size != 0 || isOver s) none
    let taken ← update fun s =>
      let p := s.pipe id
      (p.contents, s.setPipe id { p with front := [], back := [], size := 0 })
    return some taken
  | some (.spot id) => do
    return some (Octets.chars (← update fun s => s.readSpot id chunkLimit))
  | some .input => do return some (← line chunkLimit [])
  | some .nothing => return some []
  | _ => return none
where
  /-- Bytes that are read at a time. -/
  chunkLimit : Nat := 65536
  /-- The bytes up to a line feed; those so far come last first. -/
  line : Nat → List Char → Run (List Char)
    | 0, sofar => return sofar.reverse
    | n + 1, sofar => do
      match ← (fun m k => .read none fun i => k (.ok i) m : Run Input) with
      | .byte b =>
        let c := Char.ofNat b.toNat
        if c = '\n' then return (c :: sofar).reverse else line n (c :: sofar)
      | _ => return sofar.reverse

def setStatus (n : Nat) : Run Unit := modify fun m => m.setStatus n

/-- Ends the command with a diagnostic and a status. -/
def fail (status : Nat) (message : String) : Run Unit := do
  complain message
  setStatus status

/-- Tells of a failure and gives up the line. -/
def giveUp {α : Type} (message : String) : Run α := do
  fail 1 message
  stop .abandon

end Run

end ActionServer.Shell
