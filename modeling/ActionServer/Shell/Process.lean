import ActionServer.File.Tree
import ActionServer.Script.Child

/-!
# Processes

A script can have several processes at a time: commands in the background, the parts of a pipeline,
copies of the shell. What a process does next is written as a tree, whose steps look at the shared
state, change it, wait for something in it, or deal with the host. The shared state holds the files,
the pipes between processes, and how processes ended.

Texts are bytes, each kept as the character of its number.
-/

namespace ActionServer.Shell

/-- What a descriptor leads to. -/
inductive Channel where
  | input
  | output
  | errors
  /-- A device that holds nothing and keeps nothing. -/
  | nothing
  /-- The end of a pipe that is read. -/
  | source (pipe : Nat)
  /-- The end of a pipe that is written. -/
  | sink (pipe : Nat)
  /-- The end of a file, which is written. -/
  | file (names : List String)
  /-- A place in a file, which is read and written there. -/
  | spot (id : Nat)
  deriving DecidableEq, Repr

/-- A pipe: what is in it, the part that was written last in reverse. -/
structure Pipe where
  front : List Char
  back : List Char
  size : Nat
  /-- How much may be in it before a writer has to wait. -/
  capacity : Option Nat
  deriving Repr

namespace Pipe

def ofChars (cs : List Char) : Pipe := ⟨cs, [], cs.length, none⟩

def empty (capacity : Option Nat) : Pipe := ⟨[], [], 0, capacity⟩

def push (p : Pipe) (cs : List Char) : Pipe :=
  { p with back := cs.reverse ++ p.back, size := p.size + cs.length }

/-- The character that was written first, and the pipe without it. -/
def pop? (p : Pipe) : Option (Char × Pipe) :=
  match p.front with
  | c :: rest => some (c, { p with front := rest, size := p.size - 1 })
  | [] =>
    match p.back.reverse with
    | c :: rest => some (c, { p with front := rest, back := [], size := p.size - 1 })
    | [] => none

def contents (p : Pipe) : List Char := p.front ++ p.back.reverse

def isFull (p : Pipe) : Bool :=
  match p.capacity with
  | some n => n ≤ p.size
  | none => false

end Pipe

/-- What the processes of a script have in common. -/
structure Shared where
  tree : FileTree
  pipes : List (Nat × Pipe)
  nextPipe : Nat
  /-- Places in files: the file, and how many bytes are before the place. -/
  spots : List (Nat × (List String × Nat))
  nextProcess : Nat
  /-- The live processes, each with what its descriptors lead to. -/
  held : List (Nat × List Channel)
  /-- The status of each process that has ended. -/
  endings : List (Nat × Nat)
  /-- The processes that a signal has ended. -/
  kills : List (Nat × Nat)
  /-- Signals that have been sent to processes and not been taken. -/
  signals : List (Nat × Nat)
  /-- The signals that do not end a process. -/
  handled : List (Nat × List Nat)
  /-- How many milliseconds have passed. -/
  elapsed : Nat

namespace Shared

def isAlive (s : Shared) (process : Nat) : Bool := s.held.any (·.1 == process)

def ending? (s : Shared) (process : Nat) : Option Nat := s.endings.lookup process

/-- Whether a process other than one holds a channel. -/
def isHeldBesides (s : Shared) (process : Nat) (channel : Channel) : Bool :=
  s.held.any fun (p, channels) => p != process && channels.contains channel

def isHeld (s : Shared) (channel : Channel) : Bool :=
  s.held.any fun (_, channels) => channels.contains channel

/-- Notes what the descriptors of a process lead to. -/
def hold (s : Shared) (process : Nat) (channels : List Channel) : Shared :=
  { s with held := s.held.map fun e => if e.1 == process then (process, channels) else e }

def pipe (s : Shared) (id : Nat) : Pipe := (s.pipes.lookup id).getD (.empty none)

def setPipe (s : Shared) (id : Nat) (p : Pipe) : Shared :=
  { s with pipes := (id, p) :: s.pipes.filter (·.1 != id) }

/-- A new pipe. -/
def addPipe (s : Shared) (p : Pipe) : Nat × Shared :=
  (s.nextPipe, { s with pipes := (s.nextPipe, p) :: s.pipes, nextPipe := s.nextPipe + 1 })

/-- Puts a file in place. -/
def setFile (s : Shared) (names : List String) (bytes : List UInt8) : Shared :=
  { s with tree := s.tree.add names (.file bytes) }

/-- The bytes of a file; none if there is no file. -/
def fileBytes (s : Shared) (names : List String) : List UInt8 :=
  match s.tree.at? names with
  | some (.file bytes) => bytes
  | _ => []

/-- The beginning of a file, as a place in it. -/
def addSpot (s : Shared) (names : List String) : Nat × Shared :=
  (s.spots.length, { s with spots := (s.spots.length, (names, 0)) :: s.spots })

/-- Takes bytes from a place in a file on, so many at most. -/
def readSpot (s : Shared) (id most : Nat) : List UInt8 × Shared :=
  match s.spots.lookup id with
  | some (names, place) =>
    let bytes := ((s.fileBytes names).drop place).take most
    (bytes, { s with spots := (id, (names, place + bytes.length)) :: s.spots.filter (·.1 != id) })
  | none => ([], s)

/-- Puts bytes at a place in a file, over those that are there. -/
def writeSpot (s : Shared) (id : Nat) (bytes : List UInt8) : Shared :=
  match s.spots.lookup id with
  | some (names, place) =>
    let old := s.fileBytes names
    let front := old.take place ++ List.replicate (place - old.length) 0
    let s := s.setFile names (front ++ bytes ++ old.drop (place + bytes.length))
    { s with spots := (id, (names, place + bytes.length)) :: s.spots.filter (·.1 != id) }
  | none => s

/-- The signals that have been sent to a process. -/
def pending (s : Shared) (process : Nat) : List Nat :=
  (s.signals.filter (·.1 == process)).map (·.2)

def handles (s : Shared) (process signal : Nat) : Bool :=
  ((s.handled.lookup process).getD []).contains signal

def setHandled (s : Shared) (process : Nat) (signals : List Nat) : Shared :=
  { s with handled := (process, signals) :: s.handled.filter (·.1 != process) }

/-- Sends a signal. -/
def send (s : Shared) (process signal : Nat) : Shared :=
  { s with signals := s.signals ++ [(process, signal)] }

/-- The shared state without a process, which ended with a status, perhaps by a signal. -/
def remove (s : Shared) (process status : Nat) (signal : Option Nat) : Shared :=
  { s with
    held := s.held.filter (·.1 != process)
    endings := (process, status) :: s.endings
    kills := match signal with
      | some n => (process, n) :: s.kills
      | none => s.kills
    signals := s.signals.filter (·.1 != process)
    handled := s.handled.filter (·.1 != process) }

end Shared

inductive Process where
  /-- Goes on without doing anything that can be seen. -/
  | tick (next : Unit → Process)
  | access (next : Shared → Process)
  | update (s : Shared) (next : Unit → Process)
  /-- Starts another process, whose descriptors lead to some channels, and learns its number. -/
  | spawn (channels : List Channel) (child : Nat → Process) (next : Nat → Process)
  /-- Waits until something holds of the shared state, or until some time has passed; learns whether
  it holds. -/
  | await (isReady : Shared → Bool) (limit : Option Nat) (next : Bool → Process)
  /-- Writes to the standard output of the script, or to its standard error. -/
  | write (toErrors : Bool) (bytes : List UInt8) (next : Bool → Process)
  | read (limit : Option Nat) (next : Input → Process)
  | exit (status : Nat)
  /-- Is ended by a signal. -/
  | die (signal : Nat)
  | hang

instance : Inhabited Process := ⟨.hang⟩

end ActionServer.Shell
