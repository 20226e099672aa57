import ActionServer.Shell.Jobs

/-!
# Copies of the shell

Commands in parentheses, substitutions and the parts of a pipeline run in copies of the shell, which
are processes of their own: what they change in the shell is lost with them. They are connected by
pipes. A shell holds both ends of a pipe until the processes that use it have been started; whoever
reads from a pipe comes to its end when nobody holds the end that is written.
-/

namespace ActionServer.Shell

namespace Machine

/-- Traps of a copy: signals that pass still do, and the traps of commands are kept where an option
asks for that. -/
def copiedTraps (m : Machine) : List (Event × String) :=
  m.traps.filter fun (e, text) =>
    match e with
    | .ending => false
    | .signal _ => text == ""
    | .failure => m.hasOption "errtrace"
    | .command | .homecoming => m.hasOption "functrace"

/-- A copy of a shell as it begins. -/
def copied (m : Machine) : Machine :=
  { m with
    traps := m.copiedTraps
    formerTraps := m.traps
    trapped := []
    jobs := []
    former := []
    kept := []
    passing := [] }

/-- A copy that counts as one. -/
def deeper (m : Machine) : Machine := { m with depth := m.depth + 1 }

/-- Signals that commands in the background let pass. -/
def keyboardSignals : List Nat := [2, 3]

/-- A copy in the background, which reads nothing. -/
def inBackground (m : Machine) : Machine :=
  let m := m.copied.connect 0 (some .nothing)
  let ignored := keyboardSignals.map fun n => (Event.signal n, "")
  { m with traps := ignored ++ m.traps.filter fun t => !ignored.any (·.1 == t.1) }

end Machine

namespace Run

/-- Does something where a failing command does not end the script. -/
def guarding (r : Run Unit) : Run Unit := do
  let before := (← get).guarded
  modify fun m => { m with guarded := true }
  let result ← attempt r
  modify fun m => { m with guarded := before }
  resume result

/-- Does something in a loop. -/
def looping (r : Run Unit) : Run Unit := do
  modify fun m => { m with loops := m.loops + 1 }
  let result ← attempt r
  modify fun m => { m with loops := m.loops - 1 }
  resume result

/-- Does a part of a round; tells whether the loop goes on, and whether the round does. -/
def part (r : Run Unit) : Run (Bool × Bool) := do
  match ← attempt r with
  | .ok () => return (true, true)
  | .error (.leaveLoop levels) => if levels ≤ 1 then return (false, false) else stop (.leaveLoop (levels - 1))
  | .error (.nextRound levels) => if levels ≤ 1 then return (true, false) else stop (.nextRound (levels - 1))
  | .error flow => stop flow

/-- Lets another process do something, in a shell that is made from this one. -/
def spawnFrom (make : Machine → Machine) (r : Run Unit) : Run Nat := do
  let before ← get
  modify make
  let process ← spawn do
    Signals.announce
    r
  modify fun _ => before
  return process

/-- Holds channels, and no other ones besides those that descriptors lead to. -/
def keepOnly (channels : List Channel) : Run Unit := do
  modify fun m => { m with kept := channels }
  hold

/-- Does something and gives back what was held before. -/
def keeping {α : Type} (r : Run α) : Run α := do
  let before := (← get).kept
  let result ← attempt r
  keepOnly before
  sweep
  resume result

/-- How many bytes a pipe takes before its writer has to wait. -/
def pipeCapacity : Nat := 65536

/-- A pipe between processes. -/
def connectingPipe : Run Nat := addPipe (.empty (some pipeCapacity))

/-- What is written to a pipe until nobody holds its end; the parts so far come last first. -/
def drain (pipe : Nat) : Nat → List (List Char) → Run (List Char)
  | 0, _ => hang
  | n + 1, parts => do
    let m ← get
    let isOver (s : Shared) : Bool := !s.isHeldBesides m.process (.sink pipe)
    let _ ← await (fun s => (s.pipe pipe).size != 0 || isOver s) none
    let taken ← update fun s =>
      let p := s.pipe pipe
      (p.contents, s.setPipe pipe { p with front := [], back := [], size := 0 })
    if taken.isEmpty then return parts.reverse.flatten else drain pipe n (taken :: parts)

/-- The signal that is told of in a word. -/
def endingSignal : Nat := 15

/-- Waits for the end of a process in the foreground, and tells of a signal that ended it. -/
def joinForeground (process : Nat) : Run Nat := do
  let status ← join process
  if (← shared).kills.lookup process = some endingSignal then tell "Terminated"
  return status

/-- Does something with descriptors that are given back at its end if it opened them for itself. -/
def withPassing {α : Type} (r : Run α) : Run α := do
  let before := (← get).passing
  let result ← attempt r
  let m ← get
  if m.passing.length != before.length then do
    let opened := m.passing.filter fun d => !before.contains d
    modify fun m => { opened.foldl (fun m d => m.connect d none) m with passing := before }
    hold
    sweep
  resume result

end Run

/-- The characters without the line feeds at their end. -/
def dropLineFeeds (cs : List Char) : List Char :=
  (cs.reverse.dropWhile (· == '\n')).reverse

end ActionServer.Shell
