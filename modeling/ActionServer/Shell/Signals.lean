import ActionServer.Shell.Parameters

/-!
# Signals and traps

Processes send each other signals, by name or number. A trap keeps a text of commands for a signal,
or for another event: the end of the shell, a command that is about to run, a command that failed, the
return of a function. A trap without text lets a signal pass.
-/

namespace ActionServer.Shell.Signals

/-- The signals without a number in their name. -/
def named : List (String × Nat) :=
  [("HUP", 1), ("INT", 2), ("QUIT", 3), ("ILL", 4), ("TRAP", 5), ("ABRT", 6), ("BUS", 7), ("FPE", 8),
    ("KILL", 9), ("USR1", 10), ("SEGV", 11), ("USR2", 12), ("PIPE", 13), ("ALRM", 14), ("TERM", 15),
    ("STKFLT", 16), ("CHLD", 17), ("CONT", 18), ("STOP", 19), ("TSTP", 20), ("TTIN", 21),
    ("TTOU", 22), ("URG", 23), ("XCPU", 24), ("XFSZ", 25), ("VTALRM", 26), ("PROF", 27),
    ("WINCH", 28), ("IO", 29), ("PWR", 30), ("SYS", 31)]

/-- The first and the last of the signals that are numbered. -/
def firstNumbered : Nat := 34

def lastNumbered : Nat := 64

/-- The signals that are named by their distance from the first one; the others are named by that from
the last one. -/
def nearFirst : Nat := 15

/-- All signals with their names. -/
def all : List (String × Nat) :=
  named ++ (List.range (lastNumbered - firstNumbered + 1)).map fun i =>
    let n := firstNumbered + i
    let name :=
      if i = 0 then "RTMIN"
      else if i ≤ nearFirst then s!"RTMIN+{i}"
      else if n = lastNumbered then "RTMAX"
      else s!"RTMAX-{lastNumbered - n}"
    (name, n)

/-- The name of a signal. -/
def name? (n : Nat) : Option String := (all.find? fun e => e.2 == n).map (·.1)

/-- The number of a signal, from its number or its name. -/
def signal? (s : String) : Option Nat :=
  let cs := s.toList
  if !cs.isEmpty && cs.all Char.isDigit then
    let n := Words.number 10 cs
    if n = 0 || (name? n).isSome then some n else none
  else
    let name := String.ofList (cs.map Char.toUpper)
    let short := if name.startsWith "SIG" then String.ofList (name.toList.drop 3) else name
    if short = "EXIT" then some 0 else all.lookup short

/-- The signals that stop a process for as long as nobody lets it go on. -/
def stopping : List Nat := [19, 20, 21, 22]

/-- The place of an event among all. -/
def order : Event → Nat
  | .ending => 0
  | .signal n => n
  | .command => 65
  | .failure => 66
  | .homecoming => 67

/-- The name of an event in a listing. -/
def eventName : Event → String
  | .ending => "EXIT"
  | .signal n => "SIG" ++ (name? n).getD ""
  | .command => "DEBUG"
  | .failure => "ERR"
  | .homecoming => "RETURN"

/-- The event of a name or number. -/
def event? (s : String) : Option Event :=
  match String.ofList (s.toList.map Char.toUpper) with
  | "DEBUG" => some .command
  | "ERR" => some .failure
  | "RETURN" => some .homecoming
  | _ => (signal? s).map fun n => if n = 0 then .ending else .signal n

/-- The signals that have traps. -/
def expected (m : Machine) : List Nat :=
  m.traps.filterMap fun (e, _) =>
    match e with
    | .signal n => some n
    | _ => none

/-- Lets the others know which signals are expected. -/
def announce : Run Unit := do
  let m ← Run.get
  Run.update fun s => ((), s.setHandled m.process (expected m))

/-- Sets what is done for an event, or that nothing special is. -/
def setTrap (e : Event) (action : Option String) : Run Unit := do
  Run.modify fun m =>
    let others := m.traps.filter (·.1 != e)
    { m with
      formerTraps := []
      traps := match action with
        | some text => (e, text) :: others
        | none => others }
  match e with
  | .signal _ => announce
  | _ => return ()

def setTraps (action : Option String) : List String → Run Unit
  | [] => return ()
  | s :: rest => do
    match event? s with
    | some e => setTrap e action
    | none => Run.fail 1 s!"trap: {s}: invalid signal specification"
    setTraps action rest

/-- A trap in a listing. -/
def shown (e : Event) (text : String) : String :=
  s!"trap -- " ++ String.ofList (Quoting.single text.toList) ++ s!" {eventName e}\n"

/-- The traps as they are told of: a copy of a shell tells of those of the shell. -/
def told (m : Machine) : List (Event × String) :=
  if m.formerTraps.isEmpty then m.traps else m.formerTraps

/-- Lists the traps of some events. -/
def list : List String → Run Unit
  | [] => return ()
  | s :: rest => do
    match event? s with
    | some e =>
      match (told (← Run.get)).lookup e with
      | some text => let _ ← Run.put 1 (shown e text).toList
      | none => pure ()
    | none => Run.fail 1 s!"trap: {s}: invalid signal specification"
    list rest

/-- Lists all traps. -/
def listAll : Run Unit := do
  let m ← Run.get
  let sorted := (told m).mergeSort fun a b => order a.1 ≤ order b.1
  let _ ← Run.put 1 (String.join (sorted.map fun (e, text) => shown e text)).toList
  return ()

/-- The rows of a table of all signals. -/
def table : List (String × Nat) → List String
  | [] => []
  | signals =>
    let cell (e : String × Nat) : String :=
      let number := toString e.2
      (if number.length < 2 then " " else "") ++ s!"{number}) SIG{e.1}"
    rows signals.length (signals.map cell)
where
  rows : Nat → List String → List String
    | 0, _ => []
    | _, [] => []
    | n + 1, cells => "\t".intercalate (cells.take 5) :: rows n (cells.drop 5)

def listSignals : Run Unit := do
  let rows := table all
  let ends := rows.map fun row =>
    row ++ (if (row.splitOn "\t").length = 5 then "\n" else "\t\n")
  let _ ← Run.put 1 (String.join ends).toList
  Run.setStatus 0

def trapUsage : String := "trap: usage: trap [-lp] [[arg] signal_spec ...]"

/-- Keeps commands for events, or lists what is kept. -/
def trap (arguments : List String) : Run Unit := do
  Run.setStatus 0
  let misused : Run Unit := do
    Run.tell trapUsage
    Run.setStatus 2
  let isOption (a : String) : Bool := a.toList.head? == some '-' && 1 < a.length && a != "--"
  match arguments with
  | "-l" :: _ => listSignals
  | "-p" :: rest =>
    match if rest.head? = some "--" then rest.tail else rest with
    | [] => listAll
    | events => list events
  | _ =>
    match arguments.head?.filter isOption with
    | some a => do
      let letter := String.ofList ((a.toList.drop 1).take 1)
      Run.complain s!"trap: -{letter}: invalid option"
      misused
    | none =>
      match if arguments.head? = some "--" then arguments.tail else arguments with
      | [] => listAll
      | [e] => if (event? e).isSome then setTraps none [e] else misused
      | action :: events =>
        let isNumber := action != "" && action.toList.all Char.isDigit && (signal? action).isSome
        if isNumber then setTraps none (action :: events)
        else setTraps (if action = "-" then none else some action) events

def killUsage : String :=
  "kill: usage: kill [-s sigspec | -n signum | -sigspec] pid | jobspec ... or kill -l [sigspec]"

/-- Tells the names of numbers, and the numbers of names. -/
def translate : List String → Run Unit
  | [] => return ()
  | s :: rest => do
    let isNumber := s != "" && s.toList.all Char.isDigit
    let n := Words.number 10 s.toList
    let n := if 128 < n then n - 128 else n
    let answer : Option String :=
      if isNumber then (if n = 0 then some "EXIT" else name? n)
      else (signal? s).map toString
    match answer with
    | some text => let _ ← Run.put 1 (text ++ "\n").toList
    | none => Run.fail 1 s!"kill: {s}: invalid signal specification"
    translate rest

/-- A job by what it is called after a percent sign. -/
def job? (m : Machine) (spec : String) : Option Job :=
  let name := String.ofList (spec.toList.drop 1)
  match name with
  | "" | "%" | "+" => m.jobs.find? fun j => m.currentJob == some j.number
  | "-" => m.jobs.find? fun j => m.previousJob == some j.number
  | _ =>
    if name.toList.all Char.isDigit then
      m.jobs.find? fun j => j.number == Words.number 10 name.toList
    else if name.toList.head? == some '?' then
      m.jobs.find? fun j => (j.text.splitOn (String.ofList (name.toList.drop 1))).length > 1
    else m.jobs.find? fun j => name.toList.isPrefixOf j.text.toList

/-- Sends a signal to processes, by their numbers or their jobs; tells how many there were. -/
def sendAll (signal : Nat) : List String → Run Nat
  | [] => return 0
  | target :: rest => do
    let m ← Run.get
    let send (process : Nat) : Run Bool := do
      let s ← Run.shared
      if s.isAlive process then do
        if process = m.process && stopping.contains signal && !s.handles process signal then Run.hang
        else do
          Run.update fun s => ((), s.send process signal)
          return true
      else return (s.ending? process).isSome && m.jobs.any fun j => j.processes.contains process
    let cs := target.toList
    let digits := if cs.head? = some '-' then cs.drop 1 else cs
    let done ← if cs.head? = some '%' then
        match job? m target with
        | none => do
          Run.fail 1 s!"kill: {target}: no such job"
          pure false
        | some job => do
          let mut any := false
          for p in job.processes do
            if ← send p then any := true
          pure any
      else if digits.isEmpty || !digits.all Char.isDigit then do
        Run.fail 1 (if target = "" then "kill: \x60': not a pid or valid job spec"
          else s!"kill: {target}: arguments must be process or job IDs")
        pure false
      else if target = "0" then send m.process
      else do
        let found ← send (Words.number 10 digits)
        if !found then Run.fail 1 s!"kill: ({target}) - No such process"
        pure found
    Run.tick
    let others ← sendAll signal rest
    return others + (if done then 1 else 0)

/-- Sends a signal to processes, or tells the names of signals. -/
def kill (arguments : List String) : Run Unit := do
  let misused : Run Unit := do
    Run.tell killUsage
    Run.setStatus 2
  let deliver (spec : String) (targets : List String) : Run Unit := do
    match signal? spec with
    | none => Run.fail 1 s!"kill: {spec}: invalid signal specification"
    | some n =>
      if targets.isEmpty then misused
      else do
        Run.setStatus 0
        let count ← sendAll n targets
        if 0 < count then Run.setStatus 0
  match arguments with
  | [] => misused
  | "-l" :: rest | "-L" :: rest =>
    let rest := rest.dropWhile fun a =>
      a.toList.head? == some '-' && (signal? (String.ofList (a.toList.drop 1))).isSome
    if rest.isEmpty then listSignals
    else do
      Run.setStatus 0
      translate rest
  | "-s" :: rest | "-n" :: rest =>
    let letter := (arguments.headD "")
    match rest with
    | [] => Run.fail 1 s!"kill: {letter}: option requires an argument"
    | spec :: targets =>
      deliver spec (if targets.head? = some "--" then targets.tail else targets)
  | "--" :: targets => deliver "TERM" targets
  | a :: rest =>
    match a.toList with
    | '-' :: 's' :: c :: cs =>
      if (signal? (String.ofList ('s' :: c :: cs))).isSome then
        deliver (String.ofList ('s' :: c :: cs)) rest
      else deliver (String.ofList (c :: cs)) rest
    | '-' :: 'n' :: c :: cs => deliver (String.ofList (c :: cs)) rest
    | '-' :: cs => deliver (String.ofList cs) (if rest.head? = some "--" then rest.tail else rest)
    | _ => deliver "TERM" (a :: rest)

end ActionServer.Shell.Signals
