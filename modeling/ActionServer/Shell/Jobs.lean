import ActionServer.Shell.Signals

/-!
# Jobs

Commands in the background are jobs, until they are waited for or told of after their end. The status
of a process stays known for as long as the shell runs.
-/

namespace ActionServer.Shell.Jobs

/-- Whether all processes of a job have ended. -/
def isOver (s : Shared) (j : Job) : Bool := j.processes.all fun p => (s.ending? p).isSome

/-- The status of a job that is over: that of its last process. -/
def status (s : Shared) (j : Job) : Nat :=
  ((j.processes.getLast?.bind s.ending?).getD 0)

/-- The number of the newest job that runs, of those that are older than a given one. -/
def newestRunning (s : Shared) (m : Machine) (limit : Option Nat) : Option Nat :=
  let isOlder (j : Job) : Bool := limit.all fun n => j.number < n
  ((m.jobs.filter fun j => isOlder j && !isOver s j).map (·.number)).max?

/-- Makes the newest job that runs the current one. -/
def resetMarks (s : Shared) (m : Machine) : Machine :=
  match newestRunning s m none with
  | some current =>
    { m with
      currentJob := some current
      previousJob := newestRunning s m (some current) <|> some current }
  | none => { m with currentJob := none, previousJob := none }

/-- Takes jobs out of the list. -/
def remove (isGone : Job → Bool) : Run Unit := do
  let s ← Run.shared
  Run.modify fun m =>
    let (gone, jobs) := m.jobs.partition isGone
    let isMarked (j : Job) : Bool := m.currentJob == some j.number || m.previousJob == some j.number
    let after : Machine := { m with jobs, former := gone.flatMap (·.processes) ++ m.former }
    if gone.any isMarked then resetMarks s after else after

/-- Takes the jobs out of the list that a signal ended: nothing more is told of them. -/
def sweep : Run Unit := do
  let s ← Run.shared
  remove fun j => j.processes.any fun p => (s.kills.lookup p).isSome

/-- Adds a job, which becomes the current one. -/
def add (processes : List Nat) (text : String) : Run Unit := do
  sweep
  let s ← Run.shared
  Run.modify fun m =>
    let number := (m.jobs.map (·.number)).foldl max 0 + 1
    let previous := newestRunning s m none
    { m with
      jobs := m.jobs ++ [⟨number, m.process, processes, text⟩]
      lastJob := processes.getLast?
      currentJob := some number
      previousJob := previous <|> some number }

/-- A signal that has been sent to the shell and that commands are kept for. -/
def arrived? (m : Machine) (s : Shared) : Option Nat :=
  (s.pending m.process).find? fun n =>
    (m.traps.lookup (.signal n)).any (· != "")

/-- The status of a wait that a signal cut short. -/
def interruptedStatus (signal : Nat) : Nat := 128 + signal

/-- Waits until something holds, or a signal cuts the wait short; tells whether it holds. -/
def await (isReady : Shared → Bool) : Run Bool := do
  let m ← Run.get
  let _ ← Run.await (fun s => isReady s || (arrived? m s).isSome) none
  match arrived? m (← Run.shared) with
  | some signal => do
    Run.setStatus (interruptedStatus signal)
    return false
  | none => return true

/-- The process or job that an argument of `wait` names. -/
inductive Target where
  | process (n : Nat)
  | job (j : Job)
  | noJob
  | nothing

def target (m : Machine) (a : String) : Target :=
  if a.toList.head? = some '%' then
    match Signals.job? m a with
    | some j => .job j
    | none => .noJob
  else if a != "" && a.toList.all Char.isDigit then .process (Words.number 10 a.toList)
  else .nothing

/-- Waits for what arguments name, one after the other; the last one decides the status. -/
def waitEach : List String → Run Unit
  | [] => return ()
  | a :: rest => do
    let m ← Run.get
    let goOn : Run Unit := waitEach rest
    match target m a with
    | .nothing => do
      Run.fail 1 s!"wait: \x60{a}': not a pid or valid job spec"
      goOn
    | .noJob => do
      Run.fail 127 s!"wait: {a}: no such job"
      goOn
    | .job j =>
      if ← await (isOver · j) then do
        Run.setStatus (status (← Run.shared) j)
        remove fun other => other.number == j.number
        goOn
    | .process p =>
      if m.jobs.any (fun j => j.processes.contains p) || m.former.contains p then
        if ← await (fun s => (s.ending? p).isSome) then do
          let s ← Run.shared
          Run.setStatus ((s.ending? p).getD 0)
          remove fun j => j.processes.contains p && isOver s j
          goOn
      else do
        Run.fail 127 s!"wait: pid {p} is not a child of this shell"
        goOn

/-- Waits until one of some jobs is over; tells the last of its processes. -/
def waitAny (jobs : List Job) : Run (Option Nat) := do
  if jobs.isEmpty then do
    Run.setStatus 127
    return none
  else if ← await fun s => jobs.any (isOver s) then do
    let s ← Run.shared
    match jobs.find? (isOver s) with
    | some j => do
      Run.setStatus (status s j)
      remove fun other => other.number == j.number
      return j.processes.getLast?
    | none => return none
  else return none

def waitUsage : String := "wait: usage: wait [-fn] [-p var] [id ...]"

/-- What `wait` is asked for. -/
structure WaitRequest where
  any : Bool := false
  name : Option String := none
  targets : List String := []

/-- The options of `wait`; the error is a letter, and whether it only lacks its value. -/
def waitOptions : Nat → WaitRequest → List String → Except (Char × Bool) WaitRequest
  | 0, r, targets => .ok { r with targets }
  | _, r, [] => .ok r
  | n + 1, r, a :: rest =>
    match a.toList with
    | ['-', '-'] => .ok { r with targets := rest }
    | '-' :: c :: cs =>
      let others := if cs.isEmpty then rest else String.ofList ('-' :: cs) :: rest
      if c = 'n' then waitOptions n { r with any := true } others
      else if c = 'f' then waitOptions n r others
      else if c = 'p' then
        match if cs.isEmpty then rest else String.ofList cs :: rest with
        | name :: rest => waitOptions n { r with name := some name } rest
        | [] => .error (c, true)
      else .error (c, false)
    | _ => .ok { r with targets := a :: rest }

/-- Waits for processes of the background. -/
def wait (arguments : List String) : Run Unit := do
  match waitOptions (arguments.length + 16) {} arguments with
  | .error (c, lacksValue) => do
    Run.complain (if lacksValue then s!"wait: -{c}: option requires an argument"
      else s!"wait: -{c}: invalid option")
    Run.tell waitUsage
    Run.setStatus 2
  | .ok r => do
    let m ← Run.get
    let own := m.jobs.filter fun j => j.owner == m.process
    Run.setStatus 0
    if r.any then do
      let wanted := if r.targets.isEmpty then own
        else own.filter fun j => r.targets.any fun a =>
          match target m a with
          | .process p => j.processes.contains p
          | .job k => k.number == j.number
          | _ => false
      let process ← waitAny wanted
      match r.name, process with
      | some name, some p => Run.modify fun m => m.setText name (toString p)
      | _, _ => return ()
    else if r.targets.isEmpty then do
      if ← await fun s => own.all (isOver s) then do
        remove fun _ => true
        Run.setStatus 0
    else waitEach r.targets

/-- What is told of a job's state. -/
def stateText (s : Shared) (j : Job) : String :=
  if !isOver s j then "Running"
  else
    let n := status s j
    if n = 0 then "Done"
    else
      match n with
      | 129 => "Hangup"
      | 137 => "Killed"
      | 143 => "Terminated"
      | _ => s!"Exit {n}"

/-- Text brought to a width. -/
def padded (width : Nat) (s : String) : String :=
  s ++ String.ofList (List.replicate (width - s.length) ' ')

/-- A job as a listing has it. -/
def row (m : Machine) (s : Shared) (withProcess : Bool) (j : Job) : String :=
  let sign := if m.currentJob = some j.number then "+"
    else if m.previousJob = some j.number then "-"
    else " "
  let state := padded 24 (stateText s j)
  let tail := if isOver s j then j.text else j.text ++ " &"
  let number := toString (j.processes.headD 0)
  if withProcess then s!"[{j.number}]{sign} {number} " ++ state ++ tail ++ "\n"
  else s!"[{j.number}]{sign}  " ++ state ++ tail ++ "\n"

def jobsUsage : String :=
  "jobs: usage: jobs [-lnprs] [jobspec ...] or jobs -x command [args]"

/-- Lists jobs; those that are over are not listed again. -/
def list (arguments : List String) : Run Unit := do
  let isOption (a : String) : Bool := a.toList.head? == some '-' && 1 < a.length
  let options := (arguments.takeWhile isOption).flatMap fun a => a.toList.drop 1
  let specs := arguments.dropWhile isOption
  sweep
  let m ← Run.get
  let s ← Run.shared
  match options.find? fun c => !"lnprsx-".toList.contains c with
  | some c => do
    Run.complain s!"jobs: -{c}: invalid option"
    Run.tell jobsUsage
    Run.setStatus 2
  | none => do
    Run.setStatus 0
    let has (c : Char) : Bool := options.contains c
    match specs.find? fun a => (Signals.job? m a).isNone with
    | some a => Run.fail 1 s!"jobs: {a}: no such job"
    | none => do
      let named := specs.filterMap (Signals.job? m)
      let wanted := if specs.isEmpty then m.jobs else named
      let shown := wanted.filter fun j =>
        (!has 'r' || !isOver s j) && !has 's' && (!has 'n' || isOver s j)
      let text (j : Job) : String :=
        if has 'p' then toString (j.processes.headD 0) ++ "\n" else row m s (has 'l') j
      let _ ← Run.put 1 (String.join (shown.map text)).toList
      remove fun j => isOver s j && shown.any fun k => k.number == j.number

/-- Takes jobs out of the list without waiting for them. -/
def disown (arguments : List String) : Run Unit := do
  let isOption (a : String) : Bool := a.toList.head? == some '-' && 1 < a.length
  let options := (arguments.takeWhile isOption).flatMap fun a => a.toList.drop 1
  let specs := arguments.dropWhile isOption
  let m ← Run.get
  match options.find? fun c => !"har-".toList.contains c with
  | some c => do
    Run.complain s!"disown: -{c}: invalid option"
    Run.tell "disown: usage: disown [-h] [-ar] [jobspec ... | pid ...]"
    Run.setStatus 2
  | none => do
    Run.setStatus 0
    if options.contains 'h' then return ()
    else if specs.isEmpty then
      if options.contains 'a' || options.contains 'r' then remove fun _ => true
      else
        match m.jobs.getLast? with
        | some last => remove fun j => j.number == last.number
        | none => Run.fail 1 "disown: current: no such job"
    else
      for a in specs do
        match target m a with
        | .job j => remove fun k => k.number == j.number
        | .process p =>
          if m.jobs.any fun j => j.processes.contains p then
            remove fun j => j.processes.contains p
          else Run.fail 1 s!"disown: {a}: no such job"
        | _ => Run.fail 1 s!"disown: {a}: no such job"

end ActionServer.Shell.Jobs
