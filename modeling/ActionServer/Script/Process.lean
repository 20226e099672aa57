import ActionServer.Script.Exchange
import ActionServer.Script.Interpreter

/-!
# Scripts in processes

A loader for script files that an interpreter runs. Loading looks for the file, and can have the
interpreter check it; each run starts the interpreter anew in the directory of the script, with the
name of the action in a variable, and lets it talk with the host until a deadline.
-/

namespace ActionServer

structure ProcessSettings where
  interpreter : String
  /-- The extension of the script files. -/
  extension : String
  /-- Arguments that make the interpreter check a script; without any, there is no check. -/
  checkArguments : List String
  timeoutMs : Nat
  files : FileSystem

namespace ProcessSettings

/-- How long a script may run, if nothing else is said. -/
def defaultTimeoutMs : Nat := 30000

/-- Shell scripts, which are checked. -/
def shell (files : FileSystem) : ProcessSettings :=
  { interpreter := "bash", extension := "sh", checkArguments := ["-n"]
    timeoutMs := defaultTimeoutMs, files }

/-- The variable that holds the name of the action. -/
def nameVariable : String := "ACTION_NAME"

/-- What is said of a text for another process that has a NUL in it. -/
def nulMessage : String := "nul byte found in provided data"

/-- What is said of a file that is no program. -/
def deniedMessage : String := "Permission denied (os error 13)"

def hasNul (s : String) : Bool := s.toList.contains '\x00'

/-- Finds the interpreter, seen from a directory; the error is why it cannot be started. -/
def findInterpreter (s : ProcessSettings) (files : FileSystem) (texts : List String) :
    Except String Interpreter :=
  if (s.interpreter :: texts).any hasNul then .error nulMessage
  else
    match files.stat files.workDir with
    | .error e => .error e.message
    | .ok (.file _) => .error FileFault.notADirectory.message
    | .ok .directory =>
      match Interpreter.find? s.interpreter with
      | some i => .ok i
      | none =>
        if s.interpreter.toList.contains '/' then
          match files.stat s.interpreter with
          | .ok _ => .error deniedMessage
          | .error e => .error e.message
        else .error FileFault.notFound.message

/-- The files as a run of a script sees them: from the directory of the script. Nothing if the script
has no directory. -/
def workplace (s : ProcessSettings) (path : String) : Option FileSystem :=
  match Path.parent? path with
  | some "" => none
  | some dir => some (s.files.within dir)
  | none => some s.files

/-- Lets the interpreter check a script. -/
def check (s : ProcessSettings) (path : String) : Except LoadError Unit := do
  let arguments := s.checkArguments ++ [path]
  match s.findInterpreter s.files arguments with
  | .error reason => .error (.io reason)
  | .ok i =>
    let outcome := if s.timeoutMs = 0 then none
      else (i.start ⟨s.files, [], false⟩ arguments).alone s.timeoutMs 0 []
    match outcome with
    | none => .error (.invalid s!"Syntax check of {path} timed out")
    | some (some 0, _) => .ok ()
    | some (_, stderr) => .error (.invalid (Text.trim (Utf8.lossy stderr)))

/-- Runs a script for an invocation. -/
def run (s : ProcessSettings) (path : String) (context : Context) (d : Domain) (w : World) :
    Ending × Domain × World :=
  match s.workplace path with
  | none => (.failed (.io FileFault.notFound.message), d, w)
  | some files =>
    match s.findInterpreter files [path, context.action] with
    | .error reason => (.failed (.io reason), d, w)
    | .ok i =>
      if s.timeoutMs = 0 then (.failed (.timeout 0), d, w)
      else
        let child := i.start ⟨files, [(nameVariable, context.action)], true⟩ [path]
        let (ending, x) := Exchange.run child (Exchange.start context d w s.timeoutMs)
        (ending, x.domain, x.world)

def executable (s : ProcessSettings) (path : String) : Executable :=
  ⟨s.run path⟩

/-- Loads the script at a path: there has to be a file, which passes the check. -/
def load (s : ProcessSettings) (path : String) : LoadOutcome :=
  match s.files.stat path with
  | .error .notFound | .ok .directory => .refused (.notFound path)
  | .error e => .refused (.io e.message)
  | .ok (.file _) =>
    if s.checkArguments.isEmpty then .ready (s.executable path)
    else
      match s.check path with
      | .ok () => .ready (s.executable path)
      | .error e => .refused e

def loader (s : ProcessSettings) : Loader :=
  ⟨s.extension, s.load⟩

end ProcessSettings

end ActionServer
