import ActionServer.Shell.Evaluation
import ActionServer.Shell.Scheduler

/-!
# Interpreters

The programs that scripts can be handed to: the shell, and the few programs that scripts themselves
can run. An interpreter is started with arguments, in a directory; the last argument is the path of
the script, as the interpreter sees it.
-/

namespace ActionServer

inductive Interpreter where
  | shell
  | program (name : String)
  deriving DecidableEq, Repr

/-- What a process is started with. -/
structure Surroundings where
  files : FileSystem
  /-- Variables for the process. -/
  bindings : List (String × String)
  /-- Whether there is something to read. -/
  hasInput : Bool

namespace Interpreter

/-- The names of the shell. -/
def shellNames : List String := ["bash", "sh"]

/-- The interpreter that a command names, with or without its directory. -/
def find? (command : String) : Option Interpreter :=
  if shellNames.any fun name =>
      command == name || Shell.Programs.directories.any fun dir => command == dir ++ name then
    some .shell
  else (Shell.Programs.find? command).map .program

/-- The number of the first process of a script, and of the one that started it. -/
def firstProcess : Nat := 4242

def parentProcess : Nat := 4241

/-- Variables that every process is given. -/
def environment : List (String × String) :=
  [("HOME", "/root"), ("PATH", "/usr/local/sbin:/usr/local/bin:/usr/sbin:/usr/bin:/sbin:/bin")]

/-- The version of the shell, as a text and in its parts. -/
def version : String := "5.2.21(1)-release"

def versionParts : List String := ["5", "2", "21", "1", "release", "x86_64-pc-linux-gnu"]

/-- Variables of a shell that has just been started, besides those that it is given. -/
def ownVariables : List (String × Shell.Variable) :=
  let text (s : String) : Shell.Variable := .ofText s
  let fixedNumber (n : Nat) : Shell.Variable :=
    ⟨.text (toString n), true, { isReadonly := true, isInteger := true }⟩
  [("BASH", text "/usr/bin/bash"), ("BASH_VERSION", text version),
    ("BASH_VERSINFO",
      ⟨.indexed (Shell.Indexed.ofTexts versionParts), true, { isReadonly := true }⟩),
    ("EUID", fixedNumber 0), ("HOSTTYPE", text "x86_64"), ("IFS", text " \t\n"),
    ("MACHTYPE", text "x86_64-pc-linux-gnu"),
    ("OLDPWD", ⟨.text "", false, { isExported := true }⟩), ("OPTERR", text "1"),
    ("OPTIND", text "1"), ("OSTYPE", text "linux-gnu"), ("PPID", fixedNumber parentProcess),
    ("PS4", text "+ "), ("SHELL", text "/bin/bash"),
    ("SHLVL", ⟨.text "1", true, { isExported := true }⟩), ("TERM", text "dumb"),
    ("UID", fixedNumber 0)]

/-- The directory that a file system is in, without links and dots. -/
def realDir (files : FileSystem) : String :=
  match files.tree.locate files.workDir with
  | .ok names => "/" ++ "/".intercalate names
  | .error _ => files.workDir

/-- A shell that has just been started. -/
def machine (s : Surroundings) (name : String) : Shell.Machine :=
  let dir := realDir s.files
  let given := environment.filter (fun e => !s.bindings.any (·.1 == e.1)) ++ s.bindings ++
    [("PWD", dir)]
  let exported (value : String) : Shell.Variable :=
    ⟨.text (Octets.text (Utf8.encode value)), true, { isExported := true }⟩
  { bindings := given.map (fun e => (e.1, exported e.2)) ++ ownVariables
    calls := [], arguments := [], zero := name, origin := name, functions := [], status := 0
    substituted := none, line := 1, loops := 0, options := Shell.Options.usual
    shellOptions := Shell.Options.usualShell, guarded := false, trapped := [], depth := 0
    nesting := 0, process := firstProcess, shellProcess := firstProcess, workDir := dir
    descriptors := [(0, if s.hasInput then .input else .nothing), (1, .output), (2, .errors)]
    kept := [], passing := [], traps := [], formerTraps := []
    jobs := [], currentJob := none, previousJob := none, former := [], lastJob := none
    seed := 20110519, lastRandom := 0, optionPlace := ⟨1, 0⟩, now := 0
    secondsShift := 0, directories := [], aliases := [], mask := 0o022, found := []
    disabled := [], current := .head "", stages := [], lastWord := name }

/-- What a shell's processes have in common when it has just been started. -/
def shared (s : Surroundings) : Shell.Shared :=
  { tree := s.files.tree, pipes := [], nextPipe := 0, spots := [], nextProcess := firstProcess + 1, held := []
    endings := [], kills := [], signals := [], handled := [], elapsed := 0 }

/-- A script whose first process does something. -/
def child (s : Surroundings) (m : Shell.Machine) (r : Shell.Run Unit) : Child :=
  Shell.Crew.child (shared s) m.process m.channels (r m fun _ m => .exit m.status)

/-- What the arguments of a shell ask for. -/
structure ShellCall where
  /-- The script is an argument and not a file. -/
  isInline : Bool := false
  arguments : List String := []

/-- The option letters of the shell. -/
def shellLetters : List Char := "abcefhiklmnprstuvxBCDEHPT".toList

/-- Options of the shell; the error is one that does not exist. -/
def shellCall (m : Shell.Machine) (call : ShellCall) : List String →
    Except String (ShellCall × Shell.Machine)
  | [] => .ok (call, m)
  | "--" :: rest | "-" :: rest => .ok ({ call with arguments := rest }, m)
  | a :: rest =>
    match a.toList with
    | sign :: letters =>
      if sign != '-' && sign != '+' then .ok ({ call with arguments := a :: rest }, m)
      else if letters.head? = some '-' then shellCall m call rest
      else
        match letters.find? fun c => c != 'o' && c != 'O' && !shellLetters.contains c with
        | some c => .error s!"-{c}: invalid option"
        | none =>
          let on := sign == '-'
          let m := Shell.Settings.switchLetters on letters m
          let call := { call with isInline := call.isInline || letters.contains 'c' }
          match rest with
          | name :: rest =>
            if letters.contains 'o' then shellCall (Shell.Settings.switch on name m) call rest
            else if letters.contains 'O' then shellCall (m.setShellOption on name) call rest
            else shellCall m call (name :: rest)
          | [] => .ok (call, m)
    | [] => .ok ({ call with arguments := a :: rest }, m)

/-- Tells of a problem and ends. -/
def refuse (message : String) (status : Nat) : Child :=
  .complain (Octets.ofText (message ++ "\n")) fun _ => .exit (some status)

/-- How many bytes of a file are looked at to tell a script from other files. -/
def sampleSize : Nat := 80

/-- Whether bytes do not look like a script. -/
def isBinary (bytes : List UInt8) : Bool :=
  ((bytes.take sampleSize).takeWhile (· != 0x0A)).contains 0

/-- Steps that a script may take. -/
def stepLimit : Nat := 200000

/-- Runs a script. -/
def runText (s : Surroundings) (m : Shell.Machine) (chars : List Char) : Child :=
  let text := Shell.ScriptText.ofChars m.origin 1 (chars.filter (· != '\x00'))
  child s m <| Shell.Evaluation.whole stepLimit
    (Shell.Evaluation.lines stepLimit true text (text.start false))

/-- What the shell does with arguments, the bytes of each kept as characters. -/
def runShell (s : Surroundings) (name : String) (arguments : List String) : Child :=
  match shellCall (machine s name) {} arguments with
  | .error message => refuse s!"{name}: {message}" 2
  | .ok (call, m) =>
    match call.arguments with
    | [] => .exit (some 0)
    | script :: rest =>
      if call.isInline then
        let zero := rest.headD name
        runText s { m with zero, origin := zero, arguments := rest.tail } script.toList
      else
        let m := { m with zero := script, origin := script, arguments := rest, lastWord := script }
        match s.files.stat (Shell.Machine.pathOf script) with
        | .error e => refuse s!"{name}: {script}: {Shell.faultReason e}" 127
        | .ok .directory => refuse s!"{script}: {script}: Is a directory" 126
        | .ok (.file bytes) =>
          if isBinary bytes then refuse s!"{script}: {script}: cannot execute binary file" 126
          else runText s m (Octets.chars bytes)

/-- Starts an interpreter with arguments. -/
def start (i : Interpreter) (s : Surroundings) (arguments : List String) : Child :=
  let arguments := arguments.map fun a => Octets.text (Utf8.encode a)
  match i with
  | .shell => runShell s "bash" arguments
  | .program name => child s (machine s name) (Shell.Programs.run name name arguments)

end Interpreter

end ActionServer
