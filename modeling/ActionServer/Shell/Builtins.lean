import ActionServer.Shell.Directories
import ActionServer.Shell.Jobs
import ActionServer.Shell.Printing
import ActionServer.Shell.Programs
import ActionServer.Shell.Settings

/-!
# Built-in commands

Commands that the shell carries out itself because they write, read, or change its own state. Those
that run other commands are not among them.
-/

namespace ActionServer.Shell.Builtins

/-- Writes what a command has to say; that it could not is the end of the command. -/
def say (name : String) (cs : List Char) : Run Unit := Directories.say name cs

/-- Tells how a command is used; its status is two. -/
def misused (usage : String) : Run Unit := do
  Run.tell usage
  Run.setStatus 2

/-- Gives variables numbers. -/
def putAll : List (String × Nat) → Run Unit
  | [] => return ()
  | (name, n) :: rest => do
    let _ ← Assigning.put name none false (toString n)
    putAll rest

/-- Writes formatted text, or keeps it in a variable. -/
def format (keep : Option String) (text : String) (arguments : List String) : Run Unit := do
  let now := (← Run.get).now / 1000
  let s := Printing.printf (now : Nat) text arguments
  Run.complainAll (s.faults.map fun f => "printf: " ++ f.message)
  putAll s.lengths
  let status := if s.faults.any (·.isFailure) then 1 else 0
  match keep with
  | some name => do
    let (found, place) := Machine.splitPlace name
    if ← Assigning.put found place false (String.ofList s.text) then Run.setStatus status
  | none => do
    say "printf" s.text
    if status != 0 then Run.setStatus status

def printfUsage : String := "printf: usage: printf [-v var] format [arguments]"

/-- Writes formatted text. -/
def printfWith (keep : Option String) : List String → Run Unit
  | [] | ["--"] => misused printfUsage
  | "--" :: text :: arguments => format keep text arguments
  | text :: arguments =>
    match text.toList with
    | '-' :: c :: cs =>
      if c = 'v' && keep.isNone then
        let (name, rest) := match cs, arguments with
          | [], name :: rest => (some name, rest)
          | [], [] => (none, [])
          | cs, rest => (some (String.ofList cs), rest)
        match name with
        | none => do
          Run.complain "printf: -v: option requires an argument"
          misused printfUsage
        | some name =>
          if Machine.isPlace name then
            match rest with
            | [] | ["--"] => misused printfUsage
            | "--" :: text :: arguments | text :: arguments => format (some name) text arguments
          else Run.fail 2 s!"printf: \x60{name}': not a valid identifier"
      else do
        Run.complain s!"printf: -{c}: invalid option"
        misused printfUsage
    | _ => format keep text arguments

/-- The number that an argument asks for: an option-like first argument of dashes is passed. -/
def numeric (name : String) (status : Nat) (onBad : Run Unit) (arguments : List String)
    (use : Option Int → Run Unit) : Run Unit := do
  match if arguments.head? = some "--" then arguments.tail else arguments with
  | [] => use none
  | a :: rest =>
    match Conditions.integer? a with
    | none => do
      Run.fail status s!"{name}: {a}: numeric argument required"
      onBad
    | some n =>
      if rest.isEmpty then use (some n)
      else do
        Run.complain s!"{name}: too many arguments"
        Run.modify fun m => if m.status = 0 then { m with status := 1 } else m
        Run.stop .abandon

/-- Ends something with the status that an argument asks for. -/
def endWith (name : String) (finish : Run Unit) (arguments : List String) : Run Unit :=
  numeric name 2 finish arguments fun n => do
    match n with
    | some n => Run.setStatus (n % 256).toNat
    | none => pure ()
    finish

/-- Ends the script. -/
def exit (arguments : List String) : Run Unit := endWith "exit" (Run.stop .exit) arguments

/-- Ends the running function, or a text read from a file. -/
def leave (arguments : List String) : Run Unit :=
  endWith "return" (do
    if (← Run.get).calls.isEmpty then
      Run.fail 2 "return: can only \x60return' from a function or sourced script"
    else Run.stop .leaveFunction) arguments

/-- Leaves loops, or goes on with the next round of one. -/
def loopControl (name : String) (flow : Nat → Flow) (arguments : List String) : Run Unit := do
  let m ← Run.get
  if m.loops = 0 then do
    Run.complain s!"{name}: only meaningful in a \x60for', \x60while', or \x60until' loop"
    Run.setStatus 0
  else
    numeric name 128 (Run.stop .exit) arguments fun n => do
      let n := n.getD 1
      if n < 1 then do
        Run.fail 1 s!"{name}: {n}: loop count out of range"
        Run.stop (.leaveLoop m.loops)
      else do
        Run.setStatus 0
        Run.stop (flow (min n.toNat m.loops))

/-- Drops the first arguments. -/
def shift (arguments : List String) : Run Unit :=
  numeric "shift" 1 (pure ()) arguments fun n => do
    let m ← Run.get
    let n := n.getD 1
    if n < 0 then Run.fail 1 s!"shift: {n}: shift count out of range"
    else if m.arguments.length < n.toNat then
      if m.hasShellOption "shift_verbose" then Run.fail 1 s!"shift: {n}: shift count out of range"
      else Run.setStatus 1
    else do
      Run.modify fun m => { m with arguments := m.arguments.drop n.toNat }
      Run.setStatus 0

/-- Tests a condition. -/
def test (name : String) (words : List String) : Run Unit := do
  match Conditions.test ⟨← Run.get, ← Run.files⟩ words with
  | .ok holds => Run.setStatus (if holds then 0 else 1)
  | .error message => Run.fail 2 s!"{name}: {message}"

/-- Evaluates expressions; the last one decides the status. -/
def evaluate : List String → Run Unit
  | [] => return ()
  | a :: rest => do
    match ← Run.calculate? "let" a.toList with
    | some v => do
      Run.setStatus (if v = 0 then 1 else 0)
      evaluate rest
    | none => return ()

def «let» (arguments : List String) : Run Unit :=
  match if arguments.head? = some "--" then arguments.tail else arguments with
  | [] => Run.fail 1 "let: expression expected"
  | expressions => evaluate expressions

/-- What has been taken out of arguments: a letter, its value, where to go on, and what is wrong. -/
structure TakenOption where
  letter : String
  value : Option String
  place : OptionPlace
  complaint : Option String

/-- Takes the next option out of arguments; nothing where there is none, with where to go on. -/
def takeOption (letters : List Char) (arguments : List String) (place : OptionPlace) :
    Except Nat TakenOption :=
  let argument := (arguments[place.argument - 1]?).getD ""
  let cs := argument.toList
  let letter := max place.letter 1
  if argument = "--" && place.letter = 0 then .error (place.argument + 1)
  else if cs.head? != some '-' || cs.length < 2 then .error place.argument
  else
    match cs.drop letter with
    | [] => .error place.argument
    | c :: rest =>
      let onward : OptionPlace := if rest.isEmpty then ⟨place.argument + 1, 0⟩
        else ⟨place.argument, letter + 1⟩
      let silent := letters.head? == some ':'
      let known := letters.dropWhile (· != c)
      let sign := String.singleton c
      if c = ':' || known.isEmpty then
        .ok ⟨"?", if silent then some sign else none, onward,
          if silent then none else some s!"illegal option -- {c}"⟩
      else if (known.drop 1).head? != some ':' then .ok ⟨sign, none, onward, none⟩
      else if !rest.isEmpty then
        .ok ⟨sign, some (String.ofList rest), ⟨place.argument + 1, 0⟩, none⟩
      else
        match arguments[place.argument]? with
        | some value => .ok ⟨sign, some value, ⟨place.argument + 2, 0⟩, none⟩
        | none =>
          .ok ⟨if silent then ":" else "?", if silent then some sign else none,
            ⟨place.argument + 1, 0⟩,
            if silent then none else some s!"option requires an argument -- {c}"⟩

def getoptsUsage : String := "getopts: usage: getopts optstring name [arg ...]"

/-- Takes options out of arguments, one at a time. -/
def getopts (arguments : List String) : Run Unit := do
  let isOption (a : String) : Bool := a.toList.head? == some '-' && 1 < a.length && a != "--"
  match if arguments.head? = some "--" then arguments.tail else arguments with
  | letters :: name :: given => do
    if isOption letters then do
      let letter := String.ofList ((letters.toList.drop 1).take 1)
      Run.complain s!"getopts: -{letter}: invalid option"
      misused getoptsUsage
    else
      let m ← Run.get
      let from_ := if given.isEmpty then m.arguments else given
      let start := max ((Conditions.integer? ((m.get? "OPTIND").getD "1")).getD 1).toNat 1
      let place : OptionPlace := if m.optionPlace.argument = start then m.optionPlace else ⟨start, 0⟩
      let finish (letter : String) (value : Option String) (place : OptionPlace) (status : Nat) :
          Run Unit := do
        Run.modify fun m =>
          let m := { m.setText "OPTIND" (toString place.argument) with optionPlace := place }
          match value with
          | some s => m.setText "OPTARG" s
          | none => m.unbind "OPTARG"
        if !Words.isName name.toList then Reading.refuseName "getopts" name
        else if ← Assigning.put name none false letter then Run.setStatus status
      match takeOption letters.toList from_ place with
      | .error next => finish "?" none ⟨next, 0⟩ 1
      | .ok taken => do
        match taken.complaint with
        | some text => if (m.get? "OPTERR").getD "1" != "0" then Run.tell s!"{m.zero}: {text}"
        | none => pure ()
        finish taken.letter taken.value taken.place 0
  | _ => misused getoptsUsage

/-- Who may do something, as letters. -/
def maskText (mask : Nat) : String :=
  let allowed (shift : Nat) : String :=
    let bits := 7 - (mask >>> shift) % 8
    (if 4 ≤ bits then "r" else "") ++ (if 2 ≤ bits % 4 then "w" else "") ++
      (if bits % 2 = 1 then "x" else "")
  "u=" ++ allowed 6 ++ ",g=" ++ allowed 3 ++ ",o=" ++ allowed 0

/-- A mask in four octal digits. -/
def maskDigits (mask : Nat) : String :=
  let ds := Nat.toDigits 8 mask
  String.ofList (List.replicate (4 - ds.length) '0' ++ ds)

/-- The mask after a clause such as `g+w`; the error is a sign that is none. -/
def maskClause (mask : Nat) (clause : List Char) : Except Char Nat :=
  let who := clause.takeWhile fun c => "ugoa".toList.contains c
  let shifts := (if who.isEmpty || who.contains 'a' then [6, 3, 0] else
    (if who.contains 'u' then [6] else []) ++ (if who.contains 'g' then [3] else []) ++
      (if who.contains 'o' then [0] else []))
  match clause.drop who.length with
  | [] => .error ' '
  | op :: permissions =>
    if !"+-=".toList.contains op then .error op
    else
      let bit (c : Char) : Nat := if c = 'r' then 4 else if c = 'w' then 2 else if c = 'x' then 1 else 0
      let bits := permissions.eraseDups.foldl (fun n c => n + bit c) 0
      .ok (shifts.foldl (fun mask shift =>
        let old := (mask >>> shift) % 8
        let new := if op = '=' then 7 - bits
          else if op = '+' then old &&& (7 - bits)
          else old ||| bits
        mask - old * Nat.pow 2 shift + new * Nat.pow 2 shift) mask)

/-- Shows or sets the mask for new files. -/
def umask (arguments : List String) : Run Unit := do
  let m ← Run.get
  match Directories.letters "pS".toList arguments with
  | .error c => do
    Run.complain s!"umask: -{c}: invalid option"
    misused "umask: usage: umask [-p] [-S] [mode]"
  | .ok rest =>
    let options := (arguments.take (arguments.length - rest.length)).flatMap String.toList
    let symbolic := options.contains 'S'
    let text := if symbolic then maskText m.mask else maskDigits m.mask
    let front := if options.contains 'p' then (if symbolic then "umask -S " else "umask ") else ""
    match rest with
    | [] => say "umask" (front ++ text ++ "\n").toList
    | mode :: _ =>
      let set (mask : Nat) : Run Unit := do
        Run.modify fun m => { m with mask }
        Run.setStatus 0
        if symbolic then say "umask" (maskText mask ++ "\n").toList
      if (mode.toList.head?.map Char.isDigit).getD false then
        let n := Words.number 8 mode.toList
        if mode.toList.all Words.isOctal && n < 512 then set n
        else Run.fail 1 s!"umask: {mode}: octal number out of range"
      else
        let clauses := (mode.splitOn ",").map String.toList
        match clauses.foldlM maskClause m.mask with
        | .ok mask => set mask
        | .error c => Run.fail 1 s!"umask: \x60{c}': invalid symbolic mode operator"

/-- Limits are not kept; each is unlimited. -/
def ulimit (arguments : List String) : Run Unit := do
  match Directories.letters "SHabcdefiklmnpqrstuvxPRT".toList arguments with
  | .error c => do
    Run.complain s!"ulimit: -{c}: invalid option"
    misused "ulimit: usage: ulimit [-SHabcdefiklmnpqrstuvxPRT] [limit]"
  | .ok [] => say "ulimit" "unlimited\n".toList
  | .ok (limit :: _) =>
    let isLimit := limit.toList.all Char.isDigit || ["unlimited", "hard", "soft"].contains limit
    if isLimit then Run.setStatus 0 else Run.fail 1 s!"ulimit: {limit}: invalid number"

/-- Lists or defines aliases. -/
def abbreviate (arguments : List String) : Run Unit := do
  let m ← Run.get
  let row (e : String × String) : String :=
    s!"alias {e.1}=" ++ String.ofList (Quoting.single e.2.toList) ++ "\n"
  let all := String.join ((m.aliases.mergeSort fun a b => decide (a.1 ≤ b.1)).map row)
  match Directories.letters ['p'] arguments with
  | .error c => do
    Run.complain s!"alias: -{c}: invalid option"
    misused "alias: usage: alias [-p] [name[=value] ... ]"
  | .ok names => do
    if names.isEmpty || names.length < arguments.length && arguments.head? = some "-p" then
      say "alias" all.toList
    else Run.setStatus 0
    for a in names do
      let name := String.ofList (a.toList.takeWhile (· != '='))
      if name.length < a.length && name != "" then
        if name.toList.any fun c => Words.isMeta c || "$\x60\\'\"/".toList.contains c then
          Run.fail 1 s!"alias: \x60{name}': invalid alias name"
        else
          let value := String.ofList (a.toList.drop (name.length + 1))
          Run.modify fun m =>
            { m with aliases := (name, value) :: m.aliases.filter (·.1 != name) }
      else
        match (← Run.get).aliases.lookup a with
        | some value =>
          let _ ← Run.put 1 (row (a, value)).toList
        | none => Run.fail 1 s!"alias: {a}: not found"

/-- Forgets aliases. -/
def unalias (arguments : List String) : Run Unit := do
  match Directories.letters ['a'] arguments with
  | .error c => do
    Run.complain s!"unalias: -{c}: invalid option"
    misused "unalias: usage: unalias [-a] name [name ...]"
  | .ok names =>
    if arguments.head? = some "-a" then do
      Run.modify fun m => { m with aliases := [] }
      Run.setStatus 0
    else if names.isEmpty then misused "unalias: usage: unalias [-a] name [name ...]"
    else do
      Run.setStatus 0
      for a in names do
        if ((← Run.get).aliases.lookup a).isSome then
          Run.modify fun m => { m with aliases := m.aliases.filter (·.1 != a) }
        else Run.fail 1 s!"unalias: {a}: not found"

/-- Tells where the running function was called. -/
def caller (arguments : List String) : Run Unit := do
  let m ← Run.get
  let origin (i : Nat) : String := (m.callOrigins[i]?).getD "NULL"
  let line (i : Nat) : String := (m.callLines[i]?).getD "0"
  match arguments.head? with
  | none =>
    if m.calls.isEmpty then say "caller" "0 NULL\n".toList
    else say "caller" (line 0 ++ " " ++ origin 1 ++ "\n").toList
  | some a =>
    match Reading.natural? a with
    | none => do
      Run.complain s!"caller: {a}: invalid number"
      misused "caller: usage: caller [expr]"
    | some n =>
      if n < m.calls.length then
        let name := (m.callNames[n + 1]?).getD "main"
        say "caller" (line n ++ " " ++ name ++ " " ++ origin (n + 1) ++ "\n").toList
      else Run.setStatus 1

/-- Names of all built-in commands. -/
def names : List String :=
  [".", ":", "[", "alias", "bg", "bind", "break", "builtin", "caller", "cd", "command", "compgen",
    "complete", "compopt", "continue", "declare", "dirs", "disown", "echo", "enable", "eval", "exec",
    "exit", "export", "false", "fc", "fg", "getopts", "hash", "help", "history", "jobs", "kill", "let",
    "local", "logout", "mapfile", "popd", "printf", "pushd", "pwd", "read", "readarray", "readonly",
    "return", "set", "shift", "shopt", "source", "suspend", "test", "times", "trap", "true", "type",
    "typeset", "ulimit", "umask", "unalias", "unset", "wait"]

def isBuiltin (m : Machine) (name : String) : Bool :=
  names.contains name && !m.disabled.contains name

/-- Switches built-in commands on or off, or lists them. -/
def enable (arguments : List String) : Run Unit := do
  let m ← Run.get
  match Directories.letters "anpsdf".toList arguments with
  | .error c => do
    Run.complain s!"enable: -{c}: invalid option"
    misused "enable: usage: enable [-a] [-dnps] [-f filename] [name ...]"
  | .ok rest => do
    let options := (arguments.take (arguments.length - rest.length)).flatMap String.toList
    let has (c : Char) : Bool := options.contains c
    if rest.isEmpty then
      let shown := names.filter fun name =>
        has 'a' || (m.disabled.contains name == has 'n')
      let row (name : String) : String :=
        (if m.disabled.contains name then "enable -n " else "enable ") ++ name ++ "\n"
      say "enable" (String.join (shown.map row)).toList
    else do
      Run.setStatus 0
      for name in rest do
        if names.contains name then
          Run.modify fun m =>
            let others := m.disabled.filter (· != name)
            { m with disabled := if has 'n' then name :: others else others }
        else Run.fail 1 s!"enable: {name}: not a shell builtin"

/-- The path of a program, where it is looked for by its name. -/
def program? (command : String) : Option String :=
  (Programs.find? command).map fun program =>
    if command = program then s!"/usr/bin/{program}" else command

/-- Notes that a program has been found. -/
def remember (command : String) (hits : Nat) : Run Unit :=
  match program? command with
  | some path =>
    if command.toList.contains '/' then return ()
    else
      Run.modify fun m =>
        let before := ((m.found.lookup command).map (·.2)).getD 0
        { m with found := (command, path, before + hits) :: m.found.filter (·.1 != command) }
  | none => return ()

/-- Lists or changes the programs that have been found. -/
def hash (arguments : List String) : Run Unit := do
  let m ← Run.get
  let table : Run Unit :=
    if m.found.isEmpty then say "hash" "hash: hash table empty\n".toList
    else
      let row (e : String × String × Nat) : String :=
        let n := toString e.2.2
        String.ofList (List.replicate (4 - n.length) ' ') ++ n ++ "\t" ++ e.2.1 ++ "\n"
      say "hash" ("hits\tcommand\n" ++ String.join (m.found.map row)).toList
  let notFound (name : String) : Run Unit := Run.fail 1 s!"hash: {name}: not found"
  match arguments with
  | [] => table
  | "-l" :: [] => do
    say "hash" (String.join (m.found.map fun e =>
      s!"builtin hash -p {e.2.1} {e.1}\n")).toList
  | "-r" :: rest => do
    Run.modify fun m => { m with found := [] }
    Run.setStatus 0
    for name in rest do
      if (program? name).isSome then remember name 0 else notFound name
  | "-t" :: rest => do
    Run.setStatus 0
    for name in rest do
      match m.found.lookup name with
      | some (path, _) =>
        let _ ← Run.put 1 ((if rest.length > 1 then name ++ "\t" else "") ++ path ++ "\n").toList
      | none => notFound name
  | "-d" :: rest => do
    Run.setStatus 0
    for name in rest do
      if ((← Run.get).found.lookup name).isSome then
        Run.modify fun m => { m with found := m.found.filter (·.1 != name) }
      else notFound name
  | "-p" :: path :: rest => do
    Run.setStatus 0
    let added := rest.map fun name => (name, path, 0)
    Run.modify fun m => { m with found := added ++ m.found.filter fun e => !rest.contains e.1 }
  | a :: _ =>
    match a.toList with
    | '-' :: c :: _ => do
      Run.complain s!"hash: -{c}: invalid option"
      misused "hash: usage: hash [-lr] [-p pathname] [-dt] [name ...]"
    | _ => do
      Run.setStatus 0
      for name in arguments do
        if isBuiltin m name || name.toList.contains '/' then pure ()
        else if (program? name).isSome then remember name 0
        else notFound name

/-- Words that could complete another one. -/
def compgen (arguments : List String) : Run Unit := do
  let m ← Run.get
  let given (start : String) (candidates : List String) : Run Unit := do
    let found := candidates.filter fun s => start.toList.isPrefixOf s.toList
    let _ ← Run.put 1 (String.join (found.map (· ++ "\n"))).toList
    Run.setStatus (if found.isEmpty then 1 else 0)
  match arguments with
  | "-W" :: words :: rest => given (rest.headD "") ((words.splitOn " ").filter (· != ""))
  | "-b" :: rest | "-A" :: "builtin" :: rest => given (rest.headD "") names
  | "-v" :: rest | "-A" :: "variable" :: rest =>
    given (rest.headD "") ((Declarations.sorted m).map (·.1))
  | "-A" :: "function" :: rest =>
    given (rest.headD "") ((Declarations.sortedFunctions m).map (·.1))
  | "-k" :: rest => given (rest.headD "") Grammar.keywords
  | "-a" :: rest => given (rest.headD "") (m.aliases.map (·.1))
  | _ => Run.setStatus 1

/-- A built-in command by its name; the declaring ones and those that run commands are not among
them. -/
def find? (name : String) : Option (List String → Run Unit) :=
  match name with
  | ":" | "true" => some fun _ => Run.setStatus 0
  | "false" => some fun _ => Run.setStatus 1
  | "echo" => some fun arguments => do
    say "echo" (Printing.echo ((← Run.get).hasShellOption "xpg_echo") arguments)
  | "printf" => some (printfWith none)
  | "read" => some Reading.read
  | "exit" => some exit
  | "return" => some leave
  | "break" => some (loopControl "break" .leaveLoop)
  | "continue" => some (loopControl "continue" .nextRound)
  | "set" => some Settings.set
  | "shopt" => some Settings.shopt
  | "shift" => some shift
  | "unset" => some Declarations.unset
  | "cd" => some Directories.change
  | "pwd" => some Directories.tell
  | "dirs" => some Directories.list
  | "pushd" => some Directories.push
  | "popd" => some Directories.pop
  | "test" => some (test name)
  | "[" => some fun words =>
    if words.getLast? = some "]" then test name words.dropLast else Run.fail 2 "[: missing \x60]'"
  | "let" => some «let»
  | "kill" => some Signals.kill
  | "trap" => some Signals.trap
  | "wait" => some Jobs.wait
  | "jobs" => some Jobs.list
  | "disown" => some Jobs.disown
  | "getopts" => some getopts
  | "umask" => some umask
  | "ulimit" => some ulimit
  | "alias" => some abbreviate
  | "unalias" => some unalias
  | "caller" => some caller
  | "enable" => some enable
  | "hash" => some hash
  | "compgen" => some compgen
  | "times" => some fun _ => say "times" "0m0.000s 0m0.000s\n0m0.000s 0m0.000s\n".toList
  | "fg" => some fun _ => Run.fail 1 "fg: no job control"
  | "bg" => some fun _ => Run.fail 1 "bg: no job control"
  | "logout" => some fun _ => Run.fail 1 "logout: not login shell: use \x60exit'"
  | "suspend" => some fun _ => Run.fail 1 "suspend: cannot suspend: no job control"
  | "bind" => some fun _ => do
    Run.complain "bind: warning: line editing not enabled"
    Run.setStatus 0
  | "compopt" => some fun _ => Run.fail 1 "compopt: not currently executing completion function"
  | "complete" | "fc" | "help" | "history" => some fun _ => Run.setStatus 0
  | _ => none

end ActionServer.Shell.Builtins
