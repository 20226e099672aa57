import ActionServer.Shell.Redirection

/-!
# Directories

The working directory, and the stack of directories that `pushd` and `popd` keep. The working
directory is the first one of the stack.
-/

namespace ActionServer.Shell.Directories

/-- Writes what a command has to say; that it could not is the end of the command. -/
def say (command : String) (cs : List Char) : Run Unit := do
  match ← Run.put 1 cs with
  | none => Run.setStatus 0
  | some reason => Run.fail 1 s!"{command}: write error: {reason}"

/-- The working directory as scripts see it. -/
def current (m : Machine) : String := Octets.text (Utf8.encode m.workDir)

/-- The path of a directory, if there is one. -/
def directory? (path : String) : Run (Except String String) := do
  let files ← Run.files
  let full := Path.resolveFrom files.workDir (Machine.pathOf path)
  match files.tree.locate full with
  | .error e =>
    let names := (Path.segments full).filter fun s => s != "" && s != "."
    let plain := "/" ++ "/".intercalate names
    return if Conditions.usualDirectories.contains plain then .ok plain else .error (faultReason e)
  | .ok names =>
    match files.tree.at? names with
    | some .directory => return .ok ("/" ++ "/".intercalate names)
    | _ => return .error "Not a directory"

/-- Goes to a directory. -/
def enter (dir : String) : Run Unit :=
  Run.modify fun m =>
    let old := m.get? "PWD"
    let m := match old with
      | some s => m.setText "OLDPWD" s
      | none => m
    let m := { m with workDir := dir }
    m.setText "PWD" (current m)

/-- The directories that a path is looked for in. -/
def searched (m : Machine) (path : String) : List String :=
  let isLocal := path.toList.head? == some '/' || path.toList.head? == some '.'
  match m.get? "CDPATH" with
  | some s => if isLocal then [] else s.splitOn ":"
  | none => []

/-- The directory that a path leads to from one of some directories. -/
def searchFrom (path : String) : List String → Run (Option String)
  | [] => return none
  | dir :: rest => do
    let whole := if dir = "" then path else dir ++ "/" ++ path
    match ← directory? whole with
    | .ok found => return some found
    | .error _ => searchFrom path rest

/-- The option letters in front of the arguments; the error is one that is none. -/
def letters (known : List Char) : List String → Except Char (List String)
  | [] => .ok []
  | a :: rest =>
    match a.toList with
    | ['-', '-'] => .ok rest
    | '-' :: c :: cs =>
      match (c :: cs).find? fun c => !known.contains c with
      | some c => .error c
      | none => letters known rest
    | _ => .ok (a :: rest)

/-- Tells of an option that does not exist. -/
def refuse (command : String) (c : Char) (usage : String) : Run Unit := do
  Run.complain s!"{command}: -{c}: invalid option"
  Run.tell s!"{command}: usage: {usage}"
  Run.setStatus 2

/-- Goes to another directory. -/
def change (arguments : List String) : Run Unit := do
  let m ← Run.get
  match letters "LPe".toList arguments with
  | .error c => refuse "cd" c "cd [-L|[-P [-e]] [-@]] [dir]"
  | .ok names =>
    let target := match names with
      | [] => m.get? "HOME"
      | a :: _ => if a = "-" then m.get? "OLDPWD" else some a
    match target with
    | none => Run.fail 1 (if names.isEmpty then "cd: HOME not set" else "cd: OLDPWD not set")
    | some path =>
      if 1 < names.length then Run.fail 1 "cd: too many arguments"
      else if path = "" then Run.setStatus 0
      else do
        let found ← searchFrom path ((searched m path).filter (· != "."))
        match found with
        | some dir => do
          enter dir
          say "cd" (current (← Run.get) ++ "\n").toList
        | none => do
          match ← directory? path with
          | .error reason => Run.fail 1 s!"cd: {path}: {reason}"
          | .ok dir => do
            enter dir
            if names = ["-"] then say "cd" (current (← Run.get) ++ "\n").toList else Run.setStatus 0

/-- Tells the working directory. -/
def tell (arguments : List String) : Run Unit := do
  match letters "LP".toList arguments with
  | .error c => refuse "pwd" c "pwd [-LP]"
  | .ok _ => say "pwd" (current (← Run.get) ++ "\n").toList

/-- The stack. -/
def stack (m : Machine) : List String := current m :: m.directories

/-- A directory with a tilde for the beginning that is the home directory. -/
def shortened (m : Machine) (dir : String) : String :=
  match m.get? "HOME" with
  | some home =>
    if home = "" || home = "/" then dir
    else if dir = home then "~"
    else if (home ++ "/").toList.isPrefixOf dir.toList then
      "~" ++ String.ofList (dir.toList.drop home.length)
    else dir
  | none => dir

/-- Tells the stack on one line. -/
def tellStack (command : String) : Run Unit := do
  let m ← Run.get
  say command (" ".intercalate ((stack m).map (shortened m)) ++ "\n").toList

/-- The place in the stack that a sign and a number stand for. -/
inductive Spot where
  | place (i : Nat)
  | beyond
  | noNumber

/-- The place that an argument names, if it names one. -/
def spot? (m : Machine) (a : String) : Option Spot :=
  let size := (stack m).length
  match a.toList with
  | sign :: ds =>
    if sign != '+' && sign != '-' then none
    else if ds.isEmpty || !ds.all Char.isDigit then some .noNumber
    else
      let n := Words.number 10 ds
      if size ≤ n then some .beyond
      else some (.place (if sign = '+' then n else size - 1 - n))
  | [] => none

def dirsUsage : String := "dirs [-clpv] [+N] [-N]"

/-- Tells the stack in the way that options ask for. -/
def list (arguments : List String) : Run Unit := do
  let m ← Run.get
  let isLetters (a : String) : Bool :=
    match a.toList with
    | '-' :: c :: cs => (c :: cs).all fun c => "clpv".toList.contains c
    | _ => false
  let options := (arguments.filter isLetters).flatMap fun a => a.toList.drop 1
  let has (c : Char) : Bool := options.contains c
  let others := arguments.filter fun a => !isLetters a && a != "--"
  let shown (dir : String) : String := if has 'l' then dir else shortened m dir
  let numbered := (List.range (stack m).length).zip (stack m)
  match others with
  | a :: _ =>
    match spot? m a with
    | some (.place i) =>
      let dir := shown ((stack m)[i]?.getD "")
      say "dirs" (if has 'v' then s!" {i}  {dir}\n" else s!"{dir}\n").toList
    | some .beyond =>
      let n := String.ofList (a.toList.drop 1)
      Run.fail 1 s!"dirs: {n}: directory stack index out of range"
    | some .noNumber => do
      Run.complain s!"dirs: {a}: invalid number"
      Run.tell s!"dirs: usage: {dirsUsage}"
      Run.setStatus 2
    | none => do
      Run.complain s!"dirs: {a}: invalid argument"
      Run.tell s!"dirs: usage: {dirsUsage}"
      Run.setStatus 2
  | [] =>
    if has 'c' then do
      Run.modify fun m => { m with directories := [] }
      Run.setStatus 0
    else if has 'v' then
      let rows := numbered.map fun (i, dir) =>
        (if i < 10 then " " else "") ++ s!"{i}  " ++ shown dir ++ "\n"
      say "dirs" (String.join rows).toList
    else
      let separator := if has 'p' then "\n" else " "
      say "dirs" (separator.intercalate ((stack m).map shown) ++ "\n").toList

/-- Makes a stack the present one: goes to its first directory; tells whether that was possible. -/
def become (command : String) : List String → Run Bool
  | [] => return true
  | dir :: rest => do
    match ← directory? dir with
    | .error reason => do
      Run.fail 1 s!"{command}: {dir}: {reason}"
      return false
    | .ok found => do
      enter found
      Run.modify fun m => { m with directories := rest }
      return true

/-- Tells of a place that the stack does not have. -/
def refuseSpot (command : String) (m : Machine) (a : String) : Run Unit :=
  if m.directories.isEmpty then Run.fail 1 s!"{command}: directory stack empty"
  else
    let n := String.ofList (a.toList.drop 1)
    Run.fail 1 s!"{command}: {n}: directory stack index out of range"

/-- Puts a directory on the stack, or turns the stack. -/
def push (arguments : List String) : Run Unit := do
  let m ← Run.get
  let stays := arguments.contains "-n"
  let others := arguments.filter fun a => a != "-n" && a != "--"
  let finish (isDone : Bool) : Run Unit := if isDone then tellStack "pushd" else Run.setStatus 1
  match others with
  | [] =>
    match m.directories with
    | [] => Run.fail 1 "pushd: no other directory"
    | dir :: rest => do finish (← become "pushd" (dir :: current m :: rest))
  | [a] =>
    match if a = "-" then none else spot? m a with
    | some (.place i) =>
      let turned := (stack m).drop i ++ (stack m).take i
      finish (← become "pushd" turned)
    | some .beyond => refuseSpot "pushd" m a
    | some .noNumber => do
      Run.complain s!"pushd: {a}: invalid number"
      Run.tell "pushd: usage: pushd [-n] [+N | -N | dir]"
      Run.setStatus 2
    | none =>
      if stays then do
        Run.modify fun m => { m with directories := a :: m.directories }
        tellStack "pushd"
      else
        let target := if a = "-" then (m.get? "OLDPWD").getD a else a
        match ← directory? target with
        | .error reason => Run.fail 1 s!"pushd: {a}: {reason}"
        | .ok dir => do
          enter dir
          Run.modify fun after => { after with directories := current m :: m.directories }
          tellStack "pushd"
  | _ => Run.fail 1 "pushd: too many arguments"

/-- Takes a directory off the stack. -/
def pop (arguments : List String) : Run Unit := do
  let m ← Run.get
  let stays := arguments.contains "-n"
  let others := arguments.filter fun a => a != "-n" && a != "--"
  let without (i : Nat) : List String := m.directories.eraseIdx (i - 1)
  match others with
  | [] =>
    match m.directories with
    | [] => Run.fail 1 "popd: directory stack empty"
    | dir :: rest =>
      if stays then do
        Run.modify fun m => { m with directories := rest }
        tellStack "popd"
      else if ← become "popd" (dir :: rest) then tellStack "popd"
  | a :: _ =>
    match spot? m a with
    | some (.place i) =>
      if m.directories.isEmpty then Run.fail 1 "popd: directory stack empty"
      else if i = 0 then
        match m.directories with
        | dir :: rest => if ← become "popd" (dir :: rest) then tellStack "popd"
        | [] => return ()
      else do
        Run.modify fun m => { m with directories := without i }
        tellStack "popd"
    | some .beyond => refuseSpot "popd" m a
    | some .noNumber => do
      Run.complain s!"popd: {a}: invalid number"
      Run.tell "popd: usage: popd [-n] [+N | -N]"
      Run.setStatus 2
    | none => do
      Run.complain s!"popd: {a}: invalid argument"
      Run.tell "popd: usage: popd [-n] [+N | -N]"
      Run.setStatus 2

end ActionServer.Shell.Directories
