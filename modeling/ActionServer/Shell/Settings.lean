import ActionServer.Shell.Declarations

/-!
# Options

The options of the shell are switched by `set`, by their letters or their names, and by `shopt`. Both
list them too, as they are or as commands that make them so.
-/

namespace ActionServer.Shell.Settings

/-- Writes a text. -/
def say (text : String) : Run Unit := do
  let _ ← Run.put 1 text.toList
  return ()

/-- An option as a listing has it. -/
def row (name : String) (on : Bool) : String :=
  let blanks := String.ofList (List.replicate (15 - name.length) ' ')
  name ++ blanks ++ (if on then "\ton\n" else "\toff\n")

/-- Lists the options of `set`. -/
def listOptions (asCommands : Bool) (isWanted : String → Bool) : Run Unit := do
  let m ← Run.get
  let names := (Options.all.map (·.1)).filter isWanted
  say (String.join (names.map fun name =>
    let on := m.hasOption name
    if asCommands then (if on then s!"set -o {name}\n" else s!"set +o {name}\n") else row name on))

/-- Switches an option; one of two ways to edit lines excludes the other. -/
def switch (on : Bool) (name : String) (m : Machine) : Machine :=
  let m := if on && name = "vi" then m.setOption false "emacs"
    else if on && name = "emacs" then m.setOption false "vi"
    else m
  m.setOption on name

def isOption (name : String) : Bool := Options.all.any fun o => o.1 == name

def setUsage : String :=
  "set: usage: set [-abefhkmnptuvxBCEHPT] [-o option-name] [--] [-] [arg ...]"

/-- A letter among options that is no option. -/
def unknownLetter? : List String → Option Char
  | [] => none
  | a :: rest =>
    match a.toList with
    | ['-'] | ['-', '-'] | ['+'] | [] => none
    | sign :: letters =>
      if sign = '-' ∨ sign = '+' then
        match letters.find? fun c => c != 'o' && (Options.named? c).isNone with
        | some c => some c
        | none =>
          let takesName := letters.contains 'o'
          if takesName then
            match rest with
            | _ :: rest => unknownLetter? rest
            | [] => none
          else unknownLetter? rest
      else none

/-- Switches options by letters. -/
def switchLetters (on : Bool) (letters : List Char) (m : Machine) : Machine :=
  letters.foldl (fun m c =>
    match Options.named? c with
    | some name => switch on name m
    | none => m) m

/-- Sets options and arguments. -/
def apply : List String → Run Unit
  | [] => return ()
  | "--" :: rest => Run.modify fun m => { m with arguments := rest }
  | "-" :: rest =>
    Run.modify fun m =>
      let m := (m.setOption false "xtrace").setOption false "verbose"
      if rest.isEmpty then m else { m with arguments := rest }
  | a :: rest =>
    match a.toList with
    | sign :: letters =>
      if (sign = '-' ∨ sign = '+') ∧ letters ≠ [] then do
        let on := sign == '-'
        let isOption (name : String) : Bool := name.toList.head? == some '-' && 1 < name.length
        if letters.contains 'o' then
          match rest with
          | name :: more =>
            if isOption name then do
              Run.modify (switchLetters on letters)
              listOptions (!on) fun _ => true
              apply (name :: more)
            else if Settings.isOption name then do
              Run.modify fun m => switch on name (switchLetters on letters m)
              apply more
            else Run.fail 2 s!"set: {name}: invalid option name"
          | [] => do
            Run.modify (switchLetters on letters)
            listOptions (!on) fun _ => true
        else do
          Run.modify (switchLetters on letters)
          apply rest
      else Run.modify fun m => { m with arguments := a :: rest }
    | [] => Run.modify fun m => { m with arguments := a :: rest }

/-- Sets options and arguments, or lists the variables and functions. -/
def set (arguments : List String) : Run Unit := do
  match unknownLetter? arguments with
  | some c => do
    Run.complain s!"set: -{c}: invalid option"
    Run.tell setUsage
    Run.setStatus 2
  | none => do
    Run.setStatus 0
    if arguments.isEmpty then do
      let m ← Run.get
      let wanted := (Declarations.sorted m).filter fun e => e.2.isSet
      Declarations.say (wanted.map fun (name, v) => Declarations.listed name v)
      unless m.hasOption "posix" do
        Declarations.say ((Declarations.sortedFunctions m).map fun (name, f) =>
          Listing.definition name false f.body)
    else apply arguments

def shoptUsage : String := "shopt: usage: shopt [-pqsu] [-o] [optname ...]"

/-- The option letters of `shopt` in front of the names. -/
def shoptLetters (letters : List Char) : List String → Except Char (List Char × List String)
  | [] => .ok (letters, [])
  | a :: rest =>
    match a.toList with
    | ['-', '-'] => .ok (letters, rest)
    | '-' :: c :: cs =>
      match (c :: cs).find? fun c => !"pqsuo".toList.contains c with
      | some c => .error c
      | none => shoptLetters (letters ++ c :: cs) rest
    | _ => .ok (letters, a :: rest)

/-- Lists options of `shopt`. -/
def listShell (asCommands : Bool) (names : List String) : Run Unit := do
  let m ← Run.get
  say (String.join (names.map fun name =>
    let on := m.hasShellOption name
    if asCommands then (if on then s!"shopt -s {name}\n" else s!"shopt -u {name}\n")
    else row name on))

/-- Goes through options by their names: switches them, or tells whether they are on. -/
def eachOption (ofSet : Bool) (on : Option Bool) (quiet asCommands : Bool) : List String → Run Unit
  | [] => return ()
  | name :: rest => do
    let m ← Run.get
    let isKnown := if ofSet then isOption name else Options.shell.contains name
    if !isKnown then
      if ofSet then Run.complain s!"shopt: {name}: invalid option name"
      else Run.fail 1 s!"shopt: {name}: invalid shell option name"
    else
      match on with
      | some on =>
        Run.modify fun m => if ofSet then switch on name m else m.setShellOption on name
      | none => do
        let isOn := if ofSet then m.hasOption name else m.hasShellOption name
        if !isOn then Run.setStatus 1
        if !quiet then
          if ofSet then listOptions asCommands (· == name) else listShell asCommands [name]
    eachOption ofSet on quiet asCommands rest

/-- Switches options of the shell, or lists them. -/
def shopt (arguments : List String) : Run Unit := do
  match shoptLetters [] arguments with
  | .error c => do
    Run.complain s!"shopt: -{c}: invalid option"
    Run.tell shoptUsage
    Run.setStatus 2
  | .ok (letters, names) => do
    let has (c : Char) : Bool := letters.contains c
    if has 's' && has 'u' then
      Run.fail 1 "shopt: cannot set and unset shell options simultaneously"
    else do
      Run.setStatus 0
      let on : Option Bool := if has 's' then some true else if has 'u' then some false else none
      if names.isEmpty then do
        let m ← Run.get
        if has 'q' then return ()
        else if has 'o' then
          listOptions (has 'p') fun name => (on.map (· == m.hasOption name)).getD true
        else
          listShell (has 'p')
            (Options.shell.filter fun name => (on.map (· == m.hasShellOption name)).getD true)
      else eachOption (has 'o') on (has 'q') (has 'p') names

end ActionServer.Shell.Settings
