import ActionServer.Shell.Builtins

/-!
# What names of commands stand for

A name can be an alias, a word of the language, a function, a built-in command or a program, and is
taken for the first of these. The others can be asked for too.
-/

namespace ActionServer.Shell.Naming

inductive Meaning where
  | abbreviation (text : String)
  | keyword
  | function (f : Function)
  | builtin
  /-- A program that has been found before. -/
  | known (path : String)
  | program (path : String)

/-- Built-in commands that there are programs for. -/
def twins : List String := ["[", "echo", "false", "kill", "printf", "pwd", "test", "true"]

/-- The paths of the programs of a name. -/
def paths (name : String) : List String :=
  if name.toList.contains '/' then (Programs.find? name).toList.map fun _ => name
  else if (Programs.find? name).isSome || twins.contains name then
    Programs.directories.map (· ++ name)
  else []

/-- All that a name stands for, first what it is taken for. -/
def meanings (m : Machine) (withFunctions : Bool) (name : String) : List Meaning :=
  let aliases := if m.hasShellOption "expand_aliases" then m.aliases.lookup name else none
  let function := if withFunctions then m.functions.lookup name else none
  aliases.toList.map .abbreviation ++
    (if Grammar.keywords.contains name then [.keyword] else []) ++
    function.toList.map .function ++
    (if Builtins.isBuiltin m name then [.builtin] else []) ++
    (m.found.lookup name).toList.map (fun e => .known e.1) ++
    (paths name).map .program

/-- What is told of a meaning. -/
def text (name : String) : Meaning → String
  | .abbreviation s => s!"{name} is aliased to \x60{s}'\n"
  | .keyword => s!"{name} is a shell keyword\n"
  | .function f => s!"{name} is a function\n" ++ Listing.definition name false f.body ++ "\n"
  | .builtin => s!"{name} is a shell builtin\n"
  | .known path => s!"{name} is hashed ({path})\n"
  | .program path => s!"{name} is {path}\n"

/-- The kind of a meaning in a word. -/
def kind : Meaning → String
  | .abbreviation _ => "alias"
  | .keyword => "keyword"
  | .function _ => "function"
  | .builtin => "builtin"
  | .known _ | .program _ => "file"

/-- What can be put in the place of a name. -/
def brief (name : String) : Meaning → String
  | .abbreviation s => s!"alias {name}=" ++ String.ofList (Quoting.single s.toList) ++ "\n"
  | .keyword | .function _ | .builtin => name ++ "\n"
  | .known path | .program path => path ++ "\n"

def path? : Meaning → Option String
  | .known path | .program path => some path
  | _ => none

/-- Writes texts. -/
def say (texts : List String) : Run Unit := do
  let _ ← Run.put 1 (String.join texts).toList
  return ()

/-- Tells of names one after the other; gives back how many of them stand for something. -/
def tellEach (tellOne : String → Run Bool) : List String → Run Nat
  | [] => return 0
  | name :: rest => do
    let found ← tellOne name
    let others ← tellEach tellOne rest
    return others + (if found then 1 else 0)

/-- The letters in front of the names. -/
def optionsOf (arguments names : List String) : List Char :=
  (arguments.take (arguments.length - names.length)).flatMap String.toList

/-- Tells what names stand for. -/
def type (arguments : List String) : Run Unit := do
  match Directories.letters "afptP".toList arguments with
  | .error c => do
    Run.complain s!"type: -{c}: invalid option"
    Builtins.misused "type: usage: type [-afptP] name [name ...]"
  | .ok names => do
    let options := optionsOf arguments names
    let has (c : Char) : Bool := options.contains c
    let m ← Run.get
    let tellOne (name : String) : Run Bool := do
      let all := meanings m (!has 'f') name
      let isKnown (x : Meaning) : Bool := match x with
        | .known _ => true
        | _ => false
      let all := if has 'a' then all.filter fun x => !isKnown x else all
      let all := if has 'P' then all.filter fun x => (path? x).isSome else all
      let shown := if has 'a' then all else all.take 1
      if all.isEmpty then
        if !(has 't' || has 'p' || has 'P') then Run.complain s!"type: {name}: not found"
        return false
      else do
        say (if has 't' then shown.map fun x => kind x ++ "\n"
          else if has 'p' || has 'P' then (shown.filterMap path?).map (· ++ "\n")
          else shown.map (text name))
        return true
    let found ← tellEach tellOne names
    Run.setStatus (if found = names.length then 0 else 1)

/-- Where programs are looked for if the usual places are asked for. -/
def usualPath (name : String) : String := "/bin/" ++ name

/-- Tells what names stand for, in a form that can be used or in one that can be read. -/
def describe (isBrief isUsual : Bool) (names : List String) : Run Unit := do
  let m ← Run.get
  let tellOne (name : String) : Run Bool := do
    let first := match (meanings m true name).head? with
      | some (.known path) | some (.program path) =>
        some (.program (if isUsual && !name.toList.contains '/' then usualPath name else path))
      | other => other
    match first with
    | some x => do
      say [if isBrief then brief name x else text name x]
      return true
    | none => do
      if !isBrief then Run.complain s!"command: {name}: not found"
      return false
  let found ← tellEach tellOne names
  Run.setStatus (if 0 < found then 0 else 1)

end ActionServer.Shell.Naming
