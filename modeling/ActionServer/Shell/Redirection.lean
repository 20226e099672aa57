import ActionServer.Shell.Conditions
import ActionServer.Shell.Expansion

/-!
# Redirections

A redirection makes a descriptor lead somewhere else: to a file, to where another descriptor leads, to
a text of the script, or nowhere. Some paths name devices and not files.
-/

namespace ActionServer.Shell

/-- What the shell says of a path that cannot be used. -/
def faultReason : FileFault → String
  | .notFound | .nulByte | .notUtf8 => "No such file or directory"
  | .notADirectory => "Not a directory"
  | .isADirectory => "Is a directory"
  | .nameTooLong => "File name too long"

namespace Redirection

/-- What a path names, for reading. -/
def openSource (path : String) : Run (Except String Channel) := do
  let m ← Run.get
  if path = "/dev/null" then return .ok .nothing
  match Conditions.deviceDescriptor? path with
  | some d => return match m.channel? d with
    | some c => .ok c
    | none => .error "No such file or directory"
  | none =>
    match ← Run.stat path with
    | .ok (.file bytes) => return .ok (← Run.addText (Octets.chars bytes))
    | .ok .directory => return .ok (.file [])
    | .error e =>
      return if Conditions.usualDirectories.contains path then .ok (.file [])
        else .error (faultReason e)

/-- The place of a file that is to be written, which need not be there yet. -/
def place (files : FileSystem) (path : String) : Except FileFault (List String) :=
  let full := Path.resolveFrom files.workDir path
  if path = "" then .error .notFound
  else
    match files.tree.locate full with
    | .ok names =>
      match files.tree.at? names with
      | some .directory => .error .isADirectory
      | _ => .ok names
    | .error .notFound =>
      let segments := Path.segments full
      match segments.getLast? with
      | none | some "" => .error .isADirectory
      | some last =>
        match files.tree.locate ("/".intercalate segments.dropLast ++ "/") with
        | .ok dir => .ok (dir ++ [last])
        | .error e => .error e
    | .error e => .error e

/-- What a path names, for writing: from the beginning, or behind what is there. Where that is asked
for, a file that is there stays as it is. -/
def openTarget (path : String) (append keep : Bool) : Run (Except String Channel) := do
  let m ← Run.get
  if path = "/dev/null" then return .ok .nothing
  match Conditions.deviceDescriptor? path with
  | some d => return match m.channel? d with
    | some c => .ok c
    | none => .error "No such file or directory"
  | none => do
    let files ← Run.files
    match place files (Machine.pathOf path) with
    | .error e =>
      return .error (if Conditions.usualDirectories.contains path then faultReason .isADirectory
        else faultReason e)
    | .ok names =>
      let isThere := (files.tree.at? names).isSome
      if keep && isThere then return .error "cannot overwrite existing file"
      else do
        if !append || !isThere then Run.update fun s => ((), s.setFile names [])
        return .ok (.file names)

/-- Tells of a redirection that is not possible. -/
def refuse (subject reason : String) : Run Bool := do
  Run.fail 1 s!"{subject}: {reason}"
  return false

/-- Connects descriptors. -/
def connect (descriptors : List Nat) (channel : Option Channel) : Run Unit := do
  Run.modify fun m => descriptors.foldl (fun m d => m.connect d channel) m
  Run.hold

/-- Connects descriptors with what has been opened, or tells why that is not possible. -/
def connectTo (descriptors : List Nat) (path : String) (opened : Except String Channel) :
    Run Bool := do
  match opened with
  | .ok channel => do
    connect descriptors (some channel)
    return true
  | .error reason => refuse path reason

/-- Whether a word after `>&` names a descriptor. -/
def isDescriptorText (s : String) : Bool :=
  match s.toList.reverse with
  | ['-'] => true
  | '-' :: ds => ds.all Char.isDigit
  | ds => !ds.isEmpty && ds.all Char.isDigit

/-- Makes a descriptor lead where another one leads, or nowhere. -/
def copy (descriptor : Nat) (source target : String) : Run Bool := do
  if target = "-" then do
    connect [descriptor] none
    return true
  else if !isDescriptorText target then refuse source "ambiguous redirect"
  else
    let digits := target.toList.takeWhile Char.isDigit
    let other := Words.number 10 digits
    match (← Run.get).channel? other with
    | some channel => do
      connect [descriptor] (some channel)
      if target.toList.drop digits.length = ['-'] ∧ other ≠ descriptor then connect [other] none
      return true
    | none => refuse source "Bad file descriptor"

/-- The first descriptor that is chosen where a script leaves that to the shell. -/
def firstChosen : Nat := 10

/-- A descriptor that leads nowhere yet. -/
def choose (m : Machine) : Nat :=
  let limit := firstChosen + m.descriptors.length
  ((List.range limit).find? fun d => firstChosen ≤ d && (m.channel? d).isNone).getD limit

/-- The descriptors that a redirection changes, given those that it changes usually; nothing if there
is none. A descriptor that is chosen is noted in its variable. -/
def descriptors? (source : RedirectSource) (kind : RedirectKind) (target : String)
    (usual : List Nat) : Run (Option (List Nat)) := do
  match source with
  | .usual => return some usual
  | .number d => return some [d]
  | .variable name => do
    let m ← Run.get
    if target = "-" && (kind = .copyInput || kind = .copyOutput) then
      match Conditions.integer? ((m.get? name).getD "") with
      | some d => return some [d.toNat]
      | none => do
        let _ ← refuse name "Bad file descriptor"
        return none
    else
      let d := choose m
      if ← Assigning.put name none false (toString d) then return some [d]
      else do
        let _ ← refuse name "cannot assign fd to variable"
        return none

/-- Does something with the descriptors that a redirection changes. -/
def withDescriptors (source : RedirectSource) (kind : RedirectKind) (target : String)
    (usual : List Nat) (use : List Nat → Run Bool) : Run Bool := do
  match ← descriptors? source kind target usual with
  | some descriptors => use descriptors
  | none => return false

/-- Carries out a redirection; tells whether that was possible. -/
def apply (substitute : Expansion.Substitute) (n : Nat) : Redirect → Run Bool
  | .mk source kind target _ _ => do
    match kind with
    | .document _ => do
      let text ← Expansion.text substitute n target.parts
      withDescriptors source kind text [0] fun ds => do
        connectTo ds text (.ok (← Run.addText text.toList))
    | .line => do
      let text ← Expansion.text substitute n target.parts
      withDescriptors source kind text [0] fun ds => do
        connectTo ds text (.ok (← Run.addText (text.toList ++ ['\n'])))
    | _ => do
      match ← Expansion.allFields substitute n [target] with
      | [text] =>
        let keeps := (← Run.get).hasOption "noclobber"
        let onto (usual : Nat) (use : List Nat → Run Bool) : Run Bool :=
          withDescriptors source kind text [usual] use
        let write (append keep : Bool) : Run Bool :=
          onto 1 fun ds => do connectTo ds text (← openTarget text append keep)
        match kind with
        | .readFrom =>
          onto 0 fun ds => do connectTo ds text (← openSource text)
        | .readWrite =>
          onto 0 fun ds => do
            match ← openTarget text true false with
            | .ok (.file names) => do
              let id ← Run.update fun s => s.addSpot names
              connectTo ds text (.ok (.spot id))
            | opened => connectTo ds text opened
        | .writeTo => write false keeps
        | .overwrite => write false false
        | .append => write true false
        | .bothTo => connectTo [1, 2] text (← openTarget text false keeps)
        | .bothAppend => connectTo [1, 2] text (← openTarget text true false)
        | .copyInput =>
          onto 0 fun ds => copy (ds.headD 0) target.source text
        | .copyOutput =>
          if (source = .usual || source = .number 1) && !isDescriptorText text then
            connectTo [1, 2] text (← openTarget text false keeps)
          else onto 1 fun ds => copy (ds.headD 1) target.source text
        | .document _ | .line => return true
      | _ => refuse target.source "ambiguous redirect"

/-- Carries out redirections until one is not possible. -/
def applyAll (substitute : Expansion.Substitute) (n : Nat) : List Redirect → Run Bool
  | [] => return true
  | r :: rest => do
    if ← apply substitute n r then applyAll substitute n rest else return false

/-- The descriptors that a redirection can change for as long as a command runs. -/
def touched : Redirect → List Nat
  | .mk (.number 1) .copyOutput _ _ _ => [1, 2]
  | .mk (.number d) _ _ _ _ => [d]
  | .mk (.variable _) _ _ _ _ => []
  | .mk .usual kind _ _ _ =>
    match kind with
    | .readFrom | .readWrite | .copyInput | .document _ | .line => [0]
    | .writeTo | .overwrite | .append => [1]
    | .copyOutput | .bothTo | .bothAppend => [1, 2]

/-- Does something with descriptors redirected for as long as it takes. -/
def around (substitute : Expansion.Substitute) (n : Nat) (redirects : List Redirect)
    (r : Run Unit) : Run Unit := do
  if redirects.isEmpty then r
  else
    let before ← Run.get
    let changed := redirects.flatMap touched
    let kept := changed.filterMap before.channel?
    Run.modify fun m => { m with kept := kept ++ m.kept }
    let result ← Run.attempt do
      if ← applyAll substitute n redirects then r
    Run.modify fun m =>
      { changed.foldl (fun m d => m.connect d (before.channel? d)) m with kept := before.kept }
    Run.hold
    Run.sweep
    Run.resume result

end Redirection

end ActionServer.Shell
