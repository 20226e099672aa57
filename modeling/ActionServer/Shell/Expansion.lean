import ActionServer.Shell.Assigning
import ActionServer.Shell.Fields
import ActionServer.Shell.Globbing
import ActionServer.Shell.Grammar

/-!
# Expanding words

Parameters, command substitutions and expressions are replaced by their values from left to right.
What stands outside quotes is then split into fields, and fields with special characters become the
paths that they stand for. How the commands of a substitution are run is passed in.
-/

namespace ActionServer.Shell

namespace Run

/-- What an action makes of the elements of a list, one after the other. -/
def collect {α β : Type} (f : α → Run (List β)) : List α → Run (List β)
  | [] => return []
  | a :: rest => do
    let first ← f a
    return first ++ (← collect f rest)

end Run

namespace Machine

/-- The characters that separate fields. -/
def separators (m : Machine) : List Char :=
  match m.separatorText? with
  | some s => s.toList
  | none => Fields.defaultSeparators

/-- How fields with special characters are taken. -/
def globbing (m : Machine) : Globbing :=
  let groups := m.hasShellOption "extglob"
  let excluded := match m.get? "GLOBIGNORE" with
    | some s => (s.splitOn ":").filter (· != "")
    | none => []
  { groups, anyCase := m.hasShellOption "nocaseglob"
    hidden := m.hasShellOption "dotglob" || !excluded.isEmpty
    deep := m.hasShellOption "globstar"
    excluded := excluded.map fun s => Pattern.ofMarks groups false (Mark.plain s.toList) }

end Machine

namespace Expansion

/-- What the commands of a text are run for: their output, or a path that leads to a pipe. -/
inductive Substitution where
  | output (text : List Char)
  | pipe (writes : Bool) (text : List Char)

/-- How a substitution is made. -/
abbrev Substitute := Substitution → Run (List Char)

/-- The value of a parameter, or the values of a list with their places. -/
inductive Content where
  | one (text : Option String)
  | many (isJoined : Bool) (entries : List (String × String))

/-- A parameter that has been looked up. -/
structure Found where
  /-- How it is told of. -/
  label : String
  name : String
  place : Option String
  content : Content

namespace Found

def texts (f : Found) : List String :=
  match f.content with
  | .one text => text.toList
  | .many _ entries => entries.map (·.2)

def isList (f : Found) : Bool :=
  match f.content with
  | .one _ => false
  | .many _ _ => true

/-- Whether the parameter counts as set; where that is asked for, an empty one does not. -/
def isSet (f : Found) (notEmpty : Bool) : Bool :=
  !f.texts.isEmpty && !(notEmpty && " ".intercalate f.texts == "")

end Found

/-- The pieces of the values of a list. -/
def listPieces (inQuotes isJoined : Bool) (texts : List String) : Run (List Piece) := do
  let separators := (← Run.get).separators
  let glue := separators.take 1
  let values := texts.map String.toList
  if isJoined && inQuotes then return Piece.ofResult true (glue.intercalate values)
  else
    let isStrict := !inQuotes && !glue.all Fields.isBlank
    return Piece.ofValues inQuotes (if isJoined then glue else [' ']) isStrict values

/-- The pieces of what has been made of a parameter's values. -/
def contentPieces (inQuotes : Bool) (f : Found) (change : String → String) : Run (List Piece) := do
  match f.content with
  | .one text => return Piece.ofResult inQuotes (change (text.getD "")).toList
  | .many isJoined entries => listPieces inQuotes isJoined (entries.map fun e => change e.2)

/-- Tells of a parameter without value, where that is an error. -/
def demand (label : String) (f : Found) : Run Unit := do
  match f.content with
  | .one none =>
    if (← Run.get).unsetIsError then do
      Run.fail 1 s!"{label}: unbound variable"
      Run.stop .exit
  | _ => return ()

/-- A change of characters, as one of texts. -/
def onChars (f : List Char → List Char) (s : String) : String := String.ofList (f s.toList)

/-- Changes the letters of a text that have the form of a pattern: the first one, or all of them. -/
def recase (how : Recasing) (all : Bool) (p : Pattern) : List Char → List Char
  | [] => []
  | c :: cs =>
    let change (c : Char) : Char :=
      if !p.holds [c] then c
      else match how with
        | .upper => c.toUpper
        | .lower => c.toLower
        | .toggle => if c.isLower then c.toUpper else c.toLower
    change c :: if all then cs.map change else cs

/-- A part of a list; a negative offset counts from the end, and a negative length is the place, from
the end, where the part stops. Nothing if the part would end before it begins. -/
def slice {α : Type} (xs : List α) (offset : Int) (length : Option Int) : Option (List α) :=
  let size : Int := xs.length
  let start := if offset < 0 then size + offset else offset
  if start < 0 ∨ size < start then some []
  else
    match length with
    | none => some (xs.drop start.toNat)
    | some n =>
      let stop := if n < 0 then size + n else min size (start + n)
      if stop < start then none else some ((xs.drop start.toNat).take (stop - start).toNat)

/-- A part of the values of an array: from a place on, so many of them. -/
def sliceValues (value : Value) (offset : Int) (length : Option Int) : Option (List String) :=
  let take (texts : List String) : Option (List String) :=
    match length with
    | none => some texts
    | some n => if n < 0 then none else some (texts.take n.toNat)
  match value with
  | .keyed _ => take ((value.entries.map (·.2)).drop (offset.toNat - 1))
  | _ =>
    let items := value.toIndexed
    let start := if offset < 0 then Indexed.stop items + offset else offset
    if start < 0 then some []
    else take ((items.filter fun (i, _) => start ≤ (i : Int)).map (·.2))

/-- What takes the place of a part that has the form of a pattern, given the part: an ampersand that is
not quoted stands for it. -/
def replacement (ampersands : Bool) (part : List Char) : List Mark → List Char
  | [] => []
  | a :: b :: rest =>
    if ampersands && a.isSpecial '\\' && (b.isSpecial '&' || b.isSpecial '\\') then
      b.char :: replacement ampersands part rest
    else if ampersands && a.isSpecial '&' then part ++ replacement ampersands part (b :: rest)
    else a.char :: replacement ampersands part (b :: rest)
  | [a] => if ampersands && a.isSpecial '&' then part else [a.char]

/-- The text of a prompt: escapes stand for what the shell knows. -/
def prompt (m : Machine) : List Char → List Char
  | '\\' :: c :: rest =>
    let text : List Char := match c with
      | 'n' => ['\n']
      | 'r' => ['\r']
      | 'a' => ['\x07']
      | 'e' => ['\x1b']
      | '\\' => ['\\', '\\']
      | '$' => ['#']
      | 'u' => "root".toList
      | 's' => "bash".toList
      | 'w' => m.workDir.toList
      | 'W' => (m.workDir.toList.reverse.takeWhile (· != '/')).reverse
      | 'j' => (toString m.jobs.length).toList
      | '#' | '!' => ['1']
      | '[' | ']' => []
      | c => ['\\', c]
    text ++ prompt m rest
  | c :: rest => c :: prompt m rest
  | [] => []

/-- What a tilde and the name behind it stand for. -/
def home? (m : Machine) (name : List Char) : Option String :=
  match String.ofList name with
  | "" => some ((m.get? "HOME").getD "/root")
  | "+" => m.get? "PWD"
  | "-" => m.get? "OLDPWD"
  | "root" => some "/root"
  | _ => none

/-- Replaces a tilde at the beginning of a word; in an assignment a name ends at a colon too. -/
def tilde (m : Machine) (inAssignment : Bool) (w : Parts) : Parts :=
  match w with
  | .plain '~' :: rest =>
    let isEnd (c : Char) : Bool := c == '/' || (inAssignment && c == ':')
    let front := rest.takeWhile fun
      | .plain c => !isEnd c
      | _ => false
    let name := front.filterMap fun
      | .plain c => some c
      | _ => none
    let after := rest.drop front.length
    let isWhole := match after with
      | [] => true
      | .plain _ :: _ => true
      | _ => false
    match isWhole, home? m name with
    | true, some dir => .quoted dir.toList :: after
    | _, _ => w
  | _ => w

/-- Replaces the tildes in a value that is assigned: at its beginning, and behind colons. -/
def tildes (m : Machine) (w : Parts) : Parts :=
  let rec behindColons : Parts → Parts
    | .plain ':' :: rest => .plain ':' :: tilde m true (behindColons rest)
    | p :: rest => p :: behindColons rest
    | [] => []
  tilde m true (behindColons w)

/-- A reader of commands that finds none. -/
def noCommands : Parse (List Char) := Words.ended

/-- The parts of a text between double quotes. -/
def reread (text : List Char) : Parts :=
  match Words.parts noCommands (Grammar.stepsFor text) (fun _ => false) true
      (Cursor.ofChars text 1 false) with
  | .ok (parts, _) => parts
  | .error _ => [.quoted text]

/-- The parameter that a text names. -/
def subject? (text : String) : Option Subject :=
  let (name, place) := Machine.splitPlace text
  let cs := name.toList
  let isParameter := Words.isName cs || (!cs.isEmpty && cs.all Char.isDigit) ||
    (match cs with
      | [c] => Words.isSign c
      | _ => false)
  if !isParameter || place == some "" then none
  else
    some (.mk false name (match place with
      | none => none
      | some "@" => some .all
      | some "*" => some .joined
      | some p => some (.place (reread p.toList))))

/-- The values of a variable without a place that is named: the place is known where the variable is a
reference. -/
def variableContent (name : String) (place : Option String) : Run Content := do
  let m ← Run.get
  let v := m.lookup? name
  Run.modify fun m => m.afterReading name
  match place with
  | none => return .one (m.parameter? name)
  | some "@" => return .many false ((v.map (·.entries)).getD [])
  | some "*" => return .many true ((v.map (·.entries)).getD [])
  | some p =>
    match v.map (·.value) with
    | some (Value.keyed items) => do
      if p = "" then Run.complain s!"{name}: bad array subscript"
      return .one (items.lookup p)
    | value => do
      let items := match v.map (·.isSet), value with
        | some true, some value => value.toIndexed
        | _, _ => []
      let i ← Run.calculate "" p.toList
      match Arithmetic.placeOf? items i with
      | some i => return .one (items.lookup i)
      | none => do
        Run.complain s!"{name}: bad array subscript"
        return .one none

/-- The arguments with their places. -/
def argumentEntries (m : Machine) : List (String × String) :=
  ((List.range m.arguments.length).map fun i => toString (i + 1)).zip m.arguments

/-- A text that a transformation makes of the value of a parameter. -/
def transformed (m : Machine) (how : Char) (text : String) : String :=
  match how with
  | 'Q' | 'K' | 'k' => onChars Quoting.reusable text
  | 'E' => onChars (fun cs => Words.dollarEscapes (cs.length + 1) cs) text
  | 'P' => onChars (prompt m) text
  | 'U' => text.map Char.toUpper
  | 'L' => text.map Char.toLower
  | 'u' => onChars (fun cs => match cs with
      | c :: rest => c.toUpper :: rest
      | [] => []) text
  | _ => text

/-- An assignment that makes a variable anew. -/
def assignment (name : String) (v : Variable) (text : Option String) : String :=
  let value := match text with
    | some s => "=" ++ onChars Quoting.reusable s
    | none => ""
  if v.letters = "" then name ++ value else s!"declare -{v.letters} {name}{value}"

mutual

/-- The pieces of a word. -/
def pieces (substitute : Substitute) : Nat → Parts → Run (List Piece)
  | 0, _ => Run.hang
  | n + 1, w => Run.collect (partPieces substitute n) w

def partPieces (substitute : Substitute) : Nat → WordPart → Run (List Piece)
  | 0, _ => Run.hang
  | _, .plain c => return [.char ⟨c, false⟩ false]
  | _, .quoted cs => return if cs.isEmpty then [.empty] else Piece.ofResult true cs
  | _, .command inQuotes text => return Piece.ofResult inQuotes (← substitute (.output text))
  | _, .pipe writes text => return Piece.ofResult true (← substitute (.pipe writes text))
  | _, .items _ => return []
  | n + 1, .arithmetic inQuotes expression => do
    let value ← Run.calculate "" (Piece.text (← pieces substitute n expression))
    return Piece.ofResult inQuotes (toString value).toList
  | n + 1, .parameter inQuotes subject use => usePieces substitute n inQuotes subject use

/-- Looks up a parameter. -/
def find (substitute : Substitute) : Nat → Subject → Run Found
  | 0, _ => Run.hang
  | n + 1, .mk true name subscript => do
    let m ← Run.get
    let isReference := ((m.bound? name).map (·.attributes.isReference)).getD false
    if isReference && subscript.isNone then do
      if ((m.bound? name).bind (·.first?)).isNone then
        Run.giveUp s!"{name}: invalid indirect expansion"
      else return ⟨name, name, none, .one (some (m.target name))⟩
    else
      let holder ← find substitute n (.mk false name subscript)
      let text := match holder.content with
        | .one text => text
        | .many _ entries => some (" ".intercalate (entries.map (·.2)))
      match text with
      | none => Run.giveUp s!"{holder.label}: invalid indirect expansion"
      | some text =>
        match subject? text with
        | none => Run.giveUp s!"{text}: invalid variable name"
        | some subject => find substitute n subject
  | n + 1, .mk false name subscript => do
    let m ← Run.get
    match subscript with
    | none =>
      match name with
      | "@" => return ⟨name, name, none, .many false (argumentEntries m)⟩
      | "*" => return ⟨name, name, none, .many true (argumentEntries m)⟩
      | _ => do
        if m.isCircular name then do
          Run.complain s!"warning: {name}: circular name reference"
          return ⟨name, name, none, .one none⟩
        else
          let (found, place) ← Assigning.locate name none
          return ⟨name, found, place, ← variableContent found place⟩
    | some .all => do
      let (found, _) ← Assigning.locate name none
      return ⟨name ++ "[@]", found, some "@", ← variableContent found (some "@")⟩
    | some .joined => do
      let (found, _) ← Assigning.locate name none
      return ⟨name ++ "[*]", found, some "*", ← variableContent found (some "*")⟩
    | some (.place w) => do
      let text := String.ofList (Piece.text (← pieces substitute n w))
      let (found, _) ← Assigning.locate name none
      let content ← variableContent found (some text)
      return ⟨s!"{name}[{text}]", found, some text, content⟩

/-- The pieces of a parameter in one of its uses. -/
def usePieces (substitute : Substitute) : Nat → Bool → Subject → ParameterUse → Run (List Piece)
  | 0, _, _, _ => Run.hang
  | n + 1, inQuotes, subject, use => do
    let pattern (w : Parts) (anyCase : Bool) : Run Pattern := do
      let ms := Piece.marks (← pieces substitute n w)
      let m ← Run.get
      return Pattern.ofMarks (m.hasShellOption "extglob") anyCase ms
    let word (w : Parts) : Run (List Piece) := do
      let ps ← pieces substitute n (tilde (← Run.get) false w)
      return if inQuotes then (if ps.isEmpty then [.hollow] else ps) else Piece.loosen ps
    let change (f : List Char → List Char) : Run (List Piece) := do
      let found ← find substitute n subject
      demand found.label found
      contentPieces inQuotes found (onChars f)
    let replaceWith (w : Parts) : Run (List Char → List Char) := do
      let ms := Piece.marks (← pieces substitute n (tilde (← Run.get) false w))
      let ampersands := (← Run.get).hasShellOption "patsub_replacement"
      return fun part => replacement ampersands part ms
    match use with
    | .value => do
      let found ← find substitute n subject
      demand found.label found
      contentPieces inQuotes found id
    | .bare => do
      let found ← find substitute n subject
      demand ("$" ++ found.label) found
      contentPieces inQuotes found id
    | .length => do
      let found ← find substitute n subject
      match found.content with
      | .one text => do
        demand found.label found
        return Piece.ofResult inQuotes (toString (text.getD "").length).toList
      | .many _ entries => do
        let m ← Run.get
        let v := m.lookup? found.name
        let isArray := (v.map fun v => v.isSet && v.value.isArray).getD false
        if m.unsetIsError && found.place.isSome && !isArray then do
          Run.fail 1 s!"{found.name}: unbound variable"
          Run.stop .exit
        return Piece.ofResult inQuotes (toString entries.length).toList
    | .places => do
      let found ← find substitute n subject
      match found.content with
      | .one _ => return []
      | .many isJoined entries => listPieces inQuotes isJoined (entries.map (·.1))
    | .names each => do
      let .mk _ name _ := subject
      let m ← Run.get
      let names := (m.bindings.map (·.1)).filter fun s => name.toList.isPrefixOf s.toList
      listPieces inQuotes (!each) (names.mergeSort fun a b => decide (a ≤ b))
    | .default empty w => do
      let found ← find substitute n subject
      if found.isSet empty then contentPieces inQuotes found id else word w
    | .assign empty w => do
      let found ← find substitute n subject
      if found.isSet empty then contentPieces inQuotes found id
      else do
        let text := Piece.text (← pieces substitute n (tilde (← Run.get) true w))
        if found.isList && found.place.isSome then
          Run.giveUp s!"{found.label}: bad array subscript"
        else if !Words.isName found.name.toList then
          Run.giveUp s!"${found.name}: cannot assign in this way"
        else if ← Assigning.put found.name found.place false (String.ofList text) then do
          let content ← variableContent found.name found.place
          contentPieces inQuotes { found with content } id
        else Run.stop .abandon
    | .require empty w => do
      let found ← find substitute n subject
      if found.isSet empty then contentPieces inQuotes found id
      else do
        let text := Piece.text (← pieces substitute n (tilde (← Run.get) false w))
        let reason := if !text.isEmpty then String.ofList text
          else if empty then "parameter null or not set" else "parameter not set"
        Run.fail 1 s!"{found.label}: {reason}"
        Run.stop .exit
    | .alternative empty w => do
      let found ← find substitute n subject
      if found.isSet empty then word w else return if inQuotes then [.hollow] else []
    | .dropStart longest w => do
      let p ← pattern (tilde (← Run.get) false w) false
      change (p.dropStart longest)
    | .dropEnd longest w => do
      let p ← pattern (tilde (← Run.get) false w) false
      change (p.dropEnd longest)
    | .replace all w by_ => do
      let p ← pattern (tilde (← Run.get) false w) ((← Run.get).hasShellOption "nocasematch")
      let by_ ← replaceWith by_
      change fun cs => p.replace all by_ (cs.length + 1) cs
    | .replaceStart w by_ => do
      let p ← pattern w ((← Run.get).hasShellOption "nocasematch")
      let by_ ← replaceWith by_
      change (p.replaceStart by_)
    | .replaceEnd w by_ => do
      let p ← pattern w ((← Run.get).hasShellOption "nocasematch")
      let by_ ← replaceWith by_
      change (p.replaceEnd by_)
    | .recase how all w => do
      let p ← pattern (if w.isEmpty then [.plain '?'] else w) false
      change (recase how all p)
    | .slice offset length => do
      let found ← find substitute n subject
      demand found.label found
      let offset ← Run.calculate found.label (Piece.text (← pieces substitute n offset))
      let length ← match length with
        | some w => do pure (some (← Run.calculate found.label (Piece.text (← pieces substitute n w))))
        | none => pure none
      let tooShort : Run (List Piece) :=
        Run.giveUp s!"{length.getD 0}: substring expression < 0"
      match found.content with
      | .one text =>
        match slice (text.getD "").toList offset length with
        | some part => return Piece.ofResult inQuotes part
        | none => tooShort
      | .many isJoined _ => do
        let m ← Run.get
        let texts := match found.place with
          | none =>
            if (length.map fun l => decide (l < 0)).getD false then none
            else slice ((if offset = 0 then [m.zero] else [""]) ++ m.arguments) offset length
          | some _ =>
            match (m.lookup? found.name).filter (·.isSet) with
            | some v => sliceValues v.value offset length
            | none => some []
        match texts with
        | some texts => listPieces inQuotes isJoined texts
        | none => tooShort
    | .transform how => do
      let found ← find substitute n subject
      transform n inQuotes how found
    | .badTransform text => do
      let found ← find substitute n subject
      if found.texts.isEmpty then return if inQuotes then [.hollow] else []
      else do
        let shown := String.ofList text
        Run.fail 1 s!"{shown}: bad substitution"
        Run.stop .exit
    | .bad text => do
      let shown := String.ofList text
      Run.giveUp s!"{shown}: bad substitution"
    | .unclosed closer text => do
      let quoted := if closer = '\x60' then "\"\x60\"" else s!"\x60{closer}'"
      Run.giveUp (s!"bad substitution: no closing {quoted} in " ++ String.ofList text)
where
  /-- The pieces of a parameter that is transformed. -/
  transform (n : Nat) (inQuotes : Bool) (how : Char) (found : Found) : Run (List Piece) := do
    let m ← Run.get
    let v := m.lookup? found.name
    match how, found.content, v with
    | 'a', .one _, some v => return Piece.ofResult inQuotes v.letters.toList
    | 'a', .many isJoined entries, some v =>
      listPieces inQuotes isJoined (entries.map fun _ => v.letters)
    | 'a', .many isJoined _, none => listPieces inQuotes isJoined []
    | 'a', .one _, none => return Piece.ofResult inQuotes []
    | 'A', .one text, some v =>
      if text.isNone && v.letters = "" then return Piece.ofResult inQuotes []
      else return Piece.ofResult inQuotes (assignment found.name v text).toList
    | 'A', .many _ _, some v =>
      if v.letters = "" then return Piece.ofResult inQuotes (assignment found.name v v.first?).toList
      else return Piece.ofResult inQuotes (v.declaration found.name).toList
    | 'A', .many _ entries, none =>
      if entries.isEmpty then return Piece.ofResult inQuotes []
      else
        let quoted := entries.map fun e => onChars Quoting.reusable e.2
        return Piece.ofResult inQuotes ("set -- " ++ " ".intercalate quoted).toList
    | 'A', .one _, none => return Piece.ofResult inQuotes []
    | 'K', .many _ _, some v =>
      let shown := v.entries.map fun e =>
        let key := if v.value.isKeyed then Variable.shownKey e.1 else e.1.toList
        key ++ ' ' :: Quoting.value e.2.toList
      let text := [' '].intercalate shown ++ (if v.value.isKeyed then [' '] else [])
      return Piece.ofResult inQuotes text
    | 'k', .many isJoined entries, some _ =>
      listPieces inQuotes isJoined (entries.flatMap fun e => [e.1, e.2])
    | 'P', .one (some text), _ =>
      pieces substitute n [.quoted (transformed m 'P' text).toList]
    | _, .one none, _ => do
      demand found.label found
      return Piece.ofResult inQuotes []
    | _, _, _ => contentPieces inQuotes found (transformed m how)

end

/-- The text of a word that is not split. -/
def text (substitute : Substitute) (n : Nat) (w : Parts) : Run String := do
  let w := tilde (← Run.get) false w
  return String.ofList (Piece.text (← pieces substitute n w))

/-- The text of a value that is assigned. -/
def valueText (substitute : Substitute) (n : Nat) (w : Parts) : Run String := do
  let w := tildes (← Run.get) w
  return String.ofList (Piece.text (← pieces substitute n w))

/-- The marks of a word that is not split. -/
def marks (substitute : Substitute) (n : Nat) (w : Parts) : Run (List Mark) := do
  let w := tilde (← Run.get) false w
  return Piece.marks (← pieces substitute n w)

/-- The paths that a field stands for, or its text. -/
def paths (field : List Mark) : Run (List String) := do
  let m ← Run.get
  let text := String.ofList (Mark.text field)
  if m.hasOption "noglob" || !Globbing.isPattern (m.hasShellOption "extglob") false field then
    return [text]
  else
    match m.globbing.expand (← Run.files) field with
    | [] =>
      if m.hasShellOption "failglob" then Run.giveUp s!"no match: {text}"
      else return if m.hasShellOption "nullglob" then [] else [text]
    | found => return found

/-- The fields of a word. -/
def fields (substitute : Substitute) (n : Nat) (w : Parts) : Run (List String) := do
  let m ← Run.get
  let w := match Words.assignment? w with
    | some a =>
      let front := w.take (w.length - a.value.length)
      front ++ tildes m a.value
    | none => tilde m false w
  let ps ← pieces substitute n w
  let separators := (← Run.get).separators
  Run.collect paths (Fields.split separators ps)

/-- The fields of words, whose braces are expanded first. -/
def allFields (substitute : Substitute) (n : Nat) (words : List Word) : Run (List String) := do
  let braces := (← Run.get).hasOption "braceexpand"
  Run.collect (fields substitute n)
    (words.flatMap fun w => if braces then Braces.ofParts w.parts else [w.parts])

/-- The place that a text names, which is a key or an expression. -/
def placeIn (substitute : Substitute) (n : Nat) (isKey : Bool) (text : List Char) :
    Run (List Char) := do
  let steps := Grammar.stepsFor text
  let start := { Cursor.ofChars text 1 false with isVerbatim := true }
  match Words.parts (Grammar.inner steps) steps (fun _ => false) (!isKey) start with
  | .ok (parts, _) => return Piece.text (← pieces substitute n parts)
  | .error _ => return text

/-- A word in which a place in an array is expanded, if it begins with one whose text is more than a
plain key or expression. -/
def placed (substitute : Substitute) (n : Nat) (word : String) : Run String := do
  let cs := word.toList
  let name := cs.takeWhile Words.isNameChar
  match cs.drop name.length with
  | '[' :: rest =>
    match Arithmetic.bracketed 0 rest with
    | some (place, after) =>
      let isSpecial (c : Char) : Bool := "$\x60\"'\\".toList.contains c
      let isAssigned := "=".toList.isPrefixOf after || "+=".toList.isPrefixOf after
      if Words.isName name && place.any isSpecial && (after.isEmpty || isAssigned) then do
        let m ← Run.get
        let found := (Machine.splitPlace (m.target (String.ofList name))).1
        let isKey := ((m.bound? found).map (·.value.isKeyed)).getD false
        let place ← placeIn substitute n isKey place
        return String.ofList (name ++ '[' :: place ++ ']' :: after)
      else return word
    | none => return word
  | _ => return word

end Expansion

end ActionServer.Shell
