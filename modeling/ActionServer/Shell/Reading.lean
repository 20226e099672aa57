import ActionServer.Shell.Expansion

/-!
# Reading lines

How `read` takes a line: byte by byte up to a delimiter, with a time limit or a count if it is told
so. A backslash keeps the meaning of the character after it away, unless the line is taken raw. The
line is shared out among variables. `mapfile` takes all lines into an array.
-/

namespace ActionServer.Shell

structure ReadOptions where
  raw : Bool := false
  delimiter : Char := '\n'
  /-- How long to wait, in milliseconds. -/
  limit : Option Nat := none
  count : Option Nat := none
  /-- The delimiter does not end the line. -/
  exact : Bool := false
  descriptor : Nat := 0
  /-- The array that takes all fields. -/
  list : Option String := none
  names : List String := []

/-- Why a line ended. -/
inductive LineEnd where
  | complete
  | ended
  | timedOut
  deriving DecidableEq, Repr

namespace Reading

/-- Milliseconds from a number of seconds with decimals. -/
def milliseconds? (s : String) : Option Nat :=
  let whole := s.toList.takeWhile Char.isDigit
  let decimals := match s.toList.drop whole.length with
    | [] => some []
    | '.' :: ds => if ds.all Char.isDigit then some ds else none
    | _ => none
  if whole.isEmpty && decimals.all List.isEmpty then none
  else decimals.map fun ds =>
    1000 * Words.number 10 whole + Words.number 10 ((ds ++ ['0', '0', '0']).take 3)

/-- What is wrong with options. -/
inductive OptionFault where
  | unknown (c : Char)
  | noValue (c : Char)
  | bad (message : String)

/-- The number that a text is, if it is one of digits. -/
def natural? (s : String) : Option Nat :=
  if s.toList.all Char.isDigit && s != "" then some (Words.number 10 s.toList) else none

/-- Options that have a value. -/
def valued : List Char := "adinNptu".toList

/-- A value of an option. -/
def giveOption (o : ReadOptions) (c : Char) (value : String) : Except OptionFault ReadOptions :=
  let counted (use : Nat → ReadOptions) : Except OptionFault ReadOptions :=
    match natural? value with
    | some n => .ok (use n)
    | none => .error (.bad s!"{value}: invalid number")
  match c with
  | 'a' => .ok { o with list := some value }
  | 't' =>
    match milliseconds? value with
    | some ms => .ok { o with limit := some ms }
    | none => .error (.bad s!"{value}: invalid timeout specification")
  | 'n' => counted fun n => { o with count := some n }
  | 'N' => counted fun n => { o with count := some n, exact := true }
  | 'd' => .ok { o with delimiter := value.toList.headD '\x00' }
  | 'u' =>
    match natural? value with
    | some n => .ok { o with descriptor := n }
    | none => .error (.bad s!"{value}: invalid file descriptor specification")
  | _ => .ok o

/-- The options in front of the names. -/
def options : Nat → ReadOptions → List String → Except OptionFault ReadOptions
  | 0, o, names => .ok { o with names }
  | _, o, [] => .ok o
  | _, o, "--" :: names => .ok { o with names }
  | n + 1, o, a :: rest =>
    match a.toList with
    | '-' :: c :: more =>
      if c = 'r' ∨ c = 's' ∨ c = 'e' then
        let o := if c = 'r' then { o with raw := true } else o
        if more.isEmpty then options n o rest else options n o (String.ofList ('-' :: more) :: rest)
      else if !valued.contains c then .error (.unknown c)
      else if more.isEmpty && rest.isEmpty then .error (.noValue c)
      else
        let (value, rest) := if more.isEmpty then (rest.headD "", rest.tail)
          else (String.ofList more, rest)
        match giveOption o c value with
        | .ok o => options n o rest
        | .error e => .error e
    | _ => .ok { o with names := a :: rest }

/-- Whether a line has as many characters as it may have. -/
def isFull (o : ReadOptions) (sofar : Nat) : Bool :=
  match o.count with
  | some n => n ≤ sofar
  | none => false

/-- The characters of a line, the last first; nothing if the descriptor cannot be read. -/
def takeLine (o : ReadOptions) : Nat → (size : Nat) → List Mark → Run (Option (List Mark × LineEnd))
  | 0, _, _ => Run.hang
  | n + 1, size, sofar => do
    if isFull o size then return some (sofar, .complete)
    match ← Run.readByte o.descriptor o.limit with
    | none => return none
    | some .ended => return some (sofar, .ended)
    | some .timedOut => return some (sofar, .timedOut)
    | some (.byte b) =>
      let c := Char.ofNat b.toNat
      if c = o.delimiter ∧ !o.exact then return some (sofar, .complete)
      else if c = '\\' ∧ !o.raw then do
        match ← Run.readByte o.descriptor o.limit with
        | none => return none
        | some .ended => return some (sofar, .ended)
        | some .timedOut => return some (sofar, .timedOut)
        | some (.byte b) =>
          let d := Char.ofNat b.toNat
          if d = '\n' then takeLine o n size sofar
          else takeLine o n (size + 1) (⟨d, true⟩ :: sofar)
      else if c = '\x00' then takeLine o n size sofar
      else takeLine o n (size + 1) (⟨c, false⟩ :: sofar)

/-- Bytes that one line may have. -/
def lineLimit : Nat := Nat.pow 2 32

/-- Tells of a name that no variable can have. -/
def refuseName (command name : String) : Run Unit :=
  Run.fail 1 s!"{command}: \x60{name}': not a valid identifier"

/-- Gives variables their values, up to one that takes none; tells whether all took theirs. -/
def assignAll : List (String × List Mark) → Run Bool
  | [] => return true
  | (name, ms) :: rest => do
    if !Machine.isPlace name then do
      refuseName "read" name
      return false
    else
      let (found, place) := Machine.splitPlace name
      if ← Assigning.put found place false (String.ofList (Mark.text ms)) then assignAll rest
      else return false

/-- The fields of a line. -/
def lineFields (separators : List Char) (line : List Mark) : List String :=
  (Fields.split separators (line.map fun m => .char m (!m.isQuoted))).map fun ms =>
    String.ofList (Mark.text ms)

/-- Assigns to each name its share of a line; tells whether all took theirs. -/
def assign (o : ReadOptions) (line : List Mark) : Run Bool := do
  let separators := (← Run.get).separators
  match o.list, o.names with
  | some name, _ => Assigning.putTexts name (lineFields separators line)
  | none, [] => assignAll [("REPLY", line)]
  | none, name :: rest =>
    if o.exact then assignAll ((name, line) :: rest.map fun r => (r, []))
    else
      let parts := Fields.share separators o.names.length (Fields.dropBlanks separators line)
      assignAll (o.names.zip parts)

/-- The status of a line that a signal of the clock cut short. -/
def timedOutStatus : Nat := 142

def usage : String :=
  "read: usage: read [-ers] [-a array] [-d delim] [-i text] [-n nchars] [-N nchars] [-p prompt] " ++
    "[-t timeout] [-u fd] [name ...]"

/-- Whether a variable holds texts under keys. -/
def isKeyed (m : Machine) (name : String) : Bool :=
  ((m.bound? (m.target name)).map (·.value.isKeyed)).getD false

/-- Why a descriptor cannot be read. -/
def unreadable (m : Machine) (descriptor : Nat) : String :=
  match m.channel? descriptor with
  | some (.file _) => "Is a directory"
  | _ => "Bad file descriptor"

/-- Whether something could be read at once. -/
def isReady (descriptor : Nat) : Run Bool := do
  match (← Run.get).channel? descriptor with
  | some (.source id) => do
    let s ← Run.shared
    let m ← Run.get
    return (s.pipe id).size != 0 || !s.isHeldBesides m.process (.sink id)
  | some .nothing => return true
  | _ => return false

/-- Tells of a fault in options. -/
def refuseOptions (command usage : String) : OptionFault → Run Unit
  | .bad message => Run.fail 1 s!"{command}: {message}"
  | .unknown c => do
    Run.complain s!"{command}: -{c}: invalid option"
    Run.tell usage
    Run.setStatus 2
  | .noValue c => do
    Run.complain s!"{command}: -{c}: option requires an argument"
    Run.tell usage
    Run.setStatus 2

/-- Reads a line into variables. -/
def read (arguments : List String) : Run Unit := do
  match options (arguments.length + 64) {} arguments with
  | .error fault => refuseOptions "read" usage fault
  | .ok o => do
    let m ← Run.get
    match (o.list.orElse fun _ => o.names.head?).filter fun name => !Machine.isPlace name with
    | some name => refuseName "read" name
    | none =>
      if o.descriptor != 0 && (m.channel? o.descriptor).isNone then
        Run.fail 1 s!"read: {o.descriptor}: invalid file descriptor: Bad file descriptor"
      else if o.limit = some 0 then Run.setStatus (if ← isReady o.descriptor then 0 else 1)
      else if (o.list.map (isKeyed m)).getD false then
        let name := o.list.getD ""
        Run.fail 1 s!"read: {name}: not an indexed array"
      else do
        match ← takeLine o lineLimit 0 [] with
        | none => Run.fail 1 s!"read: read error: {o.descriptor}: {unreadable m o.descriptor}"
        | some (line, ending) => do
          if ← assign o line.reverse then
            Run.setStatus (match ending with
              | .complete => 0
              | .ended => 1
              | .timedOut => timedOutStatus)

/-- What `mapfile` is asked for. -/
structure MapOptions where
  delimiter : Char := '\n'
  count : Nat := 0
  origin : Option Nat := none
  skip : Nat := 0
  trims : Bool := false
  descriptor : Nat := 0
  callback : Option String := none
  quantum : Nat := 5000
  names : List String := []

/-- A value of an option of `mapfile`. -/
def giveMapOption (o : MapOptions) (c : Char) (value : String) : Except OptionFault MapOptions :=
  let counted (kind : String) (use : Nat → MapOptions) : Except OptionFault MapOptions :=
    match natural? value with
    | some n => .ok (use n)
    | none => .error (.bad s!"{value}: invalid {kind}")
  match c with
  | 'd' => .ok { o with delimiter := value.toList.headD '\x00' }
  | 'n' => counted "line count" fun n => { o with count := n }
  | 's' => counted "line count" fun n => { o with skip := n }
  | 'O' => counted "array origin" fun n => { o with origin := some n }
  | 'u' => counted "file descriptor specification" fun n => { o with descriptor := n }
  | 'c' =>
    match natural? value with
    | some (n + 1) => .ok { o with quantum := n + 1 }
    | _ => .error (.bad s!"{value}: invalid callback quantum")
  | _ => .ok { o with callback := some value }

/-- The options of `mapfile` in front of its name. -/
def mapOptions : Nat → MapOptions → List String → Except OptionFault MapOptions
  | 0, o, names => .ok { o with names }
  | _, o, [] => .ok o
  | _, o, "--" :: names => .ok { o with names }
  | n + 1, o, a :: rest =>
    match a.toList with
    | '-' :: 't' :: more =>
      let o := { o with trims := true }
      if more.isEmpty then mapOptions n o rest
      else mapOptions n o (String.ofList ('-' :: more) :: rest)
    | '-' :: c :: more =>
      if !"dnsOuCc".toList.contains c then .error (.unknown c)
      else if more.isEmpty && rest.isEmpty then .error (.noValue c)
      else
        let (value, rest) := if more.isEmpty then (rest.headD "", rest.tail)
          else (String.ofList more, rest)
        match giveMapOption o c value with
        | .ok o => mapOptions n o rest
        | .error e => .error e
    | _ => .ok { o with names := a :: rest }

/-- A line with its delimiter; nothing where there is none. -/
def wholeLine (o : MapOptions) : Run (Option String) := do
  let options : ReadOptions :=
    { raw := true, delimiter := o.delimiter, descriptor := o.descriptor }
  match ← takeLine options lineLimit 0 [] with
  | some ([], .ended) | none => return none
  | some (line, ending) =>
    let text := Mark.text line.reverse
    let isKept := !o.trims && ending == .complete && o.delimiter != '\x00'
    return some (String.ofList (if isKept then text ++ [o.delimiter] else text))

/-- Passes lines. -/
def skipLines (o : MapOptions) : Nat → Run Unit
  | 0 => return ()
  | n + 1 => do
    let _ ← wholeLine o
    skipLines o n

/-- Reads lines into an array, calling a command now and then. -/
def mapLines (o : MapOptions) (name : String) (call : String → Run Unit) :
    Nat → (taken : Nat) → Run Unit
  | 0, _ => Run.hang
  | n + 1, taken => do
    if o.count != 0 && taken = o.count then return ()
    match ← wholeLine o with
    | none => return ()
    | some line => do
      let place := o.origin.getD 0 + taken
      match o.callback with
      | some command =>
        if (taken + 1) % o.quantum = 0 then do
          let quoted := String.ofList (Quoting.reusable line.toList)
          call s!"{command} {place} {quoted}"
      | none => pure ()
      if ← Assigning.put name (some (toString place)) false line then
        mapLines o name call n (taken + 1)

def mapUsage (command : String) : String :=
  s!"{command}: usage: {command} [-d delim] [-n count] [-O origin] [-s count] [-t] [-u fd] " ++
    "[-C callback] [-c quantum] [array]"

/-- Reads all lines into an array. -/
def mapFile (command : String) (call : String → Run Unit) (arguments : List String) : Run Unit := do
  match mapOptions (arguments.length + 64) {} arguments with
  | .error fault => refuseOptions command (mapUsage command) fault
  | .ok o => do
    let name := o.names.headD "MAPFILE"
    let m ← Run.get
    if !Words.isName name.toList then refuseName command name
    else if o.descriptor != 0 && (m.channel? o.descriptor).isNone then
      Run.fail 1 s!"{command}: {o.descriptor}: invalid file descriptor: Bad file descriptor"
    else if isKeyed m name then Run.fail 1 s!"{command}: {name}: not an indexed array"
    else do
      Run.setStatus 0
      let isMade ← if o.origin.isNone then Assigning.putTexts name [] else pure true
      if isMade then do
        skipLines o o.skip
        mapLines o name call lineLimit 0

end Reading

end ActionServer.Shell
