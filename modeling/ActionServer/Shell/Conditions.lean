import ActionServer.Shell.Arithmetic

/-!
# Conditions

The conditions of `test`: on one word, on two words, and their combinations. How many words there are
decides how they are read.
-/

namespace ActionServer.Shell.Conditions

/-- An integer of sixty-four bits in decimal digits, with blanks around it. -/
def integer? (s : String) : Option Int :=
  let isBlank (c : Char) : Bool := c == ' ' || c == '\t' || c == '\n'
  let cs := ((s.toList.dropWhile isBlank).reverse.dropWhile isBlank).reverse
  let value (ds : List Char) : Option Int :=
    if ds.isEmpty || !ds.all Char.isDigit then none
    else some (ds.foldl (fun (n : Int) c => 10 * n + (c.toNat - '0'.toNat)) 0)
  let n := match cs with
    | '-' :: ds => (value ds).map fun n => -n
    | '+' :: ds => value ds
    | ds => value ds
  n.filter fun n => -Nat.pow 2 63 ≤ n && n < Nat.pow 2 63

/-- What conditions are about. -/
structure Scene where
  machine : Machine
  files : FileSystem

/-- What a path leads to. -/
inductive Presence where
  | nothing
  | entry (e : FileEntry)
  /-- A device or a pipe. -/
  | stream (isPipe : Bool)
  deriving DecidableEq, Repr

/-- The descriptor that a path names. -/
def deviceDescriptor? (path : String) : Option Nat :=
  match path with
  | "/dev/stdin" => some 0
  | "/dev/stdout" => some 1
  | "/dev/stderr" => some 2
  | _ =>
    let front := "/dev/fd/".toList
    let cs := path.toList
    let number := cs.drop front.length
    if front.isPrefixOf cs && !number.isEmpty && number.all Char.isDigit then
      some (Words.number 10 number)
    else none

/-- Directories that every machine has. -/
def usualDirectories : List String :=
  ["/", "/bin", "/dev", "/dev/fd", "/etc", "/home", "/lib", "/opt", "/proc", "/root", "/sbin", "/sys",
    "/tmp", "/usr", "/usr/bin", "/usr/lib", "/usr/local", "/usr/sbin", "/var"]

/-- What a path leads to from the working directory. -/
def Scene.presence (s : Scene) (path : String) : Presence :=
  match deviceDescriptor? path with
  | some d =>
    match s.machine.channel? d with
    | none => .nothing
    | some (.file names) =>
      match s.files.tree.at? names with
      | some e => .entry e
      | none => .nothing
    | some .nothing => .stream false
    | some _ => .stream true
  | none =>
    if path = "/dev/null" || path = "/dev/zero" || path = "/dev/tty" then .stream false
    else
      match s.files.stat (Machine.pathOf path) with
      | .ok e => .entry e
      | .error _ => if usualDirectories.contains path then .entry .directory else .nothing

/-- The place in the tree that a path leads to. -/
def Scene.place? (s : Scene) (path : String) : Option (List String) :=
  if path = "" then none
  else
    (s.files.tree.locate (Path.resolveFrom s.files.workDir (Machine.pathOf path))).toOption.filter
      fun names => (s.files.tree.at? names).isSome

/-- How recently the entry at a place was written, compared to others. -/
def Scene.age? (s : Scene) (path : String) : Option Nat :=
  (s.place? path).map fun names =>
    (s.files.tree.entries.findIdx? fun e => e.1 == names).getD 0

/-- Whether a variable is set, or a place in one. -/
def Scene.hasValue (s : Scene) (text : String) : Bool :=
  let m := s.machine
  let (name, own) := Machine.splitPlace text
  let (name, place) :=
    if name.toList.all Char.isDigit then (name, own)
    else
      let (found, place) := Machine.splitPlace (m.target name)
      (found, own <|> place)
  if !name.isEmpty && name.toList.all Char.isDigit then (m.parameter? name).isSome
  else if !Words.isName name.toList || place == some "" then false
  else
    match m.lookup? name, place with
    | none, _ => false
    | some v, none => v.first?.isSome
    | some v, some p =>
      v.isSet &&
        (match v.value with
        | .keyed items => (items.lookup p).isSome
        | value =>
          if p = "@" || p = "*" then !value.toIndexed.isEmpty
          else
            match (Arithmetic.value m p.toList).1 with
            | .ok i =>
              match Arithmetic.placeOf? value.toIndexed i with
              | some i => (value.toIndexed.lookup i).isSome
              | none => false
            | .error _ => false)

/-- A condition on one word, if there is one of that name. -/
def unary? (s : Scene) (op word : String) : Option Bool :=
  let found := s.presence word
  match op with
  | "-z" => some word.isEmpty
  | "-n" => some (!word.isEmpty)
  | "-e" | "-a" | "-r" | "-w" | "-O" | "-G" | "-N" => some (found != .nothing)
  | "-f" => some (match found with
    | .entry (.file _) => true
    | _ => false)
  | "-d" | "-x" => some (found == .entry .directory)
  | "-s" => some (match found with
    | .entry (.file bytes) => !bytes.isEmpty
    | .entry .directory => true
    | _ => false)
  | "-p" => some (found == .stream true)
  | "-c" => some (found == .stream false)
  | "-k" => some (word == "/tmp")
  | "-L" | "-h" | "-S" | "-b" | "-g" | "-u" | "-t" => some false
  | "-o" => some (s.machine.hasOption word)
  | "-v" => some (s.hasValue word)
  | "-R" =>
    some (((s.machine.bound? word).map fun v => v.attributes.isReference && v.isSet).getD false)
  | _ => none

/-- The names of comparisons of integers. -/
def comparison? (op : String) : Option (Int → Int → Bool) :=
  match op with
  | "-eq" => some fun a b => a == b
  | "-ne" => some fun a b => a != b
  | "-lt" => some fun a b => a < b
  | "-le" => some fun a b => a ≤ b
  | "-gt" => some fun a b => a > b
  | "-ge" => some fun a b => a ≥ b
  | _ => none

/-- Whether a file was written before another one; one that is not there is older than any. -/
def isOlder (s : Scene) (left right : String) : Bool :=
  match s.age? left, s.age? right with
  | some a, some b => a < b
  | none, some _ => true
  | _, _ => false

/-- A condition on two words, if there is one of that name. -/
def binary? (s : Scene) (op left right : String) : Option (Except String Bool) :=
  match op with
  | "=" | "==" => some (.ok (left == right))
  | "!=" => some (.ok (left != right))
  | "-ef" => some (.ok ((s.place? left).isSome && s.place? left == s.place? right))
  | "-nt" => some (.ok (isOlder s right left))
  | "-ot" => some (.ok (isOlder s left right))
  | "<" => some (.ok (left < right))
  | ">" => some (.ok (right < left))
  | _ =>
    match comparison? op with
    | none => none
    | some compare =>
      some (match integer? left, integer? right with
        | none, _ => .error s!"{left}: integer expression expected"
        | _, none => .error s!"{right}: integer expression expected"
        | some a, some b => .ok (compare a b))

/-- Conditions on two words. -/
def pair (s : Scene) (a b : String) : Except String Bool :=
  if a = "!" then .ok b.isEmpty
  else match unary? s a b with
    | some r => .ok r
    | none => .error s!"{a}: unary operator expected"

/-- Conditions on three or fewer words. -/
def short (s : Scene) : List String → Except String Bool
  | [] => .ok false
  | [a] => .ok (!a.isEmpty)
  | [a, b] => pair s a b
  | [a, b, c] =>
    match binary? s b a c with
    | some r => r
    | none =>
      if b = "-a" then .ok (!a.isEmpty && !c.isEmpty)
      else if b = "-o" then .ok (!a.isEmpty || !c.isEmpty)
      else if a = "!" then (pair s b c).map not
      else if a = "(" && c = ")" then .ok (!b.isEmpty)
      else .error s!"{b}: binary operator expected"
  | _ => .error "too many arguments"

mutual

/-- Conditions joined by `-o`. -/
def disjunction (s : Scene) : Nat → List String → Except String (Bool × List String)
  | 0, _ => .error "too many arguments"
  | n + 1, ws => do
    let (a, rest) ← conjunction s n ws
    match rest with
    | "-o" :: more => do
      let (b, rest) ← disjunction s n more
      return (a || b, rest)
    | _ => return (a, rest)

/-- Conditions joined by `-a`. -/
def conjunction (s : Scene) : Nat → List String → Except String (Bool × List String)
  | 0, _ => .error "too many arguments"
  | n + 1, ws => do
    let (a, rest) ← single s n ws
    match rest with
    | "-a" :: more => do
      let (b, rest) ← conjunction s n more
      return (a && b, rest)
    | _ => return (a, rest)

/-- One condition. -/
def single (s : Scene) : Nat → List String → Except String (Bool × List String)
  | 0, _ => .error "too many arguments"
  | _, [] => .error "argument expected"
  | n + 1, "!" :: rest => do
    let (a, rest) ← single s n rest
    return (!a, rest)
  | n + 1, "(" :: rest => do
    let (a, rest) ← disjunction s n rest
    match rest with
    | ")" :: rest => return (a, rest)
    | found :: _ => .error s!"\x60)' expected, found {found}"
    | [] => .error "\x60)' expected"
  | _, a :: op :: b :: rest =>
    match binary? s op a b with
    | some r => r.map fun r => (r, rest)
    | none =>
      match unary? s a op with
      | some r => .ok (r, b :: rest)
      | none => .ok (!a.isEmpty, op :: b :: rest)
  | _, [a, b] =>
    match unary? s a b with
    | some r => .ok (r, [])
    | none => .ok (!a.isEmpty, [b])
  | _, [a] => .ok (!a.isEmpty, [])

end

/-- The value of a condition. -/
def test (s : Scene) (words : List String) : Except String Bool :=
  match words with
  | ["!", a, b, c] => (short s [a, b, c]).map not
  | ["(", a, b, ")"] => short s [a, b]
  | _ =>
    if words.length ≤ 3 then short s words
    else
      match disjunction s (4 * words.length + 4) words with
      | .ok (r, []) => .ok r
      | .ok (_, w :: _) =>
        .error (if w.toList.head? = some '-' then s!"syntax error: \x60{w}' unexpected"
          else "too many arguments")
      | .error e => .error e

end ActionServer.Shell.Conditions
