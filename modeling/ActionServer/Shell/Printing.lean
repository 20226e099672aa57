import ActionServer.Shell.Calendar
import ActionServer.Shell.Quoting

/-!
# Formats

How `echo` and `printf` make text of their arguments: escapes after a backslash, and directives after
a percent sign, each of which takes an argument. A format is used again as long as arguments are left.
-/

namespace ActionServer.Shell.Printing

/-- The character of an escape, with what follows; nothing where the text ends. -/
def escape (c : Char) (rest : List Char) : List Char × List Char :=
  match c with
  | 'x' =>
    let (ds, after) := Words.takeDigits Words.isHex 2 rest
    if ds.isEmpty then (['\\', 'x'], rest) else ([Words.byteChar (Words.number 16 ds)], after)
  | 'u' | 'U' =>
    let (ds, after) := Words.takeDigits Words.isHex (if c = 'u' then 4 else 8) rest
    if ds.isEmpty then (['\\', c], rest) else (Words.codePoint (Words.number 16 ds), after)
  | _ =>
    match Words.letterEscape? c with
    | some e => ([e], rest)
    | none => (['\\', c], rest)

/-- The character of an escape in an argument; nothing where the text ends. Outside `echo` octal digits
need no zero in front of them. -/
def argumentEscape (inEcho : Bool) (c : Char) (rest : List Char) : Option (List Char × List Char) :=
  if c = 'c' then none
  else if c = '0' then
    let (ds, after) := Words.takeDigits Words.isOctal 3 rest
    some ([Words.byteChar (Words.number 8 ds)], after)
  else if !inEcho && Words.isOctal c then
    let (ds, after) := Words.takeDigits Words.isOctal 3 (c :: rest)
    some ([Words.byteChar (Words.number 8 ds)], after)
  else if !inEcho && (c == '"' || c == '\'' || c == '?') then some ([c], rest)
  else some (escape c rest)

/-- Undoes the escapes of an argument; tells whether the output ends there. -/
def undoEscapes (inEcho : Bool) : Nat → List Char → List Char × Bool
  | 0, cs => (cs, false)
  | _, [] => ([], false)
  | n + 1, '\\' :: c :: rest =>
    match argumentEscape inEcho c rest with
    | none => ([], true)
    | some (text, after) =>
      let (more, ends) := undoEscapes inEcho n after
      (text ++ more, ends)
  | n + 1, c :: rest =>
    let (more, ends) := undoEscapes inEcho n rest
    (c :: more, ends)

/-- What `echo` writes; escapes can be undone without being asked for. -/
def echo (escapes : Bool) (arguments : List String) : List Char :=
  let rec options (escapes : Bool) : List String → Bool × Bool × List String
    | [] => (true, escapes, [])
    | a :: rest =>
      match a.toList with
      | '-' :: c :: cs =>
        if (c :: cs).all fun c => c == 'n' || c == 'e' || c == 'E' then
          let own := (c :: cs).foldl (fun e c => if c = 'e' then true else if c = 'E' then false else e)
            escapes
          let (newline, escapes, words) := options own rest
          (newline && !(c :: cs).contains 'n', escapes, words)
        else (true, escapes, a :: rest)
      | _ => (true, escapes, a :: rest)
  let (newline, escapes, words) := options escapes arguments
  let text := (" ".intercalate words).toList
  let (text, ends) := if escapes then undoEscapes true (text.length + 1) text else (text, false)
  if newline && !ends then text ++ ['\n'] else text

/-- What a directive asks for. -/
structure Directive where
  left : Bool := false
  zeros : Bool := false
  plus : Bool := false
  space : Bool := false
  alternate : Bool := false
  width : Nat := 0
  precision : Option Nat := none

/-- Text brought to the width of a directive. -/
def pad (d : Directive) (cs : List Char) : List Char :=
  let fill := d.width - cs.length
  if d.left then cs ++ List.replicate fill ' ' else List.replicate fill ' ' ++ cs

/-- A number in the form of a directive, with what stands before its digits. -/
def padNumber (d : Directive) (sign digits : List Char) : List Char :=
  let digits := match d.precision with
    | some 0 => if digits = ['0'] then [] else digits
    | some p => List.replicate (p - digits.length) '0' ++ digits
    | none =>
      if d.zeros && !d.left then
        List.replicate (d.width - sign.length - digits.length) '0' ++ digits
      else digits
  pad d (sign ++ digits)

/-- A number with decimals in the form of a directive. -/
def padFraction (d : Directive) (sign digits : List Char) : List Char :=
  let isNumber := (digits.head?.map Char.isDigit).getD false
  let digits := if d.zeros && !d.left && isNumber then
      List.replicate (d.width - sign.length - digits.length) '0' ++ digits
    else digits
  pad d (sign ++ digits)

/-- A number with decimals as a conversion shows it, without its sign. -/
def fractionText (d : Directive) (conversion : Char) (m : Magnitude) : List Char :=
  let text := match m with
    | .infinite => "inf".toList
    | .nan => "nan".toList
    | .finite count exponent =>
      match conversion.toLower with
      | 'f' => Fraction.fixed (d.precision.getD 6) d.alternate count exponent
      | 'e' => Fraction.exponential (d.precision.getD 6) d.alternate count exponent
      | 'a' => '0' :: 'x' :: Fraction.hexadecimal d.precision d.alternate count exponent
      | _ => Fraction.general (d.precision.getD 6) d.alternate count exponent
  if conversion.isUpper then text.map Char.toUpper else text

/-- The integer that an argument stands for, and whether all of it was used. -/
def integer (argument : String) : Int × Bool :=
  match argument.toList.dropWhile fun c => c == ' ' || c == '\t' || c == '\n' with
  | [] => (0, argument.isEmpty)
  | ['\''] | ['"'] => (0, true)
  | '\'' :: c :: _ | '"' :: c :: _ => (c.toNat, true)
  | c :: rest =>
    let negative := c == '-'
    let digits := if c = '-' ∨ c = '+' then rest else c :: rest
    let (base, digits) := match digits with
      | '0' :: 'x' :: more | '0' :: 'X' :: more => (16, more)
      | '0' :: d :: more => (8, d :: more)
      | ds => (10, ds)
    let isDigit (c : Char) : Bool := Words.isHex c && Words.digitValue c < base
    let used := digits.takeWhile isDigit
    let n : Int := Words.number base used
    (if negative then -n else n, used.length == digits.length && !used.isEmpty)

/-- What is wrong with a directive or its argument. -/
inductive Fault where
  | invalidNumber (argument : String)
  | outOfRange (argument : String)
  | missingConversion (directive : List Char)
  | invalidConversion (c : Char)
  | invalidTime (c : Char)
  | badVariable (name : String)
  deriving DecidableEq, Repr

def Fault.message : Fault → String
  | invalidNumber argument =>
    match argument.toList with
    | '0' :: c :: _ =>
      if c.isDigit then s!"{argument}: invalid octal number"
      else if c = 'x' then s!"{argument}: invalid hex number"
      else s!"{argument}: invalid number"
    | _ => s!"{argument}: invalid number"
  | outOfRange argument => s!"warning: {argument}: Numerical result out of range"
  | missingConversion directive =>
    let text := String.ofList directive
    s!"\x60{text}': missing format character"
  | invalidConversion c => s!"\x60{c}': invalid format character"
  | invalidTime c => s!"warning: \x60{c}': invalid time format specification"
  | badVariable name => s!"\x60{name}': not a valid identifier"

/-- Whether the fault makes the command fail. -/
def Fault.isFailure : Fault → Bool
  | outOfRange _ | invalidTime _ => false
  | _ => true

/-- What has been written, and what is left to do. -/
structure State where
  /-- The last character first. -/
  out : List Char := []
  arguments : List String := []
  /-- Whether a directive took an argument. -/
  used : Bool := false
  faults : List Fault := []
  ended : Bool := false
  /-- Variables that take the length of what was written before. -/
  lengths : List (String × Nat) := []

/-- The next argument; an empty one where none is left. -/
def State.take (s : State) : String × State :=
  match s.arguments with
  | a :: rest => (a, { s with arguments := rest, used := true })
  | [] => ("", { s with used := true })

def State.add (s : State) (cs : List Char) : State := { s with out := cs.reverse ++ s.out }

/-- What has been written. -/
def State.text (s : State) : List Char := s.out.reverse

/-- The flags of a directive. -/
def flags (d : Directive) : List Char → Directive × List Char
  | '-' :: rest => flags { d with left := true } rest
  | '0' :: rest => flags { d with zeros := true } rest
  | '+' :: rest => flags { d with plus := true } rest
  | ' ' :: rest => flags { d with space := true } rest
  | '#' :: rest => flags { d with alternate := true } rest
  | '\'' :: rest => flags d rest
  | cs => (d, cs)

/-- A count in a directive: digits, or a star for the next argument. -/
def count (s : State) : List Char → Int × State × List Char
  | '*' :: rest =>
    let (a, s) := s.take
    ((integer a).1, s, rest)
  | cs =>
    let ds := cs.takeWhile Char.isDigit
    (Words.number 10 ds, s, cs.drop ds.length)

/-- The number of an argument, at least `low` and at most `high`; a fault is remembered. -/
def State.takeInteger (s : State) (low high : Int) : Int × State :=
  let present := !s.arguments.isEmpty
  let (a, s) := s.take
  let (n, whole) := integer a
  let s := if whole || !present then s else { s with faults := s.faults ++ [.invalidNumber a] }
  if n < low then (low, { s with faults := s.faults ++ [.outOfRange a] })
  else if high < n then (high, { s with faults := s.faults ++ [.outOfRange a] })
  else (n, s)

/-- The number with decimals of an argument; a fault is remembered. -/
def State.takeFraction (s : State) : Fraction × State :=
  let present := !s.arguments.isEmpty
  let (a, s) := s.take
  let fault (f : Fault) (s : State) : State := { s with faults := s.faults ++ [f] }
  match a.toList with
  | ['\''] | ['"'] => (.zero, s)
  | '\'' :: c :: _ | '"' :: c :: _ => (.ofNat c.toNat, s)
  | cs =>
    match Fraction.read? cs with
    | some r =>
      let s := if r.rest.isEmpty then s else fault (.invalidNumber a) s
      (r.value, if r.isKept then s else fault (.outOfRange a) s)
    | none => (.zero, if present && a != "" then fault (.invalidNumber a) s else s)

/-- The characters of a text that a directive lets through. -/
def cut (d : Directive) (cs : List Char) : List Char :=
  match d.precision with
  | some p => cs.take p
  | none => cs

/-- Carries out a directive. -/
def direct (d : Directive) (conversion : Char) (s : State) : Option State :=
  match conversion with
  | 's' =>
    let (a, s) := s.take
    some (s.add (pad d (cut d a.toList)))
  | 'b' =>
    let (a, s) := s.take
    let (cs, ends) := undoEscapes false (a.length + 1) a.toList
    some { s.add (pad d (cut d cs)) with ended := ends }
  | 'q' =>
    let (a, s) := s.take
    some (s.add (pad d (cut d (Quoting.escape a.toList))))
  | 'Q' =>
    let (a, s) := s.take
    some (s.add (pad d (Quoting.escape (cut d a.toList))))
  | 'c' =>
    let (a, s) := s.take
    some (s.add (pad d [a.toList.headD '\x00']))
  | 'n' =>
    let (a, s) := s.take
    if a = "" then some s
    else if Words.isName a.toList then some { s with lengths := s.lengths ++ [(a, s.out.length)] }
    else some { s with faults := s.faults ++ [.badVariable a], ended := true }
  | 'f' | 'F' | 'e' | 'E' | 'g' | 'G' | 'a' | 'A' =>
    let (x, s) := s.takeFraction
    let sign := if x.isNegative then ['-'] else if d.plus then ['+']
      else if d.space then [' '] else []
    some (s.add (padFraction d sign (fractionText d conversion x.magnitude)))
  | 'd' | 'i' =>
    let (n, s) := s.takeInteger (-Nat.pow 2 63) (Nat.pow 2 63 - 1)
    let sign := if n < 0 then ['-'] else if d.plus then ['+'] else if d.space then [' '] else []
    some (s.add (padNumber d sign (Nat.toDigits 10 n.natAbs)))
  | 'u' | 'x' | 'X' | 'o' =>
    let (n, s) := s.takeInteger (-Nat.pow 2 64 + 1) (Nat.pow 2 64 - 1)
    let n := (n % Nat.pow 2 64).toNat
    let base := if conversion = 'u' then 10 else if conversion = 'o' then 8 else 16
    let digits := Nat.toDigits base n
    let digits := if conversion = 'X' then digits.map Char.toUpper else digits
    let sign := if d.alternate && n != 0 then
        (if conversion = 'x' then ['0', 'x'] else if conversion = 'X' then ['0', 'X']
          else if conversion = 'o' then ['0'] else [])
      else []
    some (s.add (padNumber d sign digits))
  | _ => none

/-- Letters before a conversion that change nothing. -/
def isModifier (c : Char) : Bool := "hjlLtz".toList.contains c

/-- The format of a date up to the parenthesis that closes an open one, and what follows. -/
def timeFormat : (depth : Nat) → List Char → Option (List Char × List Char)
  | _, [] => none
  | 0, ')' :: rest => some ([], rest)
  | depth, c :: rest =>
    let depth := if c = '(' then depth + 1 else if c = ')' then depth - 1 else depth
    (timeFormat depth rest).map fun (format, after) => (c :: format, after)

/-- The moment of an argument; without one it is now, as far as that is known. -/
def State.takeMoment (s : State) (now : Int) : Moment × State :=
  if s.arguments.isEmpty then (.ofSeconds now, { s with used := true })
  else
    let (n, s) := s.takeInteger (-Nat.pow 2 63) (Nat.pow 2 63 - 1)
    (.ofSeconds (if n < 0 then now else n), s)

/-- Goes through a format once. -/
def once (now : Int) : Nat → List Char → State → State
  | 0, _, s => s
  | _, [], s => s
  | n + 1, '\\' :: c :: rest, s =>
    if c = '"' ∨ c = '\'' ∨ c = '?' then once now n rest (s.add [c])
    else if Words.isOctal c then
      let (ds, after) := Words.takeDigits Words.isOctal 3 (c :: rest)
      once now n after (s.add [Words.byteChar (Words.number 8 ds)])
    else
      let (text, after) := escape c rest
      once now n after (s.add text)
  | n + 1, '%' :: '%' :: rest, s => once now n rest (s.add ['%'])
  | n + 1, '%' :: start, s =>
    let (d, rest) := flags {} start
    let (width, s, rest) := count s rest
    let d := { d with left := d.left || width < 0, width := width.natAbs }
    let (precision, s, rest) : Option Nat × State × List Char := match rest with
      | '.' :: rest =>
        let (p, s, rest) := count s rest
        (if p < 0 then none else some p.toNat, s, rest)
      | rest => (none, s, rest)
    let d := { d with precision }
    match rest.dropWhile isModifier with
    | [] => { s with ended := true, faults := s.faults ++ [.missingConversion ('%' :: start)] }
    | '(' :: inner =>
      match timeFormat 0 inner with
      | some (format, 'T' :: after) =>
        let (t, s) := s.takeMoment now
        let format := if format.isEmpty then ['%', 'X'] else format
        once now n after (s.add (pad d (cut d (t.render format))))
      | some (format, c :: after) =>
        let s : State := { s with faults := s.faults ++ [.invalidTime c] }
        once now n (c :: after) (s.add ('%' :: '(' :: format ++ [')']))
      | _ => once now n inner (s.add ['%', '('])
    | c :: rest =>
      match direct d c s with
      | some s => if s.ended then s else once now n rest s
      | none => { s with ended := true, faults := s.faults ++ [.invalidConversion c] }
  | n + 1, c :: rest, s => once now n rest (s.add [c])

/-- Uses a format as long as arguments are left. -/
def repeated (now : Int) (format : List Char) : Nat → State → State
  | 0, s => s
  | n + 1, s =>
    let s := once now (format.length + 1) format { s with used := false }
    if s.ended || s.arguments.isEmpty || !s.used then s else repeated now format n s

/-- What `printf` writes. -/
def printf (now : Int) (format : String) (arguments : List String) : State :=
  repeated now format.toList (arguments.length + 1) { arguments }

end ActionServer.Shell.Printing
