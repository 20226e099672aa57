import ActionServer.Shell.Pattern

/-!
# Regular expressions

An expression is found at the first place of a text where it can begin, and there it takes as much as
it can. Each of its parts takes as much as it can in turn, the earlier ones before the later ones, and
groups remember what they took last. Characters that were quoted stand for themselves.
-/

namespace ActionServer.Shell

inductive Regex where
  | empty
  | char (c : Char)
  | any
  | set (negated : Bool) (members : List Member)
  | textStart
  | textEnd
  | wordStart
  | wordEnd
  | wordEdge
  | noWordEdge
  | sequence (a b : Regex)
  | either (a b : Regex)
  | group (number : Nat) (r : Regex)
  | repeated (r : Regex) (least : Nat) (most : Option Nat)
  deriving Repr, Inhabited

namespace Regex

/-- Reading an expression: the marks that are left, and how many groups there were. -/
abbrev Read := StateT (List Mark × Nat) Option

/-- The special character that is next. -/
def peek : Read (Option Char) := fun (ms, groups) =>
  match ms with
  | m :: _ => some (if m.isQuoted then none else some m.char, (ms, groups))
  | [] => some (none, ([], groups))

def atEnd : Read Bool := fun (ms, groups) => some (ms.isEmpty, (ms, groups))

def skip (n : Nat) : Read Unit := fun (ms, groups) => some ((), (ms.drop n, groups))

/-- The members of a bracket up to its end; classes and ranges are as in patterns, but a backslash has
no meaning. -/
def members? : Nat → (isFirst : Bool) → List Mark → Option (List Member × List Mark)
  | 0, _, _ => none
  | _, _, [] => none
  | n + 1, isFirst, m :: rest => do
    if m.isSpecial ']' && !isFirst then return ([], rest)
    let (first, after) ← start m rest
    let single : Option (List Member × List Mark) := do
      let (members, rest) ← members? n false after
      return (first :: members, rest)
    match first, after with
    | .one c, dash :: last :: more =>
      if dash.isSpecial '-' && !last.isSpecial ']' then do
        match ← start last more with
        | (.one d, more) =>
          if d < c then none
          let (members, rest) ← members? n false more
          return (.range c d :: members, rest)
        | _ => none
      else single
    | _, _ => single
where
  /-- A member, or the beginning of a range. -/
  start (m : Mark) (rest : List Mark) : Option (Member × List Mark) :=
    match m.isSpecial '[', rest with
    | true, sign :: more =>
      if sign.isSpecial ':' then
        match Pattern.className? ':' more with
        | some (name, after) => some (.named name, after)
        | none => none
      else if sign.isSpecial '=' || sign.isSpecial '.' then
        match Pattern.className? sign.char more with
        | some (name, after) =>
          match name.toList with
          | [c] => some (.one c, after)
          | _ => none
        | none => none
      else some (.one m.char, rest)
    | _, _ => some (.one m.char, rest)

/-- Names of classes. -/
def classes : List String :=
  ["alpha", "digit", "alnum", "upper", "lower", "space", "blank", "punct", "print", "graph", "cntrl",
    "xdigit"]

/-- A bracket whose sign has been passed. -/
def bracket : Read Regex := fun (ms, groups) => do
  let (negated, rest) := match ms with
    | m :: rest => if m.isSpecial '^' then (true, rest) else (false, ms)
    | [] => (false, ms)
  let (members, after) ← members? (rest.length + 1) true rest
  let isKnown (m : Member) : Bool :=
    match m with
    | .named name => classes.contains name
    | _ => true
  if members.all isKnown then some (.set negated members, (after, groups)) else none

/-- What a letter after a backslash stands for. -/
def escaped (c : Char) : Regex :=
  match c with
  | 'w' => .set false [.named "word"]
  | 'W' => .set true [.named "word"]
  | 's' => .set false [.named "space"]
  | 'S' => .set true [.named "space"]
  | 'b' => .wordEdge
  | 'B' => .noWordEdge
  | '<' => .wordStart
  | '>' => .wordEnd
  | '\x60' => .textStart
  | '\'' => .textEnd
  | c => .char c

/-- The most that a count can be. -/
def countLimit : Nat := 32767

/-- A count in digits. -/
def count? : Read (Option Nat) := fun (ms, groups) =>
  let digits := ms.takeWhile fun m => !m.isQuoted && m.char.isDigit
  let n := digits.foldl (fun n m => 10 * n + (m.char.toNat - '0'.toNat)) 0
  if digits.isEmpty then some (none, (ms, groups))
  else if countLimit < n then none
  else some (some n, (ms.drop digits.length, groups))

/-- The bounds of a repetition whose brace has been passed. -/
def bounds : Read (Nat × Option Nat) := do
  let least ← count?
  match ← peek with
  | some ',' => do
    skip 1
    let most ← count?
    match ← peek with
    | some '\x7d' => do
      skip 1
      if (most.map fun n => decide (n < least.getD 0)).getD false then failure
      return (least.getD 0, most)
    | _ => failure
  | some '\x7d' => do
    skip 1
    match least with
    | some n => return (n, some n)
    | none => failure
  | _ => failure

/-- Whether an expression takes nothing, so that it cannot be repeated. -/
def isEdge : Regex → Bool
  | .textStart | .textEnd | .wordStart | .wordEnd | .wordEdge | .noWordEdge => true
  | _ => false

mutual

/-- Alternatives. -/
def choice : Nat → (depth : Nat) → Read Regex
  | 0, _ => failure
  | n + 1, depth => do
    let a ← branch n depth .empty
    match ← peek with
    | some '|' => do
      skip 1
      return .either a (← choice n depth)
    | _ => return a

/-- Parts one after the other. -/
def branch : Nat → (depth : Nat) → Regex → Read Regex
  | 0, _, _ => failure
  | n + 1, depth, sofar => do
    if ← atEnd then return sofar
    match ← peek with
    | some '|' => return sofar
    | some ')' => if depth = 0 then part n depth sofar else return sofar
    | _ => part n depth sofar

/-- One part with its repetitions, and those after it. -/
def part : Nat → (depth : Nat) → Regex → Read Regex
  | 0, _, _ => failure
  | n + 1, depth, sofar => do
    let r ← atom n depth
    let r ← if isEdge r then pure r else repetitions n r
    branch n depth (match sofar with
      | .empty => r
      | _ => .sequence sofar r)

/-- A part with the signs behind it that repeat it. -/
def repetitions : Nat → Regex → Read Regex
  | 0, _ => failure
  | n + 1, r => do
    match ← peek with
    | some '*' => do
      skip 1
      repetitions n (.repeated r 0 none)
    | some '+' => do
      skip 1
      repetitions n (.repeated r 1 none)
    | some '?' => do
      skip 1
      repetitions n (.repeated r 0 (some 1))
    | some '\x7b' => do
      skip 1
      let (least, most) ← bounds
      repetitions n (.repeated r least most)
    | _ => return r

/-- A part without repetitions. -/
def atom : Nat → (depth : Nat) → Read Regex
  | 0, _ => failure
  | n + 1, depth => do
    match (← get).1 with
    | [] => failure
    | m :: rest => do
      skip 1
      if m.isQuoted then return .char m.char
      match m.char with
      | '.' => return .any
      | '^' => return .textStart
      | '$' => return .textEnd
      | '[' => bracket
      | '\\' =>
        match rest with
        | [] => failure
        | e :: _ => do
          skip 1
          return if e.isQuoted then .char e.char else escaped e.char
      | '(' => do
        let groups := (← get).2
        modify fun (ms, groups) => (ms, groups + 1)
        let r ← choice n (depth + 1)
        match ← peek with
        | some ')' => do
          skip 1
          return .group (groups + 1) r
        | _ => failure
      | '*' | '+' | '?' | '\x7b' => failure
      | c => return .char c

end

/-- The expression that marks stand for, and how many groups it has. -/
def ofMarks? (ms : List Mark) : Option (Regex × Nat) :=
  match (choice (4 * ms.length + 8) 0).run (ms, 0) with
  | some (r, ([], groups)) => some (r, groups)
  | _ => none

/-- A place in a text: what is before it, the last character first, what is behind it, and what groups
took, each with where it begins. -/
structure Place where
  before : List Char
  rest : List Char
  taken : Nat
  groups : List (Nat × Nat × List Char)
  deriving Inhabited

/-- A place some characters further. -/
def Place.advance : Place → Nat → Place
  | p, 0 => p
  | p, n + 1 =>
    match p.rest with
    | c :: rest => Place.advance { p with before := c :: p.before, rest, taken := p.taken + 1 } n
    | [] => p

/-- The first of the places that are the same but for their groups. -/
def distinct (places : List Place) : List Place :=
  (places.foldl (fun (seen, found) p =>
    if seen.contains p.taken then (seen, found) else (p.taken :: seen, p :: found))
    (([] : List Nat), ([] : List Place))).2.reverse

/-- Places with those first that took more. -/
def longestFirst (places : List Place) : List Place :=
  places.mergeSort fun a b => b.taken ≤ a.taken

/-- What repeating a step leads to, itself included, every further step before the place where it
begins. Places that have been reached are not gone on from again. -/
def reach (step : Place → List Place) : Nat → Place → List Place → List Place
  | 0, _, seen => seen
  | n + 1, p, seen =>
    if seen.any (·.taken == p.taken) then seen
    else (step p).foldl (fun seen q => reach step n q seen) (seen ++ [p])

/-- Repeats a step at most so many times. -/
def upTo (step : Place → List Place) : Nat → Place → List Place
  | 0, p => [p]
  | n + 1, p =>
    let further := (step p).filter fun q => q.taken != p.taken
    distinct (further.flatMap (upTo step n) ++ [p])

/-- Repeats a step exactly so many times. -/
def times (step : Place → List Place) : Nat → List Place → List Place
  | 0, places => places
  | n + 1, places => times step n (distinct (places.flatMap step))

def isWordChar (c : Char) : Bool := c.isAlphanum || c == '_'

/-- The places that an expression leads to from a place, the preferred ones first. -/
def ends (anyCase : Bool) : Regex → Place → List Place
  | .empty, p => [p]
  | .char d, p => pass (fun c => Member.agree anyCase c d) p
  | .any, p => pass (fun _ => true) p
  | .set negated members, p =>
    pass (fun c => Member.hasAny anyCase members c != negated) p
  | .textStart, p => if p.before.isEmpty then [p] else []
  | .textEnd, p => if p.rest.isEmpty then [p] else []
  | .wordStart, p => if !wordBefore p && wordBehind p then [p] else []
  | .wordEnd, p => if wordBefore p && !wordBehind p then [p] else []
  | .wordEdge, p => if wordBefore p != wordBehind p then [p] else []
  | .noWordEdge, p => if wordBefore p == wordBehind p then [p] else []
  | .sequence a b, p => distinct ((ends anyCase a p).flatMap fun q => longestFirst (ends anyCase b q))
  | .either a b, p => longestFirst (distinct (ends anyCase a p ++ ends anyCase b p))
  | .group number r, p =>
    (longestFirst (ends anyCase r p)).map fun q =>
      { q with groups := (number, p.taken, p.rest.take (q.taken - p.taken)) :: q.groups }
  | .repeated r least most, p =>
    let step (p : Place) : List Place := longestFirst (ends anyCase r p)
    let begun := times step least [p]
    longestFirst (distinct (match most with
      | none => begun.flatMap fun q => reach step (q.rest.length + 1) q []
      | some n => begun.flatMap (upTo step (n - least))))
where
  pass (holds : Char → Bool) (p : Place) : List Place :=
    match p.rest with
    | c :: _ => if holds c then [p.advance 1] else []
    | [] => []
  wordBefore (p : Place) : Bool := (p.before.head?.map isWordChar).getD false
  wordBehind (p : Place) : Bool := (p.rest.head?.map isWordChar).getD false

/-- Where an expression is found first: what it takes there. -/
def findFrom (anyCase : Bool) (r : Regex) : Nat → Place → Option (Place × List Char)
  | 0, _ => none
  | n + 1, p =>
    match (longestFirst (ends anyCase r p)).head? with
    | some q => some (q, p.rest.take (q.taken - p.taken))
    | none => if p.rest.isEmpty then none else findFrom anyCase r n (p.advance 1)

/-- What an expression takes of a text, and what each of its groups took. -/
def find? (anyCase : Bool) (r : Regex) (groups : Nat) (cs : List Char) : Option (List (List Char)) :=
  (findFrom anyCase r (cs.length + 1) ⟨[], cs, 0, []⟩).map fun (q, whole) =>
    whole :: (List.range groups).map fun i => ((q.groups.lookup (i + 1)).map (·.2)).getD []

end Regex

end ActionServer.Shell
