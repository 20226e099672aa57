import ActionServer.Shell.Quoting

/-!
# Patterns

A star stands for any text, a question mark for any character, a bracket for one character of a set,
and a sign with alternatives between parentheses for one or more of them, or for what is none of them.
Characters that were quoted stand for themselves.

What a pattern has the form of is told by the places that it can lead to from some places in a text.
-/

namespace ActionServer.Shell

/-- A character of an expanded word: quoted ones have no special meaning. -/
structure Mark where
  char : Char
  isQuoted : Bool
  deriving DecidableEq, Repr, Inhabited

namespace Mark

/-- Whether the character is a certain special one. -/
def isSpecial (m : Mark) (c : Char) : Bool := m.char == c && !m.isQuoted

/-- The text of marked characters. -/
def text (ms : List Mark) : List Char := ms.map (·.char)

/-- Unquoted characters. -/
def plain (cs : List Char) : List Mark := cs.map fun c => ⟨c, false⟩

/-- Quoted characters. -/
def quoted (cs : List Char) : List Mark := cs.map fun c => ⟨c, true⟩

end Mark

/-- Characters of a set. -/
inductive Member where
  | one (c : Char)
  | range (first last : Char)
  | named (name : String)
  deriving DecidableEq, Repr

namespace Member

/-- Classes of characters by their names. -/
def inClass (name : String) (c : Char) : Bool :=
  match name with
  | "alpha" => c.isAlpha
  | "digit" => c.isDigit
  | "alnum" => c.isAlphanum
  | "upper" => c.isUpper
  | "lower" => c.isLower
  | "space" => " \t\n\x0b\x0c\r".toList.contains c
  | "blank" => c == ' ' || c == '\t'
  | "punct" => '!' ≤ c && c ≤ '~' && !c.isAlphanum
  | "print" => ' ' ≤ c && c ≤ '~'
  | "graph" => '!' ≤ c && c ≤ '~'
  | "cntrl" => c < ' ' || c == '\x7f'
  | "xdigit" => c.isDigit || ('a' ≤ c && c ≤ 'f') || ('A' ≤ c && c ≤ 'F')
  | "word" => c.isAlphanum || c == '_'
  | "ascii" => c.toNat < 128
  | _ => false

def contains (c : Char) : Member → Bool
  | one d => c == d
  | range first last => first ≤ c && c ≤ last
  | named name => inClass name c

/-- Whether a character is in a set, perhaps whatever its case. -/
def hasAny (anyCase : Bool) (members : List Member) (c : Char) : Bool :=
  members.any fun m =>
    m.contains c || (anyCase && (m.contains c.toLower || m.contains c.toUpper))

/-- Whether two characters are the same, perhaps whatever their case. -/
def agree (anyCase : Bool) (c d : Char) : Bool :=
  c == d || (anyCase && c.toLower == d.toLower)

end Member

namespace Pattern

/-- How often the alternatives of a group occur. -/
inductive GroupKind where
  | optional
  | anyNumber
  | oneOrMore
  | once
  | absent
  deriving DecidableEq, Repr

inductive Item where
  | char (c : Char)
  | any
  | star
  | set (negated : Bool) (members : List Member)
  | group (kind : GroupKind) (choices : List (List Item))

/-- The name between the signs of a class, if the text goes on with one; with what follows. -/
def className? (sign : Char) (ms : List Mark) : Option (String × List Mark) :=
  let name := ms.takeWhile fun m => m.char != sign
  match ms.drop name.length with
  | a :: b :: rest =>
    if a.char == sign && b.char == ']' then some (String.ofList (Mark.text name), rest) else none
  | _ => none

/-- The members of a bracket up to its end, with what follows; nothing if the bracket is not closed. -/
def members? : Nat → (isFirst : Bool) → List Mark → Option (List Member × List Mark)
  | 0, _, _ => none
  | _, _, [] => none
  | n + 1, isFirst, m :: rest =>
    let add (member : Member) (rest : List Mark) : Option (List Member × List Mark) :=
      (members? n false rest).map fun (members, after) => (member :: members, after)
    let single (m : Mark) (rest : List Mark) : Option (List Member × List Mark) :=
      match rest with
      | dash :: last :: after =>
        if dash.isSpecial '-' && !last.isSpecial ']' then
          match last.isSpecial '\\', after with
          | true, escaped :: after => add (.range m.char escaped.char) after
          | _, _ => add (.range m.char last.char) after
        else add (.one m.char) rest
      | _ => add (.one m.char) rest
    if m.isSpecial ']' && !isFirst then some ([], rest)
    else
      match m.isSpecial '[', m.isSpecial '\\', rest with
      | true, _, sign :: more =>
        let class? := if sign.isSpecial ':' || sign.isSpecial '=' || sign.isSpecial '.' then
            className? sign.char more
          else none
        match class? with
        | some (name, after) =>
          if sign.char = ':' then add (.named name) after
          else
            match name.toList with
            | [c] => single ⟨c, true⟩ after
            | _ => single m rest
        | none => single m rest
      | _, true, escaped :: more => single ⟨escaped.char, true⟩ more
      | _, _, _ => single m rest

/-- A bracket whose sign has been passed, with what follows it. -/
def bracket? (rest : List Mark) : Option (Item × List Mark) :=
  match rest with
  | m :: others =>
    if m.isSpecial '!' || m.isSpecial '^' then
      (members? (rest.length + 1) true others).map fun (members, after) => (.set true members, after)
    else (members? (rest.length + 1) true rest).map fun (members, after) => (.set false members, after)
  | [] => none

def groupKind? (m : Mark) : Option GroupKind :=
  if m.isQuoted then none
  else
    match m.char with
    | '?' => some .optional
    | '*' => some .anyNumber
    | '+' => some .oneOrMore
    | '@' => some .once
    | '!' => some .absent
    | _ => none

/-- The alternatives up to the parenthesis that closes an open one, with what follows it; `depth`
counts those that were opened since. The alternative that is being read comes with its last mark
first. -/
def choices? : (depth : Nat) → List Mark → List Mark → Option (List (List Mark) × List Mark)
  | _, _, [] => none
  | depth, sofar, m :: rest =>
    if m.isSpecial '(' then choices? (depth + 1) (m :: sofar) rest
    else if m.isSpecial ')' then
      match depth with
      | 0 => some ([sofar.reverse], rest)
      | d + 1 => choices? d (m :: sofar) rest
    else if m.isSpecial '|' && depth == 0 then
      (choices? 0 [] rest).map fun (choices, after) => (sofar.reverse :: choices, after)
    else choices? depth (m :: sofar) rest

/-- The items of a pattern; groups count only where they are wanted. -/
def read (groups : Bool) : Nat → List Mark → List Item
  | 0, _ => []
  | _, [] => []
  | n + 1, m :: rest =>
    let group? : Option (Item × List Mark) :=
      match groups, groupKind? m, rest with
      | true, some kind, open_ :: more =>
        if open_.isSpecial '(' then
          (choices? 0 [] more).map fun (choices, after) =>
            (.group kind (choices.map (read groups n)), after)
        else none
      | _, _, _ => none
    match group? with
    | some (item, after) => item :: read groups n after
    | none =>
      if m.isSpecial '*' then .star :: read groups n rest
      else if m.isSpecial '?' then .any :: read groups n rest
      else if m.isSpecial '[' then
        match bracket? rest with
        | some (item, after) => item :: read groups n after
        | none => .char '[' :: read groups n rest
      else if m.isSpecial '\\' then
        match rest with
        | escaped :: more => .char escaped.char :: read groups n more
        | [] => [.char '\\']
      else .char m.char :: read groups n rest

/-- A place in a text: how much is before it, and what is behind it. -/
abbrev Place := Nat × List Char

/-- Two lists of places in the order of a text as one. -/
def union : List Place → List Place → List Place
  | [], qs => qs
  | ps, [] => ps
  | p :: ps, q :: qs =>
    if p.1 < q.1 then p :: union ps (q :: qs)
    else if q.1 < p.1 then q :: union (p :: ps) qs
    else p :: union ps qs
termination_by ps qs => ps.length + qs.length

/-- All places from one on. -/
def following : Nat → List Char → List Place
  | n, [] => [(n, [])]
  | n, c :: cs => (n, c :: cs) :: following (n + 1) cs

/-- The places behind a character that a condition holds of. -/
def pass (p : Char → Bool) (places : List Place) : List Place :=
  places.filterMap fun (n, cs) =>
    match cs with
    | c :: rest => if p c then some (n + 1, rest) else none
    | [] => none

/-- The places that some steps lead to, none of them included. -/
def closure (step : List Place → List Place) : Nat → List Place → List Place
  | 0, places => places
  | n + 1, places =>
    let more := union places (step places)
    if more.length = places.length then places else closure step n more

mutual

/-- The places that items lead to from some places. -/
def ends (anyCase : Bool) : List Item → List Place → List Place
  | [], places => places
  | item :: rest, places =>
    if places.isEmpty then [] else ends anyCase rest (itemEnds anyCase item places)

def itemEnds (anyCase : Bool) : Item → List Place → List Place
  | .char d, places => pass (fun c => Member.agree anyCase c d) places
  | .any, places => pass (fun _ => true) places
  | .set negated members, places =>
    pass (fun c => Member.hasAny anyCase members c != negated) places
  | .star, places =>
    match places with
    | (n, cs) :: _ => following n cs
    | [] => []
  | .group kind choices, places =>
    let step (places : List Place) : List Place := choiceEnds anyCase choices places
    let steps := match places with
      | (_, cs) :: _ => cs.length + 1
      | [] => 0
    match kind with
    | .once => step places
    | .optional => union places (step places)
    | .anyNumber => closure step steps places
    | .oneOrMore => closure step steps (step places)
    | .absent =>
      places.foldl (fun found (n, cs) =>
        let forbidden := (step [(n, cs)]).map (·.1)
        union found ((following n cs).filter fun p => !forbidden.contains p.1)) []

/-- The places that one of some alternatives leads to. -/
def choiceEnds (anyCase : Bool) : List (List Item) → List Place → List Place
  | [], _ => []
  | choice :: rest, places => union (ends anyCase choice places) (choiceEnds anyCase rest places)

end

end Pattern

/-- A pattern, and whether letters count as the same whatever their case. -/
structure Pattern where
  items : List Pattern.Item
  anyCase : Bool

namespace Pattern

def ofMarks (groups anyCase : Bool) (ms : List Mark) : Pattern :=
  ⟨read groups (ms.length + 1) ms, anyCase⟩

/-- The lengths at which the beginning of a text has the form of a pattern, in order. -/
def startLengths (p : Pattern) (cs : List Char) : List Nat :=
  (ends p.anyCase p.items [(0, cs)]).map (·.1)

/-- Whether a text as a whole has the form of a pattern. -/
def holds (p : Pattern) (cs : List Char) : Bool :=
  (ends p.anyCase p.items [(0, cs)]).any fun (_, rest) => rest.isEmpty

/-- A text without the shortest or longest beginning that has the form of a pattern. -/
def dropStart (longest : Bool) (p : Pattern) (cs : List Char) : List Char :=
  let lengths := p.startLengths cs
  match if longest then lengths.getLast? else lengths.head? with
  | some n => cs.drop n
  | none => cs

/-- The lengths without the ends that have the form of a pattern, in order. -/
def endLengths (p : Pattern) (cs : List Char) : List Nat :=
  ((following 0 cs).filter fun (_, rest) => p.holds rest).map (·.1)

/-- A text without the shortest or longest end that has the form of a pattern. -/
def dropEnd (longest : Bool) (p : Pattern) (cs : List Char) : List Char :=
  let keeps := p.endLengths cs
  match if longest then keeps.head? else keeps.getLast? with
  | some n => cs.take n
  | none => cs

/-- Replaces the first, or every, longest part that has the form of a pattern, by what a function
makes of it. -/
def replace (all : Bool) (p : Pattern) (word : List Char → List Char) : Nat → List Char → List Char
  | 0, cs => cs
  | n + 1, cs =>
    match (p.startLengths cs).getLast? with
    | some (k + 1) =>
      word (cs.take (k + 1)) ++
        if all then replace all p word n (cs.drop (k + 1)) else cs.drop (k + 1)
    | _ =>
      match cs with
      | [] => []
      | c :: rest => c :: replace all p word n rest

/-- Replaces the longest beginning that has the form of a pattern. -/
def replaceStart (p : Pattern) (word : List Char → List Char) (cs : List Char) : List Char :=
  match (p.startLengths cs).getLast? with
  | some n => word (cs.take n) ++ cs.drop n
  | none => cs

/-- Replaces the longest end that has the form of a pattern. -/
def replaceEnd (p : Pattern) (word : List Char → List Char) (cs : List Char) : List Char :=
  match (p.endLengths cs).head? with
  | some n => cs.take n ++ word (cs.drop n)
  | none => cs

end Pattern

end ActionServer.Shell
