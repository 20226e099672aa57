import ActionServer.Shell.Parameters

/-!
# Arithmetic of shell scripts

Expressions over integers of sixty-four bits, which wrap around. A name stands for the value of its
variable, which is an expression again; an empty or missing one is zero. A place in an array is an
expression too, unless the array has keys. Assignments change the variables, also those of an
expression that is faulty further on.
-/

namespace ActionServer.Shell.Arithmetic

/-- What is wrong with an expression. -/
inductive Problem where
  | divisionByZero
  | operandExpected
  | invalidOperator
  | leftOver
  | nonVariable
  | missingParenthesis
  | colonExpected
  | expressionExpected
  | digitTooGreat
  | invalidBase
  | invalidNumber
  | missingDigits
  | negativeExponent
  | tooDeep
  | badSubscript
  | readonly (name : String)
  | unbound (name : String)
  deriving DecidableEq, Repr

def Problem.message : Problem → String
  | divisionByZero => "division by 0"
  | operandExpected => "syntax error: operand expected"
  | invalidOperator => "syntax error: invalid arithmetic operator"
  | leftOver => "syntax error in expression"
  | nonVariable => "attempted assignment to non-variable"
  | missingParenthesis => "missing \x60)'"
  | colonExpected => "\x60:' expected for conditional expression"
  | expressionExpected => "expression expected"
  | digitTooGreat => "value too great for base"
  | invalidBase => "invalid arithmetic base"
  | invalidNumber => "invalid number"
  | missingDigits => "invalid integer constant"
  | negativeExponent => "exponent less than 0"
  | tooDeep => "expression recursion level exceeded"
  | badSubscript => "bad array subscript"
  | readonly name => s!"{name}: readonly variable"
  | unbound name => s!"{name}: unbound variable"

/-- A problem with the expression that has it, and the part of it from where the problem was seen. -/
structure Fault where
  problem : Problem
  expression : List Char
  token : List Char
  deriving DecidableEq, Repr

def isSpace (c : Char) : Bool := c == ' ' || c == '\t' || c == '\n'

/-- What is said of a fault under the name of a command, if there is one. -/
def Fault.message (f : Fault) (command : String) : String :=
  match f.problem with
  | .readonly _ | .unbound _ => f.problem.message
  | problem =>
    let expression := String.ofList (f.expression.dropWhile isSpace)
    let problem := problem.message
    let token := String.ofList f.token
    (if command = "" then "" else command ++ ": ") ++
      s!"{expression}: {problem} (error token is \"{token}\")"

/-- A number, name or operator; or what stands in the place of one. -/
inductive Sign where
  | number (n : Int)
  | name (s : String) (place : Option (List Char))
  | op (s : String)
  | badNumber (problem : Problem) (word : List Char)
  | badPlace
  | unknown
  deriving DecidableEq, Repr

/-- A sign, with the text of the expression from where it begins. -/
structure Lexeme where
  sign : Sign
  text : List Char
  deriving Repr

/-- The operators, longer ones before their beginnings. -/
def operators : List String :=
  ["<<=", ">>=", "**", "++", "--", "<=", ">=", "==", "!=", "&&", "||", "<<", ">>", "+=", "-=", "*=",
    "/=", "%=", "&=", "|=", "^=", "+", "-", "*", "/", "%", "<", ">", "=", "!", "~", "&", "|", "^", "?",
    ":", "(", ")", ","]

/-- The value of a digit; letters are digits of larger bases. -/
def digit? (c : Char) : Option Nat :=
  if c.isDigit then some (c.toNat - '0'.toNat)
  else if c.isLower then some (c.toNat - 'a'.toNat + 10)
  else if c.isUpper then some (c.toNat - 'A'.toNat + 36)
  else if c = '@' then some 62
  else if c = '_' then some 63
  else none

/-- Digits in a base. -/
def natOf (base : Nat) (ds : List Char) : Except Problem Nat :=
  ds.foldl (fun n c => do
    let n ← n
    match digit? c with
    | none => .error .invalidNumber
    | some d =>
      let d := if base ≤ 36 ∧ 36 ≤ d ∧ d < 62 then d - 26 else d
      if d < base then .ok (base * n + d) else .error .digitTooGreat) (.ok 0)

/-- A number as it is written: decimal, octal after a zero, hexadecimal after `0x`, or in a base that
stands before a number sign. -/
def number (cs : List Char) : Except Problem Nat :=
  let front := cs.takeWhile (· != '#')
  if front.length < cs.length then do
    let digits := cs.drop (front.length + 1)
    if front.head? = some '0' then .error .invalidNumber
    else
      let base ← natOf 10 front
      if base < 2 ∨ 64 < base then .error .invalidBase
      else if digits.isEmpty then .error .missingDigits
      else natOf base digits
  else
    match cs with
    | '0' :: 'x' :: rest | '0' :: 'X' :: rest => natOf 16 rest
    | '0' :: rest => natOf 8 rest
    | _ => natOf 10 cs

/-- Whether a text begins with a name, after blanks. -/
def startsName (cs : List Char) : Bool :=
  match cs.dropWhile isSpace with
  | c :: _ => c.isAlpha || c == '_'
  | [] => false

/-- The operator that a text begins with. A double sign counts as one only next to a name. -/
def operator? (afterName : Bool) (text : List Char) : Option String :=
  (operators.find? fun o => o.toList.isPrefixOf text).map fun o =>
    if (o = "++" ∨ o = "--") ∧ !afterName ∧ !startsName (text.drop 2) then String.ofList (o.toList.take 1)
    else o

/-- The text up to the bracket that closes an open one, and what follows it. -/
def bracketed : (depth : Nat) → List Char → Option (List Char × List Char)
  | _, [] => none
  | 0, ']' :: rest => some ([], rest)
  | depth, c :: rest =>
    let depth := if c = '[' then depth + 1 else if c = ']' then depth - 1 else depth
    (bracketed depth rest).map fun (inner, after) => (c :: inner, after)

/-- The lexemes of an expression. What is no sign ends it. -/
def lexemes : Nat → (afterName : Bool) → List Char → List Lexeme
  | 0, _, _ => []
  | _, _, [] => []
  | n + 1, afterName, c :: rest =>
    let text := c :: rest
    if isSpace c then lexemes n afterName rest
    else if c.isDigit then
      let word := text.takeWhile fun d => d.isAlphanum || d == '#' || d == '@' || d == '_'
      match number word with
      | .ok v => ⟨.number v, text⟩ :: lexemes n false (text.drop word.length)
      | .error problem => [⟨.badNumber problem word, text⟩]
    else if c.isAlpha || c == '_' then
      let word := text.takeWhile fun d => d.isAlphanum || d == '_'
      match text.drop word.length with
      | '[' :: more =>
        match bracketed 0 more with
        | some (place, after) =>
          ⟨.name (String.ofList word) (some place), text⟩ :: lexemes n true after
        | none => [⟨.badPlace, text⟩]
      | after => ⟨.name (String.ofList word) none, text⟩ :: lexemes n true after
    else
      match operator? afterName text with
      | some o => ⟨.op o, text⟩ :: lexemes n false (text.drop o.length)
      | none => [⟨.unknown, text⟩]

/-- An integer of sixty-four bits. -/
def wrap (i : Int) : Int :=
  let m := i % Nat.pow 2 64
  if m < Nat.pow 2 63 then m else m - Nat.pow 2 64

def ofBool (b : Bool) : Int := if b then 1 else 0

/-- Bits of two integers, taken as numbers below `2 ^ 64`. -/
def bits (f : Nat → Nat → Nat) (a b : Int) : Int :=
  wrap (f (a % Nat.pow 2 64).toNat (b % Nat.pow 2 64).toNat)

/-- The value of an operator. -/
def apply (op : String) (a b : Int) : Except Problem Int :=
  match op with
  | "+" => .ok (wrap (a + b))
  | "-" => .ok (wrap (a - b))
  | "*" => .ok (wrap (a * b))
  | "/" => if b = 0 then .error .divisionByZero else .ok (wrap (a.tdiv b))
  | "%" => if b = 0 then .error .divisionByZero else .ok (wrap (a.tmod b))
  | "**" => if b < 0 then .error .negativeExponent else .ok (wrap (a.pow (b.toNat % 4096)))
  | "<<" => .ok (wrap (a * Nat.pow 2 (b % 64).toNat))
  | ">>" => .ok (wrap (a / Nat.pow 2 (b % 64).toNat))
  | "<" => .ok (ofBool (a < b))
  | ">" => .ok (ofBool (a > b))
  | "<=" => .ok (ofBool (a ≤ b))
  | ">=" => .ok (ofBool (a ≥ b))
  | "==" => .ok (ofBool (a == b))
  | "!=" => .ok (ofBool (a != b))
  | "&" => .ok (bits Nat.land a b)
  | "|" => .ok (bits Nat.lor a b)
  | "^" => .ok (bits Nat.xor a b)
  | _ => .error .leftOver

/-- The shell, the expression, the lexemes still to be read, and the text of the last one that was. -/
structure State where
  machine : Machine
  /-- What is to be said of places that no array has. -/
  complaints : List String
  expression : List Char
  rest : List Lexeme
  /-- The text from the last lexeme on. -/
  last : List Char
  /-- Whether the last lexeme was an operator, or there was none. -/
  afterOperator : Bool

abbrev Eval := ExceptT Fault (StateM State)

/-- The text from the next lexeme on; from the last one where none is left. -/
def State.here (s : State) : List Char :=
  match s.rest with
  | l :: _ => l.text
  | [] => s.last

def fail {α : Type} (problem : Problem) : Eval α := do
  let s ← get
  throw ⟨problem, s.expression, s.here⟩

/-- The next sign; what is no sign is a fault as soon as it is looked at. -/
def peek : Eval (Option Sign) := do
  let s ← get
  match s.rest with
  | [] => return none
  | l :: _ =>
    match l.sign with
    | .badNumber problem word =>
      let before := s.expression.length - l.text.length
      throw ⟨problem, s.expression.take (before + word.length), word⟩
    | .badPlace => fail .badSubscript
    | .unknown => fail (if s.afterOperator then .operandExpected else .invalidOperator)
    | sign => return some sign

def skip : Eval Unit := modify fun s =>
  match s.rest with
  | [] => s
  | l :: rest =>
    let afterOperator := match l.sign with
      | .op _ => true
      | _ => false
    { s with rest, last := l.text, afterOperator }

/-- The operator that is next, if it is one of some. -/
def nextOp (ops : List String) : Eval (Option String) := do
  match ← peek with
  | some (.op o) =>
    if ops.contains o then do
      skip
      return some o
    else return none
  | _ => return none

/-- Demands an operator. -/
def expectOp (o : String) (problem : Problem) : Eval Unit := do
  match ← nextOp [o] with
  | some _ => return ()
  | none => fail problem

def changeMachine (f : Machine → Machine) : Eval Unit :=
  modify fun s => { s with machine := f s.machine }

def complain (message : String) : Eval Unit :=
  modify fun s => { s with complaints := s.complaints ++ [message] }

/-- Binary operators, those that bind less before those that bind more. -/
def levels : List (List String) :=
  [["|"], ["^"], ["&"], ["==", "!="], ["<=", ">=", "<", ">"], ["<<", ">>"], ["+", "-"],
    ["*", "/", "%"]]

/-- Operators that change a variable. -/
def assignments : List String :=
  ["=", "+=", "-=", "*=", "/=", "%=", "<<=", ">>=", "&=", "|=", "^="]

/-- What a reading is about to read. -/
inductive Goal where
  | comma
  | assignment
  | choice
  | disjunction
  | conjunction
  | level (rest : List (List String))
  | power
  | unary
  | primary
  /-- The value of a variable, perhaps at a place. -/
  | named (name : String) (place : Option (List Char))
  /-- The value of a text that is an expression by itself. -/
  | nested (text : List Char)

/-- An operator on two values, the second of which begins at a text. Without effect no division
fails. -/
def binary (live : Bool) (o : String) (a b : Int) (operand : List Char) : Eval Int := do
  match apply o a b with
  | .ok v => return v
  | .error problem =>
    let s ← get
    if live then
      throw ⟨problem, s.expression, if problem = .divisionByZero then operand else s.here⟩
    else return 0

/-- The variable that a name stands for, with the place that goes with it. -/
def locate (name : String) (place : Option (List Char)) : Eval (String × Option (List Char)) := do
  let m := (← get).machine
  let (found, own) := Machine.splitPlace (m.target name)
  return (found, place <|> own.map String.toList)

/-- The text of a place with the values of parameters in it and without its quotes. Single quotes only
count among keys. -/
def placeText (m : Machine) (isKey : Bool) : Nat → List Char → List Char
  | 0, cs => cs
  | _, [] => []
  | n + 1, c :: rest =>
    let valueOf (name : List Char) : List Char :=
      ((m.parameter? (String.ofList name)).getD "").toList
    if c = '"' then placeText m isKey n rest
    else if c = '\'' ∧ isKey then placeText m isKey n rest
    else if c = '\\' ∧ isKey then rest.take 1 ++ placeText m isKey n (rest.drop 1)
    else if c = '$' then
      match rest with
      | '\x7b' :: inner =>
        let name := inner.takeWhile (· != '\x7d')
        if Words.isName name || (!name.isEmpty && name.all Char.isDigit) then
          valueOf name ++ placeText m isKey n (inner.drop (name.length + 1))
        else c :: placeText m isKey n rest
      | d :: after =>
        let name := rest.takeWhile Words.isNameChar
        if Words.isNameStart d then valueOf name ++ placeText m isKey n (rest.drop name.length)
        else if d.isDigit || Words.isSign d then valueOf [d] ++ placeText m isKey n after
        else c :: placeText m isKey n rest
      | [] => [c]
    else c :: placeText m isKey n rest

/-- The key that a place in an expression is. -/
def keyOf (m : Machine) (place : List Char) : String :=
  String.ofList (placeText m true (place.length + 1) place)

/-- The expression that a place in an expression is. -/
def indexText (m : Machine) (place : List Char) : List Char :=
  placeText m false (place.length + 1) place

/-- The place of a number in a list; a negative one counts from the end. -/
def placeOf? (items : List (Nat × String)) (i : Int) : Option Nat :=
  let i := if i < 0 then i + Indexed.stop items else i
  if i < 0 then none else some i.toNat

/-- Reads and evaluates what is next. Where `live` is false, nothing is changed and no division
fails. -/
def eval : Nat → (live : Bool) → Goal → Eval Int
  | 0, _, _ => fail .tooDeep
  | n + 1, live, .comma => do
    let v ← eval n live .assignment
    match ← nextOp [","] with
    | some _ => eval n live .comma
    | none => return v
  | n + 1, live, .assignment => do
    let s ← get
    match s.rest with
    | ⟨.name name place, _⟩ :: ⟨.op o, _⟩ :: _ =>
      if assignments.contains o then do
        skip
        skip
        let operand := (← get).here
        let v ← eval n live .assignment
        let v ← if o = "=" then pure v else do
          let old ← eval n live (.named name place)
          binary live (String.ofList (o.toList.dropLast)) old v operand
        if live then assign n name place v
        return v
      else eval n live .choice
    | _ => do
      let v ← eval n live .choice
      match ← peek with
      | some (.op o) => if assignments.contains o then fail .nonVariable else return v
      | _ => return v
  | n + 1, live, .choice => do
    let c ← eval n live .disjunction
    match ← nextOp ["?"] with
    | none => return c
    | some _ => do
      match ← peek with
      | none | some (.op ":") => fail .expressionExpected
      | _ => do
        let a ← eval n (live && c != 0) .assignment
        expectOp ":" .colonExpected
        match ← peek with
        | none => fail .expressionExpected
        | _ => do
          let b ← eval n (live && c == 0) .choice
          return if c != 0 then a else b
  | n + 1, live, .disjunction => do
    let a ← eval n live .conjunction
    match ← nextOp ["||"] with
    | none => return a
    | some _ => do
      let b ← eval n (live && a == 0) .disjunction
      return ofBool (a != 0 || b != 0)
  | n + 1, live, .conjunction => do
    let a ← eval n live (.level levels)
    match ← nextOp ["&&"] with
    | none => return a
    | some _ => do
      let b ← eval n (live && a != 0) .conjunction
      return ofBool (a != 0 && b != 0)
  | n + 1, live, .level [] => eval n live .power
  | n + 1, live, .level (ops :: higher) => do
    let a ← eval n live (.level higher)
    more n live ops higher a
  | n + 1, live, .power => do
    let a ← eval n live .unary
    match ← nextOp ["**"] with
    | none => return a
    | some _ => do
      let operand := (← get).here
      let b ← eval n live .power
      binary live "**" a b operand
  | n + 1, live, .unary => do
    match ← nextOp ["!", "~", "-", "+", "++", "--"] with
    | none => eval n live .primary
    | some "!" => return ofBool ((← eval n live .unary) == 0)
    | some "~" => return wrap (-(← eval n live .unary) - 1)
    | some "-" => return wrap (-(← eval n live .unary))
    | some "+" => eval n live .unary
    | some o => do
      match ← peek with
      | some (.name name place) => do
        skip
        let v := wrap ((← eval n live (.named name place)) + if o = "++" then 1 else -1)
        if live then assign n name place v
        return v
      | _ => eval n live .unary
  | n + 1, live, .primary => do
    match ← peek with
    | some (.number v) => do
      skip
      return wrap v
    | some (.name name place) => do
      skip
      let v ← eval n live (.named name place)
      match ← nextOp ["++", "--"] with
      | none => return v
      | some o => do
        if live then assign n name place (wrap (v + if o = "++" then 1 else -1))
        return v
    | some (.op "(") => do
      skip
      let v ← eval n live .comma
      expectOp ")" .missingParenthesis
      return v
    | _ => fail .operandExpected
  | n + 1, live, .named name place => do
    let (found, place) ← locate name place
    let m := (← get).machine
    let v := m.lookup? found
    let text ← match place with
      | none => pure (v.bind (·.first?))
      | some p =>
        match v.map (·.value) with
        | some (Value.keyed items) => pure (items.lookup (keyOf m p))
        | value => do
          let items := ((value.map Value.toIndexed).getD [])
          let p := indexText m p
          if p.all isSpace then do
            let shown := s!"{found}[]: bad array subscript"
            complain shown
            complain shown
            pure none
          else do
            let i ← eval n live (.nested p)
            match placeOf? items i with
            | some i => pure (if (v.map (·.isSet)).getD false then items.lookup i else none)
            | none => do
              complain s!"{found}: bad array subscript"
              pure none
    changeMachine (·.afterReading found)
    match text with
    | some text => eval n live (.nested text.toList)
    | none =>
      let isUnset := place.isNone || !(v.map (·.isSet)).getD false
      if m.unsetIsError && live && isUnset then fail (.unbound found)
      else return 0
  | n + 1, live, .nested text => do
    match lexemes (text.length + 1) false text with
    | [] => return 0
    | ls => do
      let s ← get
      set { s with expression := text, rest := ls, last := [], afterOperator := true }
      let v ← eval n live .comma
      match ← peek with
      | some _ => fail .leftOver
      | none => do
        modify fun t => { s with machine := t.machine, complaints := t.complaints }
        return v
where
  /-- More operands at one level. -/
  more : Nat → Bool → List String → List (List String) → Int → Eval Int
    | 0, _, _, _, _ => fail .tooDeep
    | n + 1, live, ops, higher, a => do
      match ← nextOp ops with
      | none => return a
      | some o => do
        let operand := (← get).here
        let b ← eval n live (.level higher)
        more n live ops higher (← binary live o a b operand)
  /-- Gives a variable a value, perhaps at a place. -/
  assign : Nat → String → Option (List Char) → Int → Eval Unit
    | 0, _, _, _ => fail .tooDeep
    | n + 1, name, place, v => do
      let (found, place) ← locate name place
      let old := (← get).machine.bound? found
      let attributes := (old.map (·.attributes)).getD {}
      let text := toString v
      if attributes.isReadonly then fail (.readonly found)
      match place with
      | none => changeMachine fun m => (m.setText found text).afterAssigning found text
      | some p =>
        match old.map (·.value) with
        | some (Value.keyed items) =>
          changeMachine fun m =>
            m.bind found ⟨.keyed (Keyed.put items (keyOf m p) text), true, attributes⟩
        | value => do
          if p.isEmpty then complain s!"\x60{found}[]': not a valid identifier"
          let i ← eval n true (.nested (indexText (← get).machine p))
          let items := ((value.map Value.toIndexed).getD [])
          match placeOf? items i with
          | some i =>
            changeMachine fun m =>
              m.bind found ⟨.indexed (Indexed.put items i text), true, attributes⟩
          | none => do
            let shown := String.ofList p
            complain s!"{found}[{shown}]: bad array subscript"

/-- What an expression comes to: its value or a fault, complaints, and the shell after it. An empty
expression is zero. -/
def value (m : Machine) (text : List Char) : Except Fault Int × List String × Machine :=
  let start : State := { machine := m, complaints := [], expression := text
                         rest := lexemes (text.length + 1) false text, last := []
                         afterOperator := true }
  if start.rest.isEmpty then (.ok 0, [], m)
  else
    let whole : Eval Int := do
      let v ← eval (40 * text.length + 2000) true .comma
      match ← peek with
      | some _ => fail .leftOver
      | none => return v
    let (result, s) := whole.run.run start
    (result, s.complaints, s.machine)

end ActionServer.Shell.Arithmetic
