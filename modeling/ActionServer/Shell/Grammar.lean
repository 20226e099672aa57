import ActionServer.Shell.Listing
import ActionServer.Shell.Words

/-!
# Reading commands

Commands are read from the words and operators of a script. Words such as `if` and `done` are special
where a command can begin; a script is refused at the first word or operator that cannot follow what
was read so far.
-/

namespace ActionServer.Shell

/-- A word or operator. -/
inductive Token where
  | word (w : Word)
  | op (sign : String)
  | newline
  | endOfFile

/-- A token with its line and the place behind it. -/
structure Lexeme where
  token : Token
  line : Nat
  after : Cursor

namespace Token

/-- How a token is told of in a diagnostic. -/
def name : Token → String
  | word w => w.source
  | op sign => sign
  | newline => "newline"
  | endOfFile => "end of file"

/-- Whether the token is a certain unquoted word. -/
def isWord (t : Token) (s : String) : Bool :=
  match t with
  | word w => w.source == s
  | _ => false

/-- Whether the line goes on with the token. -/
def continues : Token → Bool
  | newline | endOfFile => false
  | _ => true

def isOp (t : Token) (s : String) : Bool :=
  match t with
  | op sign => sign == s
  | _ => false

end Token

/-- How a word is read where it stands. -/
inductive WordMode where
  | usual
  /-- A word that can be an assignment. -/
  | assignable
  /-- The right side of a comparison, which is a pattern. -/
  | pattern
  /-- A regular expression. -/
  | regex
  deriving DecidableEq, Repr

/-- A place in a script, and the token that is there if it has been looked at. -/
structure Scanner where
  cursor : Cursor
  ahead : Option (WordMode × Lexeme)

abbrev Scan := StateT Scanner (Except SyntaxFault)

namespace Scan

/-- The end of the text where more is needed. -/
def ended {α : Type} : Scan α := fun s =>
  .error (.endOfFile s.cursor.line s.cursor.openDocuments)

/-- Goes on from another place. -/
def goTo (c : Cursor) : Scan Unit := fun _ => .ok ((), ⟨c, none⟩)

/-- Passes a token. -/
def accept (l : Lexeme) : Scan Unit := goTo l.after

/-- Reads with a reader of characters. -/
def characters {α : Type} (p : Parse α) : Scan α := fun s =>
  (p s.cursor).map fun (a, c) => (a, ⟨c, none⟩)

end Scan

namespace Grammar

/-- The operators, longer ones before their beginnings. -/
def operators : List String :=
  ["&>>", "<<<", "<<-", ";;&", "&&", "||", ";;", ";&", "<<", ">>", "<&", ">&", "<>", ">|", "&>",
    "|&", "&", ";", "(", ")", "|", "<", ">"]

/-- Blanks, comments and line continuations before a token. -/
def skipBlanks : Nat → Cursor → Cursor
  | 0, c => c
  | n + 1, c =>
    match c.rest with
    | ' ' :: _ | '\t' :: _ => skipBlanks n c.advance
    | '\\' :: '\n' :: _ => skipBlanks n (c.advanceBy 2)
    | '#' :: _ => c.advanceBy (c.rest.takeWhile (· != '\n')).length
    | _ => c

/-- The operator that a text begins with; a sign before a parenthesis begins a word. -/
def operator? (cs : List Char) : Option String :=
  match cs with
  | '<' :: '(' :: _ | '>' :: '(' :: _ => none
  | _ => operators.find? fun o => o.toList.isPrefixOf cs

/-- The token at a place, given a reader of words. -/
def lexeme (word : Parse Parts) (start : Cursor) : Except SyntaxFault Lexeme :=
  let c := skipBlanks (start.rest.length + 1) start
  let sign := if c.regex ∧ c.rest.head? = some '(' then none else operator? c.rest
  match c.rest, sign with
  | [], _ => .ok ⟨.endOfFile, c.line, c⟩
  | '\n' :: _, _ => .ok ⟨.newline, c.line, c.advance⟩
  | _, some o => .ok ⟨.op o, c.line, c.advanceBy o.length⟩
  | _, none =>
    match word c with
    | .ok (w, after) =>
      .ok ⟨.word (.mk w (String.ofList (c.between after))), after.line, after⟩
    | .error e => .error e

/-- Words that begin compound commands. -/
def openers : List String :=
  ["if", "while", "until", "for", "case", "\x7b", "[[", "function", "select", "coproc"]

/-- Words that cannot begin a command. -/
def closers : List String :=
  ["then", "else", "elif", "fi", "do", "done", "esac", "\x7d", "in", "]]"]

/-- All words with a meaning of their own. -/
def keywords : List String := "!" :: "time" :: openers ++ closers

/-- Commands whose arguments can be assignments. -/
def declarations : List String := ["alias", "declare", "export", "local", "readonly", "typeset"]

/-- Commands behind which an assignment can have the values of an array. -/
def listTakers : List String := declarations ++ ["eval", "let"]

/-- The operators of redirections. -/
def redirectKind? : String → Option RedirectKind
  | "<" => some .readFrom
  | ">" => some .writeTo
  | ">|" => some .overwrite
  | ">>" => some .append
  | "<>" => some .readWrite
  | "<&" => some .copyInput
  | ">&" => some .copyOutput
  | "&>" => some .bothTo
  | "&>>" => some .bothAppend
  | "<<" => some (.document false)
  | "<<-" => some (.document true)
  | "<<<" => some .line
  | _ => none

/-- Refuses a token. -/
def refuse {α : Type} (l : Lexeme) : Scan α := fun _ =>
  match l.token with
  | .endOfFile => .error (.endOfFile l.line l.after.openDocuments)
  | t => .error (.unexpected t.name l.line)

/-- How a token is told of in the diagnostics of a condition; most words are not. -/
def conditionName? : Token → Option String
  | .word w => if w.source = "]]" then some w.source else none
  | .endOfFile => some "EOF"
  | t => some t.name

/-- Refuses a token in a condition. -/
def refuseCondition {α : Type} (problems : List (ConditionProblem × Nat)) (l : Lexeme) : Scan α :=
  fun _ =>
    let atEnd := match l.token with
      | .endOfFile => true
      | _ => false
    .error (.condition problems atEnd l.line l.after.rest.length)

/-- The text of a delimiter, and whether a part of it was quoted. -/
def delimiter (w : Parts) : List Char × Bool :=
  w.foldl (fun (text, q) p =>
    match p with
    | .plain c => (text ++ [c], q)
    | .quoted cs => (text ++ cs, true)
    | _ => (text, q)) ([], false)

/-- The lines of a document. -/
structure Document where
  text : List Char
  /-- How many lines it takes, its delimiter included. -/
  lines : Nat
  /-- What follows. -/
  rest : List Char
  /-- Whether the delimiter is there. -/
  isClosed : Bool

/-- The lines of a document up to its delimiter. -/
def documentLines (stripTabs : Bool) (stop : List Char) : Nat → List Char → Document
  | 0, cs => ⟨[], 0, cs, false⟩
  | _, [] => ⟨[], 0, [], false⟩
  | n + 1, cs =>
    let line := cs.takeWhile (· != '\n')
    let rest := (cs.drop line.length).tail
    let line := if stripTabs then line.dropWhile (· == '\t') else line
    if line = stop then ⟨[], 1, rest, true⟩
    else
      let d := documentLines stripTabs stop n rest
      { d with text := line ++ '\n' :: d.text, lines := d.lines + 1 }

/-- The rest of a line, which goes on behind line feeds that are quoted. -/
def lineLeft : (quote : Option Char) → (afterBlank : Bool) → List Char → List Char
  | _, _, [] => []
  | some '\'', _, c :: rest => c :: lineLeft (if c = '\'' then none else some '\'') false rest
  | quote, _, '\\' :: c :: rest => '\\' :: c :: lineLeft quote false rest
  | some q, _, c :: rest => c :: lineLeft (if c = q then none else some q) false rest
  | none, afterBlank, c :: rest =>
    if c = '\n' then []
    else if c = '#' ∧ afterBlank then c :: rest.takeWhile (· != '\n')
    else c :: lineLeft (if c = '"' ∨ c = '\'' then some c else none) (c == ' ' || c == '\t') rest

/-- The parts of the text of a document. -/
def documentParts (commands : Parse (List Char)) (fuel : Nat) (c : Cursor) (text : List Char) :
    Parts :=
  let refused (use : ParameterUse) : Parts := [.parameter true (.mk false "" none) use]
  let start :=
    { Cursor.ofChars text c.line c.groups with isVerbatim := true, isDocument := true }
  match Words.parts commands fuel (fun _ => false) true start with
  | .ok (parts, _) => parts.map (Words.showAround true text)
  | .error (.unmatched closer _) =>
    if closer = '\x60' then
      let last := (text.reverse.takeWhile (· != closer)).reverse
      refused (.unclosed closer (closer :: last))
    else refused (.unclosed (if closer = '\'' || closer = '"' then '\x7d' else closer) text)
  | .error _ => refused (.unclosed ')' text)

/-- Takes the text of a document out of the lines that follow the current one; what it stands for, and
the text as it is. -/
def takeDocument (commands : Parse (List Char)) (fuel : Nat) (stripTabs : Bool) (w : Parts) :
    Parse (Parts × List Char) := do
  let c ← get
  let (stop, isQuoted) := delimiter w
  let before := lineLeft none false c.rest
  let deferral := (before.filter (· == '\n')).length
  let following := (c.rest.drop before.length).tail
  let d := documentLines stripTabs stop (following.length + 1) following
  let parts := if isQuoted then [.quoted d.text] else documentParts commands fuel c d.text
  let first := c.line + deferral + c.skipped
  let openDocuments := if d.isClosed then c.openDocuments
    else c.openDocuments ++ [⟨first + d.lines, first, String.ofList stop⟩]
  let rest := before ++ '\n' :: d.rest
  set { c with rest, skipped := c.skipped + d.lines, deferral, openDocuments }
  return (parts, d.text)

/-- What a word in front of a redirection says about its descriptor, if that is what it is for. -/
def redirectSource? (source : String) (after : Cursor) : Option RedirectSource :=
  if after.rest.head? != some '<' && after.rest.head? != some '>' then none
  else
    match source.toList with
    | '\x7b' :: cs =>
      if cs.getLast? = some '\x7d' ∧ Words.isName cs.dropLast then
        some (.variable (String.ofList cs.dropLast))
      else none
    | cs =>
      if !cs.isEmpty && cs.all Char.isDigit then some (.number (Words.number 10 cs)) else none

/-- Whether a command can begin with a token. -/
def canBegin : Token → Bool
  | .word w => !closers.contains w.source
  | .op sign => sign == "(" || (redirectKind? sign).isSome
  | _ => false

/-- The expression between two pairs of parentheses, of which the first sign has been read; nothing if
there is only one pair. -/
def expressionAt? (l : Lexeme) : Except SyntaxFault (Option (List Char × Cursor)) :=
  match l.after.rest with
  | '(' :: rest =>
    match Words.expressionText rest with
    | .ok (text, none) => .ok (some (text, l.after.advanceBy (text.length + 3)))
    | .ok (_, some _) => .ok none
    | .error closer => .error (.unmatched closer l.line)
  | _ => .ok none

/-- The texts between semicolons. -/
def splitSemicolons : List Char → List (List Char)
  | [] => [[]]
  | c :: rest =>
    if c = ';' then [] :: splitSemicolons rest
    else match splitSemicolons rest with
      | part :: more => (c :: part) :: more
      | [] => [[c]]

/-- Conditions on one word. -/
def isUnary (source : String) : Bool :=
  match source.toList with
  | ['-', c] => "abcdefghknoprstuvwxzGLNORS".toList.contains c
  | _ => false

/-- Conditions on two words. -/
def isBinary (source : String) : Bool :=
  ["=", "==", "!=", "=~", "-eq", "-ne", "-lt", "-le", "-gt", "-ge", "-ef", "-nt", "-ot"].contains
    source

/-- How the right side of a condition is read. -/
def sideMode (op : String) : WordMode :=
  if op = "=~" then .regex
  else if ["=", "==", "!="].contains op then .pattern
  else .usual

/-- A command whose standard error goes where its output goes. -/
def withErrors (c : Command) : Command :=
  let r : Redirect := .mk (.number 2) .copyOutput (.mk [.plain '1'] "1") [] false
  match c with
  | .simple line assignments words redirects => .simple line assignments words (redirects ++ [r])
  | .subshell line body redirects => .subshell line body (redirects ++ [r])
  | .group body redirects => .group body (redirects ++ [r])
  | .conditional clauses otherwise redirects => .conditional clauses otherwise (redirects ++ [r])
  | .loop untilSuccess condition body redirects =>
    .loop untilSuccess condition body (redirects ++ [r])
  | .each line name words body redirects => .each line name words body (redirects ++ [r])
  | .select line name words body redirects => .select line name words body (redirects ++ [r])
  | .counted line first condition last body redirects =>
    .counted line first condition last body (redirects ++ [r])
  | .choice line word branches redirects => .choice line word branches (redirects ++ [r])
  | .expression line text redirects => .expression line text (redirects ++ [r])
  | .test line condition redirects => .test line condition (redirects ++ [r])
  | c => .group [c] [r]

mutual

/-- A word of a script. -/
def word : Nat → WordMode → Parse Parts
  | 0, _ => Words.ended
  | n + 1, .usual => Words.parts (inner n) n Words.isMeta false
  | n + 1, .pattern => do
    let outer ← get
    set { outer with groups := true }
    let w ← Words.parts (inner n) n Words.isMeta false
    modify fun c => { c with groups := outer.groups }
    return w
  | n + 1, .regex => do
    modify fun c => { c with regex := true }
    let w ← Words.parts (inner n) n Words.isMeta false
    modify fun c => { c with regex := false }
    return w
  | n + 1, .assignable => do
    let start ← get
    let name ← if (start.rest.head?.map Words.isNameStart).getD false then
        Words.takeWhile Words.isNameChar
      else pure []
    let place ← match name, (← get).rest with
      | [], _ => pure []
      | _, '[' :: _ => do
        Words.skip 1
        let text ← Words.bracketed (inner n) false n 0
        pure (.plain '[' :: text ++ [.plain ']'])
      | _, _ => pure []
    let front := name.map .plain ++ place
    match name, (← get).rest with
    | [], _ => Words.parts (inner n) n Words.isMeta false
    | _, '=' :: '(' :: _ => do
      Words.skip 2
      return front ++ [.plain '=', .items (← array n)]
    | _, '+' :: '=' :: '(' :: _ => do
      Words.skip 3
      return front ++ [.plain '+', .plain '=', .items (← array n)]
    | _, _ => return front ++ (← Words.parts (inner n) n Words.isMeta false)

/-- The values of an array up to the closing parenthesis, which is passed. They are shown with one
blank between them. -/
def array : Nat → Parse (List Item)
  | 0 => Words.ended
  | n + 1 => do
    let start ← get
    let items ← fun c =>
      match items n start.line c with
      | .error (.unmatched closer line) => .error (.inArray (.unmatched closer line))
      | .error (.openSubstitution line documents) =>
        .error (.inArray (.openSubstitution line documents))
      | result => result
    modify (start.rewrite 1 ([' '].intercalate (items.map (·.2))))
    return items.map (·.1)

/-- The values of an array that begins in a certain line, each with its text. -/
def items : Nat → (line : Nat) → Parse (List (Item × List Char))
  | 0, _ => Words.ended
  | n + 1, line => do
    modify fun c => skipBlanks (c.rest.length + 1) c
    let start ← get
    let value : Parse Parts := Words.parts (inner n) n Words.isMeta false
    let followed (item : Item) : Parse (List (Item × List Char)) := do
      let text := start.between (← get)
      return (item, text) :: (← items n line)
    match start.rest with
    | [] => Words.fault fun _ => .unmatched ')' line
    | '\n' :: _ => do
      Words.skip 1
      items n line
    | ')' :: _ => do
      Words.skip 1
      return []
    | '[' :: _ => do
      Words.skip 1
      let place ← Words.bracketed (inner n) false n 0
      match (← get).rest with
      | '=' :: _ => do
        Words.skip 1
        followed (.mk (some place) false (← value))
      | '+' :: '=' :: _ => do
        Words.skip 2
        followed (.mk (some place) true (← value))
      | _ => followed (.mk none false (.plain '[' :: place ++ .plain ']' :: (← value)))
    | _ =>
      let refused (token : String) : Parse (List (Item × List Char)) :=
        Words.fault fun line => .inArray (.unexpected token line)
      let digits := start.rest.takeWhile Char.isDigit
      let following := (start.rest.drop digits.length).head?
      match operator? start.rest with
      | some o => refused o
      | none =>
        if !digits.isEmpty && (following == some '<' || following == some '>') then
          refused (String.ofList digits)
        else do followed (.mk none false (← value))

/-- The commands of a substitution: up to a closing parenthesis or the end. -/
def inner : Nat → Parse (List Char)
  | 0 => Words.ended
  | n + 1 => fun start => do
    let read : Scan (List Command) := do
      skipNewlines n
      let l ← look n .assignable
      match l.token with
      | .endOfFile => do
        Scan.accept l
        return []
      | .op ")" => return []
      | _ => do
        let body ← list n
        let l ← look n .assignable
        match l.token with
        | .endOfFile => do
          Scan.accept l
          return body
        | .op ")" => return body
        | _ => refuse l
    let (body, s) ← read ⟨{ start with isNested := true, isDocument := false }, none⟩
    let stop := match s.ahead with
      | some (_, l) => { l.after with rest := ')' :: l.after.rest }
      | none => s.cursor
    let text := if start.isVerbatim then start.rawBetween stop else Listing.substituted body
    let innerLines := (List.range (stop.line - start.line)).map fun i => start.line + i + 1
    .ok (text, { stop with
      isNested := start.isNested, isDocument := start.isDocument, innerLines := innerLines ++ start.innerLines })

/-- The next token, which stays. -/
def look : Nat → WordMode → Scan Lexeme
  | 0, _ => Scan.ended
  | n + 1, mode => fun s =>
    let found : Except SyntaxFault Lexeme := match s.ahead with
      | some (before, l) =>
        let isSame := match l.token with
          | .word _ => before == mode
          | _ => true
        if isSame then .ok l else lexeme (word n mode) s.cursor
      | none => lexeme (word n mode) s.cursor
    found.map fun l => (l, { s with ahead := some (mode, l) })

/-- Passes a token. -/
def next : Nat → WordMode → Scan Lexeme
  | 0, _ => Scan.ended
  | n + 1, mode => do
    let l ← look n mode
    Scan.accept l
    return l

def skipNewlines : Nat → Scan Unit
  | 0 => Scan.ended
  | n + 1 => do
    let l ← look n .assignable
    match l.token with
    | .newline => do
      Scan.accept l
      skipNewlines n
    | _ => return ()

/-- Demands a certain word. -/
def expectWord (s : String) : Nat → Scan Unit
  | 0 => Scan.ended
  | n + 1 => do
    let l ← next n .assignable
    if l.token.isWord s then return () else refuse l

/-- The commands of a compound command: at least one. -/
def list : Nat → Scan (List Command)
  | 0 => Scan.ended
  | n + 1 => do
    skipNewlines n
    listRest n [← chain n]

/-- More commands after those so far, the last first. -/
def listRest : Nat → List Command → Scan (List Command)
  | 0, _ => Scan.ended
  | n + 1, sofar => do
    let l ← look n .assignable
    match l.token with
    | .newline | .op ";" => do
      Scan.accept l
      let isFresh := l.after.isNested && !l.token.continues
      skipNewlines n
      let l ← look n .assignable
      if canBegin l.token then do
        let c ← chain n
        listRest n ((if isFresh then .fresh c else c) :: sofar)
      else return sofar.reverse
    | .op "&" => do
      Scan.accept l
      let sofar := match sofar with
        | c :: rest => c.inBackground :: rest
        | [] => []
      skipNewlines n
      let l ← look n .assignable
      if canBegin l.token then listRest n ((← chain n) :: sofar) else return sofar.reverse
    | _ => return sofar.reverse

/-- Pipelines joined by `&&` and `||`. -/
def chain : Nat → Scan Command
  | 0 => Scan.ended
  | n + 1 => do chainRest n (← pipeline n)

def chainRest : Nat → Command → Scan Command
  | 0, _ => Scan.ended
  | n + 1, left => do
    let l ← look n .assignable
    if l.token.isOp "&&" then do
      Scan.accept l
      skipNewlines n
      chainRest n (.both left (← pipeline n))
    else if l.token.isOp "||" then do
      Scan.accept l
      skipNewlines n
      chainRest n (.either left (← pipeline n))
    else return left

/-- Commands whose output goes to the next one. -/
def pipeline : Nat → Scan Command
  | 0 => Scan.ended
  | n + 1 => do
    let l ← look n .assignable
    let isEnd (l : Lexeme) : Bool := !l.token.continues || l.token.isOp ";"
    if l.token.isWord "!" then do
      Scan.accept l
      if isEnd (← look n .assignable) then return .pipeline true []
      else
        match ← pipeline n with
        | .pipeline negated parts => return .pipeline (!negated) parts
        | c => return .pipeline true [c]
    else if l.token.isWord "time" then do
      Scan.accept l
      let option ← look n .assignable
      let brief := option.token.isWord "-p"
      if brief then Scan.accept option
      let dashes ← look n .assignable
      if dashes.token.isWord "--" then Scan.accept dashes
      if isEnd (← look n .assignable) then return .timed brief (.pipeline false [])
      else return .timed brief (← pipeline n)
    else do
      let first ← command n
      match ← pipes n first with
      | [c] => return c
      | parts => return .pipeline false parts

/-- A command and those that its output goes to. -/
def pipes : Nat → Command → Scan (List Command)
  | 0, _ => Scan.ended
  | n + 1, first => do
    let l ← look n .assignable
    if l.token.isOp "|" || l.token.isOp "|&" then do
      Scan.accept l
      skipNewlines n
      let c ← command n
      let first := if l.token.isOp "|&" then withErrors first else first
      return first :: (← pipes n c)
    else return [first]

/-- One command. -/
def command : Nat → Scan Command
  | 0 => Scan.ended
  | n + 1 => do
    let l ← look n .assignable
    match l.token with
    | .op "(" => compound n
    | .op sign =>
      if (redirectKind? sign).isSome then simple n l.line .assignable [] [] [] else refuse l
    | .word w =>
      if closers.contains w.source then refuse l
      else if openers.contains w.source then compound n
      else simple n l.line .assignable [] [] []
    | _ => refuse l

/-- A command with words; its parts so far, the last first. A command that begins with a word counts as
standing on the line where its second token is read, behind the documents before that token. -/
def simple : Nat → (line : Nat) → WordMode → List Word → List Word → List Redirect → Scan Command
  | 0, _, _, _, _, _ => Scan.ended
  | n + 1, line, mode, assignments, words, redirects => do
    let l ← look n mode
    let isSecond := words.length = 1 ∧ assignments.isEmpty ∧ redirects.isEmpty
    let line := match l.token with
      | .endOfFile => line
      | .newline => if isSecond then l.after.line - 1 else line
      | _ => if isSecond then l.line else line
    match l.token with
    | .word w =>
      if (redirectSource? w.source l.after).isSome then do
        let r ← redirect n mode
        simple n line mode assignments words (r :: redirects)
      else do
        Scan.accept l
        match words, Words.assignment? w.parts with
        | [], some _ => simple n line mode (w :: assignments) words redirects
        | [], none =>
          let mode := if listTakers.contains w.source then .assignable else .usual
          simple n line mode assignments [w] redirects
        | _, _ =>
          let isPlain := match words with
            | [first] => first.source == "command" || first.source == "builtin"
            | _ => false
          let mode := if isPlain && listTakers.contains w.source then .assignable else mode
          simple n line mode assignments (w :: words) redirects
    | .op sign =>
      if (redirectKind? sign).isSome then do
        let r ← redirect n mode
        simple n line mode assignments words (r :: redirects)
      else if sign = "(" then
        match assignments, words, redirects with
        | [], [w], [] => do
          Scan.accept l
          let close ← next n .usual
          if !close.token.isOp ")" then refuse close
          skipNewlines n
          return .define l.line w.source (← compound n)
        | _, _, _ => refuse l
      else return .simple line assignments.reverse words.reverse redirects.reverse
    | _ => return .simple line assignments.reverse words.reverse redirects.reverse

/-- A redirection. -/
def redirect : Nat → WordMode → Scan Redirect
  | 0, _ => Scan.ended
  | n + 1, mode => do
    let first ← next n mode
    let (source, sign) ← match first.token with
      | .word w => do
        let sign ← next n .usual
        pure ((redirectSource? w.source first.after).getD .usual, sign)
      | _ => pure (.usual, first)
    match sign.token with
    | .op text =>
      match redirectKind? text with
      | none => refuse sign
      | some kind => do
        let target ← next n .usual
        match target.token with
        | .word w =>
          let isDescriptor := match redirectSource? w.source target.after with
            | some (.number _) => true
            | _ => false
          if kind != .copyInput && kind != .copyOutput && isDescriptor then refuse target
          else
            match kind with
            | .document stripsTabs => do
              let (parts, text) ← Scan.characters (takeDocument (inner n) n stripsTabs w.parts)
              return .mk source kind (.mk parts w.source) text (delimiter w.parts).2
            | _ => return .mk source kind w [] false
        | _ => refuse target
    | _ => refuse sign

/-- The redirections after a compound command. -/
def redirects : Nat → Scan (List Redirect)
  | 0 => Scan.ended
  | n + 1 => do
    let l ← look n .assignable
    let more := match l.token with
      | .word w => (redirectSource? w.source l.after).isSome
      | .op sign => (redirectKind? sign).isSome
      | _ => false
    if more then do
      let r ← redirect n .assignable
      return r :: (← redirects n)
    else return []

/-- The body of a loop. -/
def loopBody : Nat → Scan (List Command)
  | 0 => Scan.ended
  | n + 1 => do
    let l ← next n .assignable
    if l.token.isWord "do" then do
      let body ← list n
      expectWord "done" n
      return body
    else if l.token.isWord "\x7b" then do
      let body ← list n
      expectWord "\x7d" n
      return body
    else refuse l

/-- An expression from its text. -/
def expressionWord : Nat → (line : Nat) → List Char → Scan Word
  | 0, _, _ => Scan.ended
  | n + 1, line, text => fun s => do
    let start := Cursor.ofChars text line s.cursor.groups
    let (parts, stop) ← Words.parts (inner n) n (fun _ => false) true start
    .ok (.mk parts (String.ofList (start.between stop)), s)

/-- A compound command. -/
def compound : Nat → Scan Command
  | 0 => Scan.ended
  | n + 1 => do
    let l ← look n .assignable
    match l.token with
    | .op "(" => do
      match ← (fun s => (expressionAt? l).map fun r => (r, s)) with
      | some (text, after) => do
        let expression ← expressionWord n l.line text
        Scan.goTo after
        return .expression after.line expression (← redirects n)
      | none => do
        Scan.accept l
        let body ← list n
        let close ← next n .assignable
        if close.token.isOp ")" then return .subshell l.line body (← redirects n) else refuse close
    | .word w =>
      match w.source with
      | "\x7b" => do
        Scan.accept l
        let body ← list n
        expectWord "\x7d" n
        return .group body (← redirects n)
      | "if" => do
        Scan.accept l
        let (clauses, otherwise) ← branches n
        return .conditional clauses otherwise (← redirects n)
      | "while" => do
        Scan.accept l
        let condition ← list n
        let body ← loopBody n
        return .loop false condition body (← redirects n)
      | "until" => do
        Scan.accept l
        let condition ← list n
        let body ← loopBody n
        return .loop true condition body (← redirects n)
      | "for" => do
        Scan.accept l
        forLoop n l.line
      | "select" => do
        Scan.accept l
        let (line, name, words, body) ← wordLoop n
        return .select line name words body (← redirects n)
      | "case" => do
        Scan.accept l
        let subject ← next n .usual
        match subject.token with
        | .word w => do
          skipNewlines n
          expectWord "in" n
          let cases ← caseBranches n
          return .choice subject.line w cases (← redirects n)
        | _ => refuse subject
      | "[[" => do
        Scan.accept l
        let t ← either n
        let close ← next n .usual
        if close.token.isWord "]]" then return .test close.line t (← redirects n)
        else
          match close.token with
          | .endOfFile => refuseCondition [(.unfinished, l.line)] close
          | t => refuseCondition [(.leftOver (conditionName? t), l.line)] close
      | "function" => do
        Scan.accept l
        let name ← next n .usual
        match name.token with
        | .word w => do
          let parenthesis ← look n .assignable
          if parenthesis.token.isOp "(" then do
            Scan.accept parenthesis
            let close ← next n .usual
            if !close.token.isOp ")" then refuse close
          skipNewlines n
          return .define name.line w.source (← compound n)
        | _ => refuse name
      | "coproc" => do
        Scan.accept l
        partner n l.line
      | _ => refuse l
    | _ => refuse l

/-- Commands that run beside the script, after their first word. -/
def partner : Nat → (line : Nat) → Scan Command
  | 0, _ => Scan.ended
  | n + 1, line => do
    let usualName := "COPROC"
    let l ← look n .assignable
    match l.token with
    | .word w =>
      if openers.contains w.source then return .partner line usualName (← compound n)
      else do
        let s ← (fun s => .ok (s, s) : Scan Scanner)
        Scan.accept l
        let following ← look n .assignable
        let isCompound := match following.token with
          | .word w => openers.contains w.source
          | t => t.isOp "("
        if Words.isName w.source.toList && isCompound then
          return .partner line w.source (← compound n)
        else do
          Scan.goTo s.cursor
          return .partner line usualName (← command n)
    | _ => return .partner line usualName (← command n)

/-- The clauses of a conditional, after its first word. -/
def branches : Nat → Scan (List Clause × List Command)
  | 0 => Scan.ended
  | n + 1 => do
    let condition ← list n
    expectWord "then" n
    let body ← list n
    let l ← next n .assignable
    if l.token.isWord "fi" then return ([.mk condition body], [])
    else if l.token.isWord "else" then do
      let otherwise ← list n
      expectWord "fi" n
      return ([.mk condition body], otherwise)
    else if l.token.isWord "elif" then do
      let (others, otherwise) ← branches n
      return (.mk condition body :: others, otherwise)
    else refuse l

/-- A loop over words or with a counter, after its first word. -/
def forLoop : Nat → (line : Nat) → Scan Command
  | 0, _ => Scan.ended
  | n + 1, line => do
    let l ← look n .usual
    match l.token with
    | .op "(" => do
      match ← (fun s => (expressionAt? l).map fun r => (r, s)) with
      | some (text, after) => do
        Scan.goTo after
        let separator ← look n .assignable
        if separator.token.isOp ";" then Scan.accept separator
        skipNewlines n
        let body ← loopBody n
        let shown := String.ofList text
        match splitSemicolons text with
        | [first, condition, last] => do
          let first ← expressionWord n l.line first
          let condition ← expressionWord n l.line condition
          let last ← expressionWord n l.line last
          return .counted line first condition last body (← redirects n)
        | _ :: _ :: _ :: _ => fun _ => .error (.expressionLeftOver shown l.line)
        | _ => fun _ => .error (.expressionMissing shown l.line)
      | none => refuse l
    | _ => do
      let (line, name, words, body) ← wordLoop n
      return .each line name words body (← redirects n)

/-- The variable of a loop and its line, its words if there are any, and its body. -/
def wordLoop : Nat → Scan (Nat × Word × Option (List Word) × List Command)
  | 0 => Scan.ended
  | n + 1 => do
    let l ← next n .usual
    let line := l.line
    match l.token with
    | .word name => do
      skipNewlines n
      let l ← look n .assignable
      if l.token.isWord "in" then do
        Scan.accept l
        let words ← forWords n
        skipNewlines n
        return (line, name, some words, ← loopBody n)
      else do
        if l.token.isOp ";" then Scan.accept l
        skipNewlines n
        return (line, name, none, ← loopBody n)
    | _ => refuse l

/-- The words of a loop, with the separator after them. -/
def forWords : Nat → Scan (List Word)
  | 0 => Scan.ended
  | n + 1 => do
    let l ← next n .usual
    match l.token with
    | .word w => return w :: (← forWords n)
    | .newline | .op ";" => return []
    | _ => refuse l

/-- The branches of a `case`, with its last word. -/
def caseBranches : Nat → Scan (List Branch)
  | 0 => Scan.ended
  | n + 1 => do
    skipNewlines n
    let l ← look n .assignable
    if l.token.isWord "esac" then do
      Scan.accept l
      return []
    else do
      if l.token.isOp "(" then Scan.accept l
      let patterns ← patterns n
      skipNewlines n
      let l ← look n .assignable
      let body ← if canBegin l.token && !l.token.isWord "esac" then list n else pure []
      let l ← next n .assignable
      match l.token with
      | .op ";;" => return .mk patterns body .stop :: (← caseBranches n)
      | .op ";&" => return .mk patterns body .fallThrough :: (← caseBranches n)
      | .op ";;&" => return .mk patterns body .resume :: (← caseBranches n)
      | t => if t.isWord "esac" then return [.mk patterns body .stop] else refuse l

/-- The patterns of a branch, with the parenthesis after them. -/
def patterns : Nat → Scan (List Word)
  | 0 => Scan.ended
  | n + 1 => do
    let l ← next n .usual
    match l.token with
    | .word w => do
      let l ← next n .usual
      match l.token with
      | .op "|" => return w :: (← patterns n)
      | .op ")" => return [w]
      | _ => refuse l
    | _ => refuse l

/-- Conditions joined by `||`. -/
def either : Nat → Scan Test
  | 0 => Scan.ended
  | n + 1 => do
    let left ← both n
    skipNewlines n
    let l ← look n .usual
    if l.token.isOp "||" then do
      Scan.accept l
      skipNewlines n
      return .either left (← either n)
    else return left

/-- Conditions joined by `&&`. -/
def both : Nat → Scan Test
  | 0 => Scan.ended
  | n + 1 => do
    let left ← condition n
    skipNewlines n
    let l ← look n .usual
    if l.token.isOp "&&" then do
      Scan.accept l
      skipNewlines n
      return .both left (← both n)
    else return left

/-- A condition between parentheses, the first of which has been passed. -/
def innerCondition : Nat → (line : Nat) → Scan Test
  | 0, _ => Scan.ended
  | n + 1, line => do
    let t ← fun c =>
      match either n c with
      | .error (.condition problems atEnd last remaining) =>
        .error (.condition (problems ++ [(.parenthesis none, line)]) atEnd last remaining)
      | result => result
    let close ← next n .usual
    if close.token.isOp ")" then return .group t
    else refuseCondition [(.parenthesis (conditionName? close.token), line)] close

/-- The right side of a condition on two words. -/
def rightSide : Nat → WordMode → Scan Word
  | 0, _ => Scan.ended
  | n + 1, mode => do
    let l ← (fun s =>
      let s := { s with cursor := { s.cursor with regex := mode == .regex }, ahead := none }
      (look n mode s).map fun (l, s) =>
        (l, { s with cursor := { s.cursor with regex := false } }) : Scan Lexeme)
    let l := { l with after := { l.after with regex := false } }
    Scan.accept l
    match l.token with
    | .word w =>
      if w.source = "]]" then refuseCondition [(.operand false (some w.source), l.line)] l
      else return w
    | t => refuseCondition [(.operand false (conditionName? t), l.line)] l

/-- One condition. -/
def condition : Nat → Scan Test
  | 0 => Scan.ended
  | n + 1 => do
    skipNewlines n
    let l ← next n .usual
    match l.token with
    | .op "(" => innerCondition n l.line
    | .word w =>
      if w.source = "!" then return .negate (← condition n)
      else if w.source = "]]" then refuseCondition [] l
      else if isUnary w.source then do
        let operand ← next n .usual
        match operand.token with
        | .word v =>
          if v.source = "]]" then
            refuseCondition [(.operand true (some v.source), operand.line)] operand
          else return .unary w.source v
        | t => refuseCondition [(.operand true (conditionName? t), operand.line)] operand
      else do
        let following ← look n .usual
        match following.token with
        | .word v =>
          if v.source = "]]" then return .word w
          else if isBinary v.source then do
            Scan.accept following
            return .binary v.source w (← rightSide n (sideMode v.source))
          else refuseCondition [(.operator none, following.line)] following
        | .op sign =>
          if sign = "<" || sign = ">" then do
            Scan.accept following
            return .binary sign w (← rightSide n .usual)
          else if sign = "&&" || sign = "||" || sign = ")" then return .word w
          else refuseCondition [(.operator (some sign), following.line)] following
        | t => refuseCondition [(.operator (conditionName? t), following.line)] following
    | t => refuseCondition [(.misplaced ((conditionName? t).getD ""), l.line)] l

end

/-- The commands up to the end of a line, after those so far; the last first. -/
def lineRest : Nat → List Command → Scan (List Command)
  | 0, _ => Scan.ended
  | n + 1, sofar => do
    let l ← look n .assignable
    let separated (sofar : List Command) : Scan (List Command) := do
      Scan.accept l
      let l ← look n .assignable
      match l.token with
      | .newline => do
        Scan.accept l
        return sofar.reverse
      | .endOfFile => return sofar.reverse
      | _ => lineRest n ((← chain n) :: sofar)
    match l.token with
    | .newline => do
      Scan.accept l
      return sofar.reverse
    | .endOfFile => return sofar.reverse
    | .op ";" => separated sofar
    | .op "&" =>
      separated (match sofar with
        | c :: rest => c.inBackground :: rest
        | [] => [])
    | _ => refuse l

/-- The next line of commands, if there is one. -/
def line? (n : Nat) (start : Cursor) : Except SyntaxFault (Option (List Command) × Cursor) := do
  let read : Scan (Option (List Command)) := do
    skipNewlines n
    let l ← look n .assignable
    match l.token with
    | .endOfFile => return none
    | _ => return some (← lineRest n [← chain n])
  let (commands, s) ← read ⟨start, none⟩
  return (commands, { s.cursor with rewritings := [] })

/-- Whether the next line begins with a condition between double brackets. -/
def startsCondition (start : Cursor) : Bool :=
  let isBlank (c : Char) : Bool := c == ' ' || c == '\t' || c == '\n'
  "[[".toList.isPrefixOf (start.rest.dropWhile isBlank)

/-- Steps that suffice to read a text: each uses up a character, or goes one level down. -/
def stepsFor (cs : List Char) : Nat := 40 * cs.length + 400

end Grammar

end ActionServer.Shell
