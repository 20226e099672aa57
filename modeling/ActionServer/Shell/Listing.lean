import ActionServer.Shell.Quoting
import ActionServer.Shell.Syntax

/-!
# Showing commands

A command in the form in which the shell shows it: on one line, or, inside a function, on lines of
their own that are set in. Words are shown as they were read; a document stands behind the line that
begins it.
-/

namespace ActionServer.Shell

/-- What has been written, and how to go on. -/
structure Page where
  /-- The text so far, its last character first. -/
  reversed : List Char := []
  indent : Nat := 0
  /-- The next command goes on in the same line. -/
  stays : Bool := true
  /-- How many functions are around. -/
  functions : Nat := 0
  /-- Documents that are still to be written. -/
  documents : List (List Char × String) := []
  /-- A document has just been written. -/
  afterDocument : Bool := false

namespace Page

def write (p : Page) (s : String) : Page := { p with reversed := s.toList.reverse ++ p.reversed }

def writeIndent (p : Page) : Page :=
  { p with reversed := List.replicate p.indent ' ' ++ p.reversed }

/-- A new line, which is set in. -/
def newline (p : Page) (s : String) : Page := (p.write "\n").writeIndent.write s

/-- A semicolon, unless the line has ended already. -/
def semicolon (p : Page) : Page :=
  match p.reversed with
  | '&' :: _ | '\n' :: _ => p
  | _ => { p.write ";" with afterDocument := false }

def setIn (p : Page) : Page := { p with indent := p.indent + 4 }

def setOut (p : Page) : Page := { p with indent := p.indent - 4 }

/-- The next command goes on in the same line. -/
def stay (p : Page) : Page := { p with stays := true }

/-- A text, and the documents that are still to be written. -/
def close (p : Page) (s : String) : Page :=
  let isShown := s != "" && s != ";"
  let p := if isShown then p.write s else p
  if p.documents.isEmpty then p
  else
    let p := p.documents.foldl (fun p (text, stop) =>
      (p.write (String.ofList text)).write (stop ++ "\n")) (p.write "\n")
    let p := if isShown then p.write " " else p
    { p with documents := [], afterDocument := true }

/-- The delimiter of a document as the document ends. -/
def delimiterText (w : Word) : String :=
  String.ofList (w.source.toList.filter fun c => !"'\"\\".toList.contains c)

/-- One redirection. -/
def redirect (p : Page) : Redirect → Page
  | .mk source kind target text isQuoted =>
    let descriptor (usual : Nat) : String :=
      match source with
      | .usual => ""
      | .number n => if n = usual then "" else toString n
      | .variable name => "\x7b" ++ name ++ "\x7d"
    let always (usual : Nat) : String :=
      match source with
      | .usual => toString usual
      | .number n => toString n
      | .variable name => "\x7b" ++ name ++ "\x7d"
    let isNumber := !target.source.toList.isEmpty && target.source.toList.all Char.isDigit
    let plain (usual : Nat) (sign : String) : Page :=
      p.write (descriptor usual ++ sign ++ " " ++ target.source)
    let copy (usual : Nat) (sign : String) : Page :=
      if target.source = "-" then p.write (always usual ++ ">&-")
      else p.write ((if isNumber then always usual else descriptor usual) ++ sign ++ target.source)
    match kind with
    | .readFrom => plain 0 "<"
    | .writeTo => plain 1 ">"
    | .overwrite => plain 1 ">|"
    | .append => plain 1 ">>"
    | .readWrite => plain 1 "<>"
    | .copyInput => copy 0 "<&"
    | .copyOutput => copy 1 ">&"
    | .bothTo => p.write ("&> " ++ target.source)
    | .bothAppend => p.write ("&>> " ++ target.source)
    | .line => plain 0 "<<<"
    | .document stripsTabs =>
      let stop := delimiterText target
      let shown := if isQuoted then String.ofList (Quoting.single stop.toList) else stop
      let p := p.write (descriptor 0 ++ (if stripsTabs then "<<-" else "<<") ++ shown)
      { p with documents := p.documents ++ [(text, stop)] }

def redirects (p : Page) (rs : List Redirect) : Page :=
  match rs with
  | [] => p
  | r :: rest => rest.foldl (fun p r => (p.write " ").redirect r) (p.redirect r)

/-- The redirections behind a command. -/
def behind (p : Page) (rs : List Redirect) : Page :=
  if rs.isEmpty then p else (p.write " ").redirects rs

def words (p : Page) (separator : String) (ws : List Word) : Page :=
  p.write (separator.intercalate (ws.map Word.source))

def text (p : Page) : String := String.ofList p.reversed.reverse

end Page

namespace Test

/-- A condition between double brackets. -/
def text : Test → String
  | word w => "-n " ++ w.source
  | unary op w => op ++ " " ++ w.source
  | binary op left right => left.source ++ " " ++ op ++ " " ++ right.source
  | negate t => "! " ++ text t
  | both a b => text a ++ " && " ++ text b
  | either a b => text a ++ " || " ++ text b
  | group t => "( " ++ text t ++ " )"

end Test

namespace Listing

/-- The values of a loop. -/
def loopWords (p : Page) : Option (List Word) → Page
  | some ws => p.words " " ws
  | none => p.write "\"$@\""

/-- What separates a command from the next one. -/
def separate (p : Page) : Page :=
  let p := if !p.documents.isEmpty then p.close (if 0 < p.functions then "" else ";")
    else if p.afterDocument then { p with afterDocument := false }
    else p.write ";"
  if 0 < p.functions then p.write "\n" else (p.write " ").stay

/-- What parts a command from the next one, which stood in a line of its own. -/
def separateLines (p : Page) : Page :=
  let isEnded := !p.documents.isEmpty || p.afterDocument
  let p := if !p.documents.isEmpty then p.close (if 0 < p.functions then "" else ";")
    else if p.afterDocument then { p with afterDocument := false }
    else p.write "\n"
  if 0 < p.functions then p.write "\n"
  else (if isEnded then p.write "\n" else p).stay

/-- The expression of a counting loop; a missing one always holds. -/
def expression (w : Word) : String :=
  if w.source.toList.all fun c => c == ' ' || c == '\t' || c == '\n' then "1"
  else String.ofList (w.source.toList.dropWhile fun c => c == ' ' || c == '\t' || c == '\n')

mutual

def command (p : Page) : Command → Page
  | .simple _ assignments words redirects =>
    let p := start p
    let all := assignments ++ words
    let p := p.words " " all
    if redirects.isEmpty then p
    else (if all.isEmpty then p else p.write " ").redirects redirects
  | .pipeline negated parts =>
    let p := start p
    pipes (if negated then p.write "! " else p) parts
  | .timed brief c =>
    let p := start p
    command (p.write (if brief then "time -p " else "time ")).stay c
  | .both a b =>
    let p := command (start p).stay a
    command (p.close " && ").stay b
  | .either a b =>
    let p := command (start p).stay a
    command (p.close " || ").stay b
  | .background c =>
    let p := command (start p).stay c
    p.close " &"
  | .subshell _ body redirects =>
    let p := ((start p).write "( ").stay
    let p := (commands p body).close ""
    (p.write " )").behind redirects
  | .group body redirects =>
    (group (start p) fun p => commands p body).behind redirects
  | .conditional clauses otherwise redirects =>
    let last (p : Page) : Page := commands p otherwise
    (branches (start p) otherwise.isEmpty last clauses).behind redirects
  | .loop untilSuccess condition body redirects =>
    let p := ((start p).write (if untilSuccess then "until " else "while ")).stay
    let p := ((commands p condition).close "").semicolon
    let p := (p.write " do\n").setIn
    let p := ((commands p body).close "").setOut.semicolon
    (p.newline "done").behind redirects
  | .each _ name ws body redirects =>
    let p := loopWords ((start p).write s!"for {name.source} in ") ws
    let p := ((p.write ";").newline "do\n").setIn
    let p := ((commands p body).close "").semicolon.setOut
    (p.newline "done").behind redirects
  | .select _ name ws body redirects =>
    let p := loopWords ((start p).write s!"select {name.source} in ") ws
    let p := ((p.write ";").newline "do\n").setIn
    let p := ((commands p body).close "").semicolon.setOut
    (p.newline "done").behind redirects
  | .counted _ first condition last body redirects =>
    let head := s!"for (({expression first}; {expression condition}; {expression last}))"
    let p := (((start p).write head).newline "do\n").setIn
    let p := ((commands p body).close "").semicolon.setOut
    (p.newline "done").behind redirects
  | .choice _ w cases redirects =>
    let p := ((start p).write s!"case {w.source} in ").setIn
    let p := (choices p cases).setOut
    (p.newline "esac").behind redirects
  | .define _ name (.group body redirects) =>
    close (commands (opened (start p) name) body) redirects
  | .define _ name body => close (command (opened (start p) name) body) []
  | .expression _ text redirects =>
    ((start p).write s!"(({text.source}))").behind redirects
  | .test _ condition redirects =>
    ((start p).write s!"[[ {condition.text} ]]").behind redirects
  | .partner _ name body =>
    command ((start p).write s!"coproc {name} ").stay body
  | .fresh c => command p c
where
  /-- The place where a command begins. -/
  start (p : Page) : Page := if p.stays then { p with stays := false } else p.writeIndent
  /-- Commands between braces. -/
  group (p : Page) (body : Page → Page) : Page :=
    let p := p.write "\x7b "
    if p.functions = 0 then ((body p.stay).close "").semicolon.write " \x7d"
    else
      let p := (p.write "\n").setIn
      let p := ((body p).close "").write "\n"
      p.setOut.writeIndent.write "\x7d"
  /-- The beginning of a function. -/
  opened (p : Page) (name : String) : Page :=
    let p := (((p.write s!"function {name} () \n").writeIndent).write "\x7b \n").setIn
    { p with functions := p.functions + 1 }
  /-- The end of a function. -/
  close (p : Page) (redirects : List Redirect) : Page :=
    let p := (p.close "").setOut
    let p := { p with functions := p.functions - 1 }
    if redirects.isEmpty then p.newline "\x7d" else (p.newline "\x7d ").redirects redirects

/-- Commands one after the other. -/
def commands (p : Page) : List Command → Page
  | [] => p
  | [c] => command p c
  | c :: d :: rest =>
    let p := command p c
    let p := match c, d with
      | .background _, _ | .fresh (.background _), _ => (p.write " ").stay
      | _, .fresh _ => separateLines p
      | _, _ => separate p
    commands p (d :: rest)

def pipes (p : Page) : List Command → Page
  | [] => p
  | [c] => command p.stay c
  | c :: d :: rest => pipes (((command p.stay c).close " |").write " ") (d :: rest)

/-- The clauses of a conditional; what comes last is given as what it does to a page. -/
def branches (p : Page) (isComplete : Bool) (last : Page → Page) : List Clause → Page
  | [] => last p
  | .mk condition body :: rest =>
    let p := (p.write "if ").stay
    let p := (commands p condition).semicolon
    let p := (p.write " then\n").setIn
    let p := ((commands p body).close "").setOut
    let p := if rest.isEmpty && isComplete then p
      else
        let p := (p.semicolon.newline "else\n").setIn
        let p := if rest.isEmpty then p else p.writeIndent
        ((branches p isComplete last rest).close "").setOut
    p.semicolon.newline "fi"

def choices (p : Page) : List Branch → Page
  | [] => p
  | .mk patterns body fate :: rest =>
    let p := ((p.newline "").words " | " patterns).write ")\n"
    let p := (commands p.setIn body).setOut.close ""
    let sign := match fate with
      | .stop => ";;"
      | .fallThrough => ";&"
      | .resume => ";;&"
    choices (p.newline sign) rest

end

/-- A command on one line. -/
def line (c : Command) : String := ((command {} c).close "").text

/-- Commands on one line. -/
def lineOf (cs : List Command) : String := ((commands {} cs).close "").text

/-- The commands of a substitution. A blank keeps a parenthesis at their beginning from that of the
substitution. -/
def substituted (cs : List Command) : List Char :=
  let text := (lineOf cs).toList
  if text.head? = some '(' then ' ' :: text else text

/-- A function with its name. -/
def definition (name : String) (isKeyword : Bool) (body : Command) : String :=
  let head := (if isKeyword then "function " else "") ++ name ++ " () \n\x7b \n"
  let p : Page := { stays := false, functions := 1, indent := 4 }
  let p := p.write head
  match body with
  | .group body redirects => (command.close (commands p body) redirects).text
  | c => (command.close (command p c) []).text

end Listing

end ActionServer.Shell
