/-!
# The language of shell scripts

A script is a list of commands. The words of a command are lists of parts: characters that stand for
themselves, quoted text, and expansions, which may hold words and commands in turn. The words of a
command are kept together with the text that they were read from, so that a command can be shown.

Texts in scripts are bytes; each is kept as the character of its number.
-/

namespace ActionServer.Shell

/-- How a redirection treats its descriptor. -/
inductive RedirectKind where
  | readFrom
  | writeTo
  /-- Also where an option keeps files from being overwritten. -/
  | overwrite
  | append
  | readWrite
  | copyInput
  | copyOutput
  /-- Both standard outputs. -/
  | bothTo
  | bothAppend
  /-- A text that stands in the script, without the tabs in front of its lines where that is so. -/
  | document (stripsTabs : Bool)
  /-- A word with a line feed. -/
  | line
  deriving DecidableEq, Repr

/-- What a redirection changes: a descriptor, or one that is chosen and noted in a variable. -/
inductive RedirectSource where
  | usual
  | number (descriptor : Nat)
  | variable (name : String)
  deriving DecidableEq, Repr

/-- How a branch of a `case` ends. -/
inductive BranchEnd where
  | stop
  | fallThrough
  | resume
  deriving DecidableEq, Repr

/-- How the letters of a value are changed. -/
inductive Recasing where
  | upper
  | lower
  | toggle
  deriving DecidableEq, Repr

mutual

inductive WordPart where
  | plain (c : Char)
  | quoted (text : List Char)
  | parameter (inQuotes : Bool) (subject : Subject) (use : ParameterUse)
  /-- The output of commands, which are read when they are run. -/
  | command (inQuotes : Bool) (text : List Char)
  /-- The value of an expression, whose own expansions are made first. -/
  | arithmetic (inQuotes : Bool) (expression : List WordPart)
  /-- A name for a pipe that commands write to or read from. -/
  | pipe (writes : Bool) (text : List Char)
  /-- The values of an array. -/
  | items (values : List Item)

/-- One value of an array, perhaps with its place. -/
inductive Item where
  | mk (place : Option (List WordPart)) (append : Bool) (value : List WordPart)

/-- A parameter: itself, or the one whose name is its value. -/
inductive Subject where
  | mk (isIndirect : Bool) (name : String) (subscript : Option Subscript)

inductive Subscript where
  /-- All values, each by itself. -/
  | all
  /-- All values as one. -/
  | joined
  | place (text : List WordPart)

inductive ParameterUse where
  | value
  /-- The value, where the name of the parameter stands without braces. -/
  | bare
  | length
  /-- The places of an array. -/
  | places
  /-- The names of variables that begin with the name. -/
  | names (each : Bool)
  /-- The word instead, if the parameter is not set (or empty, where `empty` says so). -/
  | default (empty : Bool) (word : List WordPart)
  | assign (empty : Bool) (word : List WordPart)
  | require (empty : Bool) (word : List WordPart)
  | alternative (empty : Bool) (word : List WordPart)
  | dropStart (longest : Bool) (pattern : List WordPart)
  | dropEnd (longest : Bool) (pattern : List WordPart)
  | replace (all : Bool) (pattern word : List WordPart)
  | replaceStart (pattern word : List WordPart)
  | replaceEnd (pattern word : List WordPart)
  | slice (offset : List WordPart) (length : Option (List WordPart))
  | recase (how : Recasing) (all : Bool) (pattern : List WordPart)
  | transform (how : Char)
  /-- A text after the sign of a transformation that names none. -/
  | badTransform (text : List Char)
  /-- A text that is no use of a parameter. -/
  | bad (text : List Char)
  /-- A text whose end is missing, or hidden behind a comment. -/
  | unclosed (closer : Char) (text : List Char)

/-- A word with the text that it was read from. -/
inductive Word where
  | mk (parts : List WordPart) (source : String)

/-- A redirection; a document keeps its text, and whether its delimiter was quoted. -/
inductive Redirect where
  | mk (source : RedirectSource) (kind : RedirectKind) (target : Word)
    (text : List Char) (isQuoted : Bool)

inductive Branch where
  | mk (patterns : List Word) (body : List Command) (fate : BranchEnd)

inductive Clause where
  | mk (condition body : List Command)

inductive Test where
  | word (w : Word)
  | unary (op : String) (w : Word)
  | binary (op : String) (left right : Word)
  | negate (t : Test)
  | both (a b : Test)
  | either (a b : Test)
  /-- Between parentheses. -/
  | group (t : Test)

inductive Command where
  | simple (line : Nat) (assignments words : List Word) (redirects : List Redirect)
  | pipeline (negated : Bool) (parts : List Command)
  /-- A pipeline whose time is told afterwards. -/
  | timed (brief : Bool) (c : Command)
  | both (a b : Command)
  | either (a b : Command)
  | background (c : Command)
  | subshell (line : Nat) (body : List Command) (redirects : List Redirect)
  | group (body : List Command) (redirects : List Redirect)
  | conditional (clauses : List Clause) (otherwise : List Command) (redirects : List Redirect)
  /-- Repeats while the condition succeeds, or until it does. -/
  | loop (untilSuccess : Bool) (condition body : List Command) (redirects : List Redirect)
  | each (line : Nat) (name : Word) (words : Option (List Word)) (body : List Command)
    (redirects : List Redirect)
  /-- Lets the reader of the input choose among words. -/
  | select (line : Nat) (name : Word) (words : Option (List Word)) (body : List Command)
    (redirects : List Redirect)
  | counted (line : Nat) (first condition last : Word) (body : List Command)
    (redirects : List Redirect)
  | choice (line : Nat) (word : Word) (branches : List Branch) (redirects : List Redirect)
  | define (line : Nat) (name : String) (body : Command)
  | expression (line : Nat) (text : Word) (redirects : List Redirect)
  | test (line : Nat) (condition : Test) (redirects : List Redirect)
  /-- Commands that run beside the script, connected to it by two pipes. -/
  | partner (line : Nat) (name : String) (body : Command)
  /-- A command that a line feed parts from the one before, where that is noted. -/
  | fresh (c : Command)

end

instance : Inhabited WordPart := ⟨.plain ' '⟩

instance : Inhabited Word := ⟨.mk [] ""⟩

instance : Inhabited Command := ⟨.simple 0 [] [] []⟩

/-- The parts of a word. -/
abbrev Parts := List WordPart

/-- A command that is not waited for. -/
def Command.inBackground : Command → Command
  | .fresh c => .fresh (.background c)
  | c => .background c

namespace Word

def parts : Word → Parts
  | mk parts _ => parts

def source : Word → String
  | mk _ source => source

end Word

end ActionServer.Shell
