import ActionServer.Shell.Listing
import ActionServer.Shell.Machine

/-!
# Parameters

Parameters are the variables, the arguments, and signs for what the shell knows about itself. Some
variables have values that the shell makes anew whenever they are asked for. A variable that is a
reference stands for the one that it names.
-/

namespace ActionServer.Shell

namespace Options

/-- The options of `set` in the order in which they are listed, those with a letter with it. -/
def all : List (String × Option Char) :=
  [("allexport", some 'a'), ("braceexpand", some 'B'), ("emacs", none), ("errexit", some 'e'),
    ("errtrace", some 'E'), ("functrace", some 'T'), ("hashall", some 'h'), ("histexpand", some 'H'),
    ("history", none), ("ignoreeof", none), ("interactive-comments", none), ("keyword", some 'k'),
    ("monitor", some 'm'), ("noclobber", some 'C'), ("noexec", some 'n'), ("noglob", some 'f'),
    ("nolog", none), ("notify", some 'b'), ("nounset", some 'u'), ("onecmd", some 't'),
    ("physical", some 'P'), ("pipefail", none), ("posix", none), ("privileged", some 'p'),
    ("verbose", some 'v'), ("vi", none), ("xtrace", some 'x')]

/-- Options of `set` that are on at the beginning. -/
def usual : List String := ["braceexpand", "hashall", "interactive-comments"]

/-- The letters in the order in which they are shown. -/
def letterOrder : List Char := "abefhikmnprtuvxBCEHPT".toList

/-- The option of a letter. -/
def named? (c : Char) : Option String :=
  (all.find? fun o => o.2 == some c).map (·.1)

/-- The options of `shopt` in the order in which they are listed. -/
def shell : List String :=
  ["autocd", "assoc_expand_once", "cdable_vars", "cdspell", "checkhash", "checkjobs",
    "checkwinsize", "cmdhist", "compat31", "compat32", "compat40", "compat41", "compat42",
    "compat43", "compat44", "complete_fullquote", "direxpand", "dirspell", "dotglob", "execfail",
    "expand_aliases", "extdebug", "extglob", "extquote", "failglob", "force_fignore",
    "globasciiranges", "globskipdots", "globstar", "gnu_errfmt", "histappend", "histreedit",
    "histverify", "hostcomplete", "huponexit", "inherit_errexit", "interactive_comments",
    "lastpipe", "lithist", "localvar_inherit", "localvar_unset", "login_shell", "mailwarn",
    "no_empty_cmd_completion", "nocaseglob", "nocasematch", "noexpand_translation", "nullglob",
    "patsub_replacement", "progcomp", "progcomp_alias", "promptvars", "restricted_shell",
    "shift_verbose", "sourcepath", "varredir_close", "xpg_echo"]

/-- Options of `shopt` that are on at the beginning. -/
def usualShell : List String :=
  ["checkwinsize", "cmdhist", "complete_fullquote", "extquote", "force_fignore", "globasciiranges",
    "globskipdots", "hostcomplete", "interactive_comments", "patsub_replacement", "progcomp",
    "promptvars", "sourcepath"]

/-- Turns an option on or off in a list of those that are on. -/
def switch (on : Bool) (name : String) (options : List String) : List String :=
  if on then (if options.contains name then options else name :: options)
  else options.filter (· != name)

end Options

namespace Machine

/-- The option letters that `$-` shows. -/
def optionLetters (m : Machine) : String :=
  String.ofList (Options.letterOrder.filter fun c =>
    ((Options.named? c).map m.hasOption).getD false)

/-- Turns an option of `set` on or off. -/
def setOption (on : Bool) (name : String) (m : Machine) : Machine :=
  { m with options := Options.switch on name m.options }

def setShellOption (on : Bool) (name : String) (m : Machine) : Machine :=
  { m with shellOptions := Options.switch on name m.shellOptions }

/-- The names of the running functions, the innermost one first, and of the texts around them. -/
def callNames (m : Machine) : List String :=
  if m.calls.isEmpty then [] else m.calls.map (·.name) ++ ["main"]

/-- The names of the texts that define what runs. -/
def callOrigins (m : Machine) : List String := m.calls.map (·.origin) ++ [m.zero]

/-- Where what runs was called. -/
def callLines (m : Machine) : List String := m.calls.map (fun c => toString c.line) ++ ["0"]

/-- A variable that the shell makes when it is asked for. -/
def special? (m : Machine) (name : String) : Option Variable :=
  let text (s : String) : Option Variable := some (.ofText s)
  let list (texts : List String) : Option Variable :=
    some ⟨.indexed (Indexed.ofTexts texts), !texts.isEmpty, {}⟩
  match name with
  | "LINENO" => text (toString m.line)
  | "SECONDS" => text (toString ((m.now / 1000 : Nat) + m.secondsShift))
  | "BASHPID" => text (toString m.process)
  | "BASH_SUBSHELL" => text (toString m.depth)
  | "RANDOM" => text (toString m.draw.1)
  | "FUNCNAME" => if m.inFunction then list m.callNames else list []
  | "BASH_SOURCE" => list m.callOrigins
  | "BASH_LINENO" => list m.callLines
  | "DIRSTACK" => list (m.workDir :: m.directories)
  | "SHELLOPTS" =>
    text (":".intercalate ((Options.all.filter fun o => m.hasOption o.1).map (·.1)))
  | "BASHOPTS" => text (":".intercalate (Options.shell.filter m.hasShellOption))
  | "HISTCMD" => text "1"
  | "BASH_COMMAND" => text (match m.current with
    | .command c => Listing.line c
    | .head words => words)
  | "PIPESTATUS" => list (m.stages.map toString)
  | "_" => text m.lastWord
  | _ => none

/-- The variable of a name. -/
def lookup? (m : Machine) (name : String) : Option Variable :=
  match m.special? name with
  | some v => some v
  | none => m.bound? name

/-- The shell after a variable has been asked for its value. -/
def afterReading (m : Machine) (name : String) : Machine :=
  if name = "RANDOM" then m.draw.2 else m

/-- What follows when some variables are given a value. -/
def afterAssigning (m : Machine) (name text : String) : Machine :=
  let number : Int := match text.toList with
    | '-' :: ds => -(Words.number 10 (ds.takeWhile Char.isDigit))
    | ds => Words.number 10 (ds.takeWhile Char.isDigit)
  match name with
  | "RANDOM" => { m with seed := (number % Nat.pow 2 32).toNat, lastRandom := 0 }
  | "SECONDS" => { m with secondsShift := number - (m.now / 1000 : Nat) }
  | "OPTIND" => { m with optionPlace := ⟨number.toNat, 0⟩ }
  | _ => m

/-- How far references are followed. -/
def referenceLimit : Nat := 8

/-- The name that a name stands for; it can have a place behind it. -/
def resolve (m : Machine) : (steps : Nat) → String → String
  | 0, name => name
  | steps + 1, name =>
    match m.bound? name with
    | some v =>
      match v.attributes.isReference, v.first? with
      | true, some target => if target = "" then name else m.resolve steps target
      | _, _ => name
    | none => name

/-- The name that a name stands for. -/
def target (m : Machine) (name : String) : String := m.resolve referenceLimit name

/-- Whether references lead back to where they began. -/
def isCircular (m : Machine) (name : String) : Bool :=
  match m.bound? (m.target name) with
  | some v => v.attributes.isReference && v.isSet
  | none => false

/-- A text with a place behind a name as its parts. -/
def splitPlace (s : String) : String × Option String :=
  let name := s.toList.takeWhile Words.isNameChar
  match s.toList.drop name.length with
  | '[' :: rest =>
    if rest.getLast? = some ']' then (String.ofList name, some (String.ofList rest.dropLast))
    else (s, none)
  | _ => (s, none)

/-- Whether a text names a variable, or a place in one. -/
def isPlace (s : String) : Bool :=
  let (name, place) := splitPlace s
  Words.isName name.toList && place != some ""

/-- The value of the parameter of a name where no place is named. -/
def parameter? (m : Machine) (name : String) : Option String :=
  match name with
  | "#" => some (toString m.arguments.length)
  | "?" => some (toString m.status)
  | "$" => some (toString m.shellProcess)
  | "!" => m.lastJob.map toString
  | "-" => some m.optionLetters
  | "0" => some m.zero
  | "@" | "*" => if m.arguments.isEmpty then none else some (" ".intercalate m.arguments)
  | _ =>
    if name.toList.all Char.isDigit then m.arguments[Words.number 10 name.toList - 1]?
    else (m.lookup? name).bind (·.first?)

/-- The text of a variable, or nothing. -/
def get? (m : Machine) (name : String) : Option String :=
  (m.lookup? (m.target name)).bind (·.first?)

/-- The characters that separate fields, if the variable for them is set. -/
def separatorText? (m : Machine) : Option String := m.get? "IFS"

end Machine

end ActionServer.Shell
