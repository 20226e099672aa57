import ActionServer.Action.Registry
import ActionServer.File.Tree
import ActionServer.Text.Split

/-!
# Server settings

A server takes its settings from variables, each a text under a name. A variable that is blank
counts as not set. The settings are looked at in a fixed order, and the first one that cannot be
used is the error.
-/

namespace ActionServer

inductive SettingsError where
  | invalid (setting reason : String)
  | read (path : String) (fault : FileFault)
  | resource (cause : ActionError)
  deriving DecidableEq, Repr

def SettingsError.message : SettingsError → String
  | invalid setting reason => s!"{setting} is invalid: {reason}"
  | read path fault => s!"Failed to read {path}: {fault.message}"
  | resource cause => cause.message

/-- Where actions are and how they run. -/
structure ActionSettings where
  resourceName : String
  actionsDir : String
  libDir : String
  interpreter : String
  extension : String
  scriptTimeoutSecs : Nat
  nameRule : NameRule
  deriving DecidableEq, Repr

structure ServerSettings where
  host : String
  port : Nat
  corsOrigins : List String
  requestTimeoutSecs : Nat
  shutdownTimeoutSecs : Nat
  internalSecret : Option String
  internalBaseUrl : String
  databaseUrl : Option String
  actions : ActionSettings
  deriving DecidableEq, Repr

namespace ActionSettings

/-- The path below which the actions are served. -/
def routePrefix (s : ActionSettings) : String :=
  "/" ++ s.resourceName

def registry (s : ActionSettings) : RegistrySettings :=
  ⟨s.resourceName, s.actionsDir, s.nameRule⟩

/-- The interpreters whose scripts are checked when they are loaded. -/
def checkedInterpreters : List String := ["bash", "sh"]

/-- The arguments that make the interpreter check a script; none if it is not checked. -/
def checkArguments (s : ActionSettings) : List String :=
  if checkedInterpreters.contains s.interpreter then ["-n"] else []

/-- The name of the resource file in the directory of the actions. -/
def resourceFile : String := "config.json"

/-- The actions that the resource file lists; without that file there are none. -/
def loadActions (s : ActionSettings) (files : FileSystem) :
    Except SettingsError (List ActionConfig) :=
  let path := Path.join s.actionsDir resourceFile
  match files.readText path with
  | .error .notFound => .ok []
  | .error fault => .error (.read path fault)
  | .ok text =>
    match ResourceConfig.parse text with
    | .ok c => .ok c.actions
    | .error e => .error (.resource e)

end ActionSettings

/-- Why a text is no number of a certain size. -/
inductive NumeralFault where
  | empty
  | invalidDigit
  | tooLarge
  deriving DecidableEq, Repr

namespace NumeralFault

def message : NumeralFault → String
  | empty => "cannot parse integer from empty string"
  | invalidDigit => "invalid digit found in string"
  | tooLarge => "number too large to fit in target type"

end NumeralFault

/-- Digits below a limit, from the left; the first digit that is none or goes too far decides. -/
def readDigits (limit : Nat) : Nat → List Char → Except NumeralFault Nat
  | n, [] => .ok n
  | n, c :: rest =>
    if c.isDigit then
      let next := 10 * n + (c.toNat - '0'.toNat)
      if next < limit then readDigits limit next rest else .error .tooLarge
    else .error .invalidDigit

/-- A natural number below a limit; a plus sign may stand before it. -/
def readNumeral (limit : Nat) (s : String) : Except NumeralFault Nat :=
  match s.toList with
  | [] => .error .empty
  | ['+'] => .error .invalidDigit
  | '+' :: rest => readDigits limit 0 rest
  | cs => readDigits limit 0 cs

namespace ServerSettings

/-- Paths that the server keeps for itself. -/
def reservedNames : List String := ["actions", "health"]

/-- Whether a name can be a segment of a route. -/
def isRouteSegment (name : String) : Bool :=
  !reservedNames.contains name &&
    name.toList.all fun c => c.isAlphanum || c == '-' || c == '_'

/-- Whether a character may stand in the value of a header: any but controls, the tab excepted. -/
def isHeaderChar (c : Char) : Bool :=
  (' ' ≤ c && c != '\x7f') || c == '\t'

/-- The origins of a comma-separated list. -/
def originsOf (list : String) : List String :=
  ((Text.split (· == ',') list.toList).map fun part =>
    String.ofList (Text.trimChars part)).filter (· != "")

/-- A variable that is set to more than blanks. -/
def given (lookup : String → Option String) (name : String) : Option String :=
  (lookup name).filter fun v => !Text.isAllBlank v

/-- A number from a variable. -/
def number (lookup : String → Option String) (name : String) (limit default : Nat) :
    Except SettingsError Nat :=
  match given lookup name with
  | none => .ok default
  | some v =>
    match readNumeral limit (Text.trim v) with
    | .ok n => .ok n
    | .error fault => .error (.invalid name fault.message)

/-- The name rule that a variable chooses. -/
def nameRule (lookup : String → Option String) : Except SettingsError NameRule :=
  match given lookup "ACTION_NAME_NORMALIZATION" with
  | none => .ok .firstSpace
  | some v =>
    match NameRule.ofText v with
    | .ok rule => .ok rule
    | .error found =>
      .error (.invalid "ACTION_NAME_NORMALIZATION"
        (ActionError.validation (NameRule.unknownMessage found)).message)

/-- The origins from which browsers may call. -/
def origins (lookup : String → Option String) : Except SettingsError (List String) :=
  let origins := originsOf ((given lookup "CORS_ORIGINS").getD "http://localhost:5173")
  match origins.find? fun o => !o.toList.all isHeaderChar with
  | some bad => .error (.invalid "CORS_ORIGINS" s!"'{bad}' is not a valid origin")
  | none => .ok origins

/-- The settings of the actions. -/
def actionSettings (lookup : String → Option String) : Except SettingsError ActionSettings := do
  let actionsDir := (given lookup "ACTIONS_DIR").getD "./resources/action"
  let libDir := (given lookup "ACTION_LIB_DIR").getD (Path.join actionsDir "lib")
  let resourceName := (given lookup "RESOURCE_NAME").getD "action"
  if !isRouteSegment resourceName then
    .error (.invalid "RESOURCE_NAME" s!"'{resourceName}' cannot be used as a route segment")
  let interpreter := (given lookup "ACTION_SCRIPT_INTERPRETER").getD "bash"
  let extension := (given lookup "ACTION_SCRIPT_EXTENSION").getD "sh"
  let scriptTimeoutSecs ← number lookup "ACTION_SCRIPT_TIMEOUT_SECS" (Nat.pow 2 64) 30
  let nameRule ← nameRule lookup
  return { resourceName, actionsDir, libDir, interpreter, extension, scriptTimeoutSecs, nameRule }

/-- The settings that a source of variables gives. -/
def ofVariables (lookup : String → Option String) : Except SettingsError ServerSettings := do
  let host := (given lookup "HOST").getD "0.0.0.0"
  let port ← number lookup "PORT" (Nat.pow 2 16) 3000
  let corsOrigins ← origins lookup
  let requestTimeoutSecs ← number lookup "REQUEST_TIMEOUT_SECS" (Nat.pow 2 64) 30
  let shutdownTimeoutSecs ← number lookup "SHUTDOWN_TIMEOUT_SECS" (Nat.pow 2 64) 30
  let internalBaseUrl := Text.trimTrailingSlashes <|
    (given lookup "INTERNAL_BASE_URL").getD s!"http://127.0.0.1:{port}"
  let actions ← actionSettings lookup
  return {
    host, port, corsOrigins, requestTimeoutSecs, shutdownTimeoutSecs
    internalSecret := given lookup "INTERNAL_SECRET"
    internalBaseUrl
    databaseUrl := given lookup "DATABASE_URL"
    actions }

end ServerSettings

end ActionServer
