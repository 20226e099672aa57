import ActionServer.Store.Error
import ActionServer.Client.Error
import ActionServer.Library

/-!
# Failures of actions

Why a script could not be loaded, why a run of it failed, and what a request to an action ends in
when it has no result. Each error has one text; an error that wraps another one also has a chain of
sources. An error that only passes on what a store, the internal client or the library says has the
text and the source of what it passes on.
-/

namespace ActionServer

/-- Why a script is not available. -/
inductive LoadError where
  | notFound (path : String)
  | invalid (reason : String)
  | io (reason : String)
  deriving DecidableEq, Repr

def LoadError.message : LoadError → String
  | notFound path => s!"Script not found: {path}"
  | invalid reason => s!"Script rejected: {reason}"
  | io reason => s!"I/O error: {reason}"

/-- Why a run failed. -/
inductive Failure where
  /-- The action said so itself. -/
  | failed (reason : String)
  | timeout (elapsedMs : Nat)
  | exited (code : Int) (stderr : String)
  /-- The script sent something that is no command. -/
  | protocol (reason : String)
  | panicked (reason : String)
  | store (cause : StoreError)
  | client (cause : ClientError)
  | library (cause : LibraryError)
  | io (reason : String)
  deriving DecidableEq, Repr

namespace Failure

def message : Failure → String
  | failed reason => reason
  | timeout elapsedMs => s!"Script timed out after {elapsedMs}ms"
  | exited code stderr => s!"Script exited with code {code}: {stderr}"
  | protocol reason => s!"Protocol error: {reason}"
  | panicked reason => s!"Action panicked: {reason}"
  | store cause => cause.message
  | client cause => cause.message
  | library cause => cause.message
  | io reason => s!"I/O error: {reason}"

/-- The texts of the errors behind a failure. -/
def sources : Failure → List String
  | io reason => [reason]
  | _ => []

end Failure

/-- What a request to an action, or the setup of actions, is refused with. -/
inductive ActionError where
  | notFound (path : String)
  | forbidden (action : String)
  | load (action : String) (cause : LoadError)
  | execution (action : String) (cause : Failure)
  | store (cause : StoreError)
  | validation (reason : String)
  | internal (reason : String)
  deriving DecidableEq, Repr

namespace ActionError

def message : ActionError → String
  | notFound path => s!"No action found for path {path}"
  | forbidden action => s!"Action '{action}' is only available to internal requests"
  | load action cause => s!"Failed to load action '{action}': {cause.message}"
  | execution action cause => s!"Failed executing action '{action}': {cause.message}"
  | store cause => cause.message
  | validation reason => s!"Validation failed: {reason}"
  | internal reason => s!"Internal error: {reason}"

/-- The text of the error and those of its sources, outermost first. -/
def chain (e : ActionError) : List String :=
  e.message :: match e with
    | load _ cause => [cause.message]
    | execution _ cause => cause.message :: cause.sources
    | _ => []

end ActionError

end ActionServer
