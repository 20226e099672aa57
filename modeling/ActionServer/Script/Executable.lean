import ActionServer.Script.Session
import ActionServer.Failure

/-!
# Executables and loaders

A loader makes an executable of the script file of an action; an executable runs once for each
invocation. A run that ends well leaves its result in the view of the domain.
-/

namespace ActionServer

/-- How a run ends. -/
inductive Ending where
  | finished
  | failed (cause : Failure)
  /-- The run broke down, with a text if there is one to show. -/
  | panicked (payload : Option String)
  deriving DecidableEq, Repr

/-- What a breakdown without a text is called. -/
def unknownPanic : String := "unknown panic"

/-- The failure of a run that did not end well. -/
def Ending.failure? : Ending → Option Failure
  | finished => none
  | failed cause => some cause
  | panicked payload => some (.panicked (payload.getD unknownPanic))

structure Executable where
  run : Context → Domain → World → Ending × Domain × World

/-- What becomes of an attempt to load a script. -/
inductive LoadOutcome where
  | ready (executable : Executable)
  | refused (cause : LoadError)
  /-- The attempt broke down and says nothing. -/
  | died

structure Loader where
  /-- The extension of the script files, without its dot. -/
  extension : String
  load : String → LoadOutcome

end ActionServer
