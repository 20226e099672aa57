/-!
# Errors of internal calls

What goes wrong when an action calls its own server.
-/

namespace ActionServer

inductive ClientError where
  | notConfigured
  | invalidRequest (reason : String)
  | status (status : Nat) (reason : String)
  | transport (reason : String)
  deriving DecidableEq, Repr

namespace ClientError

def message : ClientError → String
  | notConfigured => "No internal client configured"
  | invalidRequest reason => s!"Invalid internal request: {reason}"
  | .status code reason => s!"Internal request failed with status {code}: {reason}"
  | transport reason => s!"Internal request transport error: {reason}"

end ClientError

end ActionServer
