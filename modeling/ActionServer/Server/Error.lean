import ActionServer.Failure
import ActionServer.Json.Document

/-!
# Error answers

Every error that a request ends in has a status, a code and a message. The message is the error's own
text, with two exceptions: what was refused as invalid is told without its label, and the details of
an internal error are kept from the caller.
-/

namespace ActionServer

inductive ServerError where
  | action (cause : ActionError)
  | badRequest (reason : String)
  deriving DecidableEq, Repr

namespace ServerError

def message : ServerError → String
  | action cause => cause.message
  | badRequest reason => s!"Bad request: {reason}"

def status : ServerError → Nat
  | action (.notFound _) => 404
  | action (.forbidden _) => 403
  | action (.load _ _) => 503
  | action (.execution _ _) => 500
  | action (.store _) => 502
  | action (.validation _) => 400
  | action (.internal _) => 500
  | badRequest _ => 400

def code : ServerError → String
  | action (.notFound _) => "ACTION_NOT_FOUND"
  | action (.forbidden _) => "FORBIDDEN"
  | action (.load _ _) => "ACTION_LOAD_FAILED"
  | action (.execution _ _) => "ACTION_FAILED"
  | action (.store _) => "STORE_ERROR"
  | action (.validation _) => "VALIDATION_ERROR"
  | action (.internal _) => "INTERNAL_ERROR"
  | badRequest _ => "BAD_REQUEST"

/-- What a caller is told. -/
def publicMessage : ServerError → String
  | action (.validation reason) => reason
  | action (.internal _) => "An internal error occurred"
  | action cause => cause.message
  | badRequest reason => reason

/-- The body of the answer. -/
def body (e : ServerError) : Json :=
  Json.ofFields [("error", .string e.publicMessage), ("code", .string e.code)]

end ServerError

end ActionServer
