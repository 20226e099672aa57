import ActionServer.Server.Response

/-!
# Origins

Browsers ask before they call from another origin. Every request with the method `OPTIONS` is such a
question and is answered here; all other answers tell whether the origin of the request is one of
those that are configured.
-/

namespace ActionServer.Origins

/-- An origin in the list that stands for all origins cannot go with credentials. -/
def isUsable (origins : List String) : Bool :=
  !origins.contains "*"

/-- The origin of the request, if it is a configured one. -/
def allowed? (origins : List String) (r : HttpRequest) : Option String :=
  match r.header? "origin" with
  | none => none
  | some value => origins.find? fun o => Utf8.encode o == value

/-- What every answer says about origins. -/
def headers (origins : List String) (r : HttpRequest) : List (String × String) :=
  ((allowed? origins r).toList.map fun o => ("access-control-allow-origin", o)) ++ [
    ("access-control-allow-credentials", "true"),
    ("vary", "origin, access-control-request-method, access-control-request-headers")]

/-- What the answer to a question adds. -/
def grants : List (String × String) := [
  ("access-control-allow-methods", "GET,POST,PUT,DELETE,PATCH"),
  ("access-control-allow-headers", "content-type,authorization,x-internal-secret"),
  ("access-control-max-age", "3600")]

/-- Whether a request is a question about origins. -/
def isQuestion (r : HttpRequest) : Bool :=
  r.method == "OPTIONS"

/-- The answer to a question; a path with fixed methods also names those. -/
def answer (origins : List String) (fixed : Bool) (r : HttpRequest) : HttpResponse :=
  .plain 200 (headers origins r ++ grants ++ if fixed then [("allow", "GET,HEAD")] else []) []

/-- Adds what every answer says about origins. -/
def addTo (origins : List String) (r : HttpRequest) (a : HttpResponse) : HttpResponse :=
  { a with headers := a.headers ++ headers origins r }

end ActionServer.Origins
