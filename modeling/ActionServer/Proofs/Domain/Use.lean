import ActionServer.Script.Session

/-!
# Uses of a domain

Everything that an action can do with its domain, as data: what it writes into its view and its
errors, and what it asks of its store, its libraries and its server. A run of an action is a list of
uses. Only the uses of the first kind change the domain; the others are told something.
-/

namespace ActionServer.Domain

inductive Use where
  | error (key : String) (value : Option Json)
  | errorIf (condition : Bool) (key : String) (value : Option Json)
  | errorUnless (condition : Bool) (key : String) (value : Option Json)
  | hide (key : String)
  | set (key : String) (value : Json)
  | merge (data : Document)
  | insertRaw (key : String) (value : Json)
  | data
  | store (element : Document)
  | fetch (query : FetchQuery)
  | require (name : String)
  | call (method path : String) (body : Option Json)

/-- One use. What the action is told is left out: it has no part in what the domain becomes. -/
def use (d : Domain) (w : World) : Use → Domain × World
  | .error key value => (d.error key value, w)
  | .errorIf condition key value => (d.errorIf condition key value, w)
  | .errorUnless condition key value => (d.errorUnless condition key value, w)
  | .hide key => (d.hide key, w)
  | .set key value => (d.set key value, w)
  | .merge data => (d.merge data, w)
  | .insertRaw key value => (d.insertRaw key value, w)
  | .data | .require _ => (d, w)
  | .store element => (d, (d.store element w).2)
  | .fetch query => (d, (d.fetch query w).2)
  | .call method path body => (d, (d.call method path body w).2)

/-- The domain after uses, one after the other. -/
def after (d : Domain) (w : World) : List Use → Domain
  | [] => d
  | u :: rest => after (d.use w u).1 (d.use w u).2 rest

namespace Use

/-- Whether a use can change the view. -/
def writes : Use → Bool
  | hide _ | set _ _ | merge _ | insertRaw _ _ => true
  | _ => false

/-- Whether a use writes into the view without regard to what is hidden. -/
def isRaw : Use → Bool
  | insertRaw _ _ => true
  | _ => false

end Use

end ActionServer.Domain
