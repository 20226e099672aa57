/-!
# Store errors

What a store, or the access of an action to its store, refuses.
-/

namespace ActionServer

inductive StoreError where
  /-- The action has no store bound to it. -/
  | notConfigured (action : String)
  /-- An update found no record; `target` is the text of the filter. -/
  | notFound (collection target : String)
  | invalidDocument (reason : String)
  | backend (reason : String)
  deriving DecidableEq, Repr

namespace StoreError

def message : StoreError → String
  | notConfigured action => s!"No store configured for action '{action}'"
  | notFound collection target => s!"Record not found in '{collection}': {target}"
  | invalidDocument reason => s!"Invalid document: {reason}"
  | backend reason => s!"Store backend error: {reason}"

end StoreError

end ActionServer
