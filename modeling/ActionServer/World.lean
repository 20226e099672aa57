import ActionServer.Store.Stores

/-!
# What invocations share

Each invocation owns its view of the data, its errors and its hidden fields. Everything that one
invocation can see of another is here: the stores, and the notes that native actions leave.
-/

namespace ActionServer

structure World where
  stores : Stores
  /-- What native actions noted down, the latest first. -/
  notes : List Json

/-- A world without notes. -/
def World.ofStores (stores : Stores) : World := ⟨stores, []⟩

/-- Leaves a note. -/
def World.note (w : World) (remark : Json) : World :=
  { w with notes := remark :: w.notes }

end ActionServer
