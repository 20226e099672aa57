import ActionServer.Domain

/-!
# Clients that answer from a table

A table gives the answer for a method and a path as they are written. It serves where no server is
to be called.
-/

namespace ActionServer

inductive TableAnswer where
  | value (v : Json)
  /-- Gives the request back. -/
  | echo
  | fault (cause : ClientError)

namespace TableAnswer

def answer (method path : String) (body : Option Json) : TableAnswer → Except ClientError Json
  | value v => .ok v
  | echo =>
    .ok (Json.ofFields [
      ("method", .string method), ("path", .string path), ("body", body.getD .null)])
  | fault cause => .error cause

end TableAnswer

/-- The client of a table, whose keys are the method and the path with a space between them. What is
not in the table is not found. -/
def InternalClient.ofTable (table : List (String × TableAnswer)) : InternalClient :=
  ⟨fun method path body w =>
    match table.lookup (method ++ " " ++ path) with
    | some entry => (entry.answer method path body, w)
    | none => (.error (.status 404 "no stub"), w)⟩

end ActionServer
