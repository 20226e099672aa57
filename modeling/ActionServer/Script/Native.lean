import ActionServer.Script.Executable
import ActionServer.Text.Octets

/-!
# Native actions

Executables that come with the server are kept by name. The path of an action's script only serves
to find the name: it is the last part of the path without its extension, and no file is read.
-/

namespace ActionServer

structure NativeScripts where
  scripts : List (String × Executable)

namespace NativeScripts

/-- The extension of the paths of native actions. -/
def extension : String := "native"

/-- The executable for the script at a path. -/
def load (n : NativeScripts) (path : String) : LoadOutcome :=
  match Path.fileStem? path with
  | none => .refused (.invalid s!"Bad script path: {path}")
  | some name =>
    match n.scripts.lookup name with
    | some executable => .ready executable
    | none => .refused (.notFound path)

/-- The executable for the script at a path that may not be text. Only the name has to be text; in
messages, bytes that are not are replaced. -/
def loadBytes (n : NativeScripts) (path : List UInt8) : LoadOutcome :=
  match Path.fileStem? (Octets.text path) with
  | none => .refused (.invalid s!"Bad script path: {Utf8.lossy path}")
  | some stem =>
    match Utf8.decode (Octets.ofText stem) with
    | .error _ => .refused (.invalid s!"Bad script path: {Utf8.lossy path}")
    | .ok name =>
      match n.scripts.lookup name with
      | some executable => .ready executable
      | none => .refused (.notFound (Utf8.lossy path))

def loader (n : NativeScripts) : Loader :=
  ⟨extension, n.load⟩

end NativeScripts

end ActionServer
