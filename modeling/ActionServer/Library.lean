import ActionServer.File.Tree

/-!
# Libraries of scripts

Helper files stand in one directory and are asked for by a relative name. A name with a part that
could leave the directory is refused before any file is looked at.
-/

namespace ActionServer

inductive LibraryError where
  | notConfigured
  | invalidName (name : String)
  | notFound (name : String)
  deriving DecidableEq, Repr

namespace LibraryError

def message : LibraryError → String
  | notConfigured => "No library directory configured"
  | invalidName name => s!"Invalid library name: '{name}'"
  | notFound name => s!"Library not found: {name}"

end LibraryError

/-- The library directory, if there is one, and the files of the system. -/
structure Library where
  root : Option String
  files : FileSystem
  deriving Repr

namespace Library

/-- A library that refuses every name. -/
def disabled : Library := ⟨none, FileSystem.empty⟩

/-- Whether every part of a path is a plain name. -/
def isPlain (name : String) : Bool :=
  (Path.components name).all fun
    | .normal _ => true
    | _ => false

/-- The path of the file that a name stands for. -/
def resolve (l : Library) (name : String) : Except LibraryError String :=
  match l.root with
  | none => .error .notConfigured
  | some root =>
    if name = "" ∨ !isPlain name then .error (.invalidName name)
    else
      let path := Path.join root name
      if l.files.isFile path then .ok path else .error (.notFound name)

end Library

end ActionServer
