import ActionServer.Text.Split

/-!
# Paths

A path is text with slashes between its parts. Repeated slashes and a `.` after the beginning have
no part of their own; joining an absolute path to a directory gives that path.
-/

namespace ActionServer.Path

/-- A part of a path. -/
inductive Component where
  | root
  | current
  | parent
  | normal (name : String)
  deriving DecidableEq, Repr

/-- The texts between slashes, empty ones included. -/
def segments (path : String) : List String :=
  (Text.split (· == '/') path.toList).map String.ofList

def isAbsolute (path : String) : Bool :=
  path.toList.head? == some '/'

/-- The component of a segment that is not the first; none for a segment without part. -/
def component? (segment : String) : Option Component :=
  if segment = "" ∨ segment = "." then none
  else if segment = ".." then some .parent
  else some (.normal segment)

/-- The parts of a path: a leading slash is the root, and a leading `.` is kept. -/
def components (path : String) : List Component :=
  match segments path with
  | [] => []
  | first :: rest =>
    let head := if isAbsolute path then [.root] else if first = "." then [.current]
      else (component? first).toList
    head ++ rest.filterMap component?

/-- A directory with a path below it. -/
def join (dir path : String) : String :=
  if isAbsolute path then path
  else if dir = "" ∨ dir.toList.getLast? = some '/' then dir ++ path
  else dir ++ "/" ++ path

/-- The text of a list of components. -/
def ofComponents : List Component → String
  | .root :: rest => "/" ++ "/".intercalate (rest.map name)
  | parts => "/".intercalate (parts.map name)
where
  name : Component → String
    | .root => ""
    | .current => "."
    | .parent => ".."
    | .normal name => name

/-- The directory that holds the last part of a path; the root and the empty path have none. -/
def parent? (path : String) : Option String :=
  match (components path).reverse with
  | [] => none
  | .root :: _ => none
  | _ :: rest => some (ofComponents rest.reverse)

/-- The last part of a path, if it is a name. -/
def fileName? (path : String) : Option String :=
  match (components path).getLast? with
  | some (.normal name) => some name
  | _ => none

/-- A file name without its extension: what stands before the last dot, unless nothing does. -/
def stem (name : String) : String :=
  match (name.toList.reverse.dropWhile (· != '.')) with
  | [] => name
  | [_] => name
  | _ :: before => String.ofList before.reverse

/-- The last part of a path without its extension. -/
def fileStem? (path : String) : Option String :=
  (fileName? path).map stem

/-- A path as it is meant from a directory. -/
def resolveFrom (dir path : String) : String :=
  if isAbsolute path then path else join dir path

end ActionServer.Path
