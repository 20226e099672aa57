import ActionServer.File.Path
import ActionServer.Text.Utf8

/-!
# File trees

A file system without symbolic links: entries under absolute names, the directories above an entry
being there with it. A path is followed segment by segment, and every segment that is passed has to
be a directory; a slash at the end asks for a directory too.
-/

namespace ActionServer

/-- What the operating system reports. -/
inductive FileFault where
  | notFound
  | notADirectory
  | isADirectory
  | nameTooLong
  | nulByte
  | notUtf8
  deriving DecidableEq, Repr

namespace FileFault

def message : FileFault → String
  | notFound => "No such file or directory (os error 2)"
  | notADirectory => "Not a directory (os error 20)"
  | isADirectory => "Is a directory (os error 21)"
  | nameTooLong => "File name too long (os error 36)"
  | nulByte => "file name contained an unexpected NUL byte"
  | notUtf8 => "stream did not contain valid UTF-8"

end FileFault

inductive FileEntry where
  | file (bytes : List UInt8)
  | directory
  deriving DecidableEq, Repr

/-- The files and directories below the root, each under the names that lead to it. -/
structure FileTree where
  entries : List (List String × FileEntry)
  deriving Repr

namespace FileTree

def empty : FileTree := ⟨[]⟩

/-- Adds a file or directory; one that stands at the same place is replaced. -/
def add (t : FileTree) (names : List String) (entry : FileEntry) : FileTree :=
  ⟨(t.entries.filter (·.1 != names)) ++ [(names, entry)]⟩

/-- What stands at a place: an entry, or a directory above one. -/
def at? (t : FileTree) (names : List String) : Option FileEntry :=
  match t.entries.find? (·.1 == names) with
  | some (_, entry) => some entry
  | none =>
    if names.isEmpty || t.entries.any fun e => names.isPrefixOf e.1 then some .directory else none

/-- Follows the segments of a path from a directory. -/
def follow (t : FileTree) : (at_ : List String) → List String → Except FileFault (List String)
  | place, [] => .ok place
  | place, segment :: rest =>
    match t.at? place with
    | none => .error .notFound
    | some (.file _) => .error .notADirectory
    | some .directory =>
      if segment = "" ∨ segment = "." then t.follow place rest
      else if segment = ".." then t.follow place.dropLast rest
      else if segment.utf8ByteSize > 255 then .error .nameTooLong
      else
        match t.at? (place ++ [segment]) with
        | none => .error .notFound
        | some _ => t.follow (place ++ [segment]) rest

/-- The place that an absolute path leads to. -/
def locate (t : FileTree) (path : String) : Except FileFault (List String) :=
  if path.toList.contains '\x00' then .error .nulByte
  else if path = "" then .error .notFound
  else if path.utf8ByteSize ≥ 4096 then .error .nameTooLong
  else t.follow [] (Path.segments path)

/-- The entry that an absolute path leads to. -/
def stat (t : FileTree) (path : String) : Except FileFault FileEntry :=
  match t.locate path with
  | .error e => .error e
  | .ok names =>
    match t.at? names with
    | some entry => .ok entry
    | none => .error .notFound

end FileTree

/-- The files of a machine, seen from a working directory. -/
structure FileSystem where
  tree : FileTree
  workDir : String
  deriving Repr

namespace FileSystem

def empty : FileSystem := ⟨FileTree.empty, "/"⟩

/-- The entry that a path leads to from the working directory. -/
def stat (f : FileSystem) (path : String) : Except FileFault FileEntry :=
  if path = "" then .error .notFound
  else f.tree.stat (Path.resolveFrom f.workDir path)

def isFile (f : FileSystem) (path : String) : Bool :=
  match f.stat path with
  | .ok (.file _) => true
  | _ => false

/-- The bytes of a file. -/
def read (f : FileSystem) (path : String) : Except FileFault (List UInt8) :=
  match f.stat path with
  | .ok (.file bytes) => .ok bytes
  | .ok .directory => .error .isADirectory
  | .error e => .error e

/-- The text of a file. -/
def readText (f : FileSystem) (path : String) : Except FileFault String :=
  match f.read path with
  | .ok bytes =>
    match Utf8.decode bytes with
    | .ok s => .ok s
    | .error _ => .error .notUtf8
  | .error e => .error e

/-- The same files, seen from another directory. -/
def within (f : FileSystem) (dir : String) : FileSystem :=
  { f with workDir := Path.resolveFrom f.workDir dir }

end FileSystem

end ActionServer
