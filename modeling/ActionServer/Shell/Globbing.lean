import ActionServer.File.Tree
import ActionServer.Shell.Pattern
import ActionServer.Text.Octets

/-!
# Paths from patterns

A field with special characters stands for the paths of the files that have its form, segment by
segment. A name that begins with a dot has to be asked for. Two stars stand for a directory and all
that is below it, where an option says so.
-/

namespace ActionServer

/-- The names in a directory. -/
def FileTree.children (t : FileTree) (names : List String) : List String :=
  (t.entries.filterMap fun (path, _) =>
    if names.isPrefixOf path then (path.drop names.length).head? else none).eraseDups

namespace Shell

/-- How fields with special characters are taken. -/
structure Globbing where
  groups : Bool
  anyCase : Bool
  /-- Names that begin with a dot need not be asked for. -/
  hidden : Bool
  /-- Two stars stand for directories below each other. -/
  deep : Bool
  /-- What paths may not have the form of. -/
  excluded : List Pattern

namespace Globbing

/-- Whether a field has the form of a pattern: it has a star, a question mark, a bracket that is closed,
or a group. -/
def isPattern (groups : Bool) : (isOpen : Bool) → List Mark → Bool
  | _, [] => false
  | isOpen, m :: rest =>
    let isGroup := groups && "+@!".toList.contains m.char && !m.isQuoted &&
      (rest.head?.map (·.isSpecial '(')).getD false
    if m.isSpecial '*' || m.isSpecial '?' || isGroup then true
    else if m.isSpecial '[' then isPattern groups true rest
    else if m.isSpecial ']' then isOpen || isPattern groups false rest
    else if m.isSpecial '\\' then isPattern groups isOpen rest.tail
    else if m.char == '/' then isPattern groups false rest
    else isPattern groups isOpen rest
termination_by _ ms => ms.length
decreasing_by all_goals (simp only [List.length_tail, List.length_cons]; omega)

/-- The segments between slashes. -/
def segments : List Mark → List (List Mark)
  | [] => [[]]
  | m :: rest =>
    if m.char = '/' then [] :: segments rest
    else match segments rest with
      | segment :: more => (m :: segment) :: more
      | [] => [[m]]

/-- A segment as a name, without the backslashes that keep the meaning of characters away. -/
def name : List Mark → List Char
  | [] => []
  | m :: rest =>
    if m.isSpecial '\\' then
      match rest with
      | escaped :: more => escaped.char :: name more
      | [] => ['\\']
    else m.char :: name rest

/-- Whether a pattern asks for names that begin with a dot. -/
def asksForDot : List Pattern.Item → Bool
  | .char c :: _ => c == '.'
  | .group _ choices :: _ => choices.any fun choice =>
      match choice with
      | .char c :: _ => c == '.'
      | _ => false
  | _ => false

/-- The names in a directory. -/
def listing (files : FileSystem) (dir : String) : List String :=
  let path := if dir = "" then "." else dir
  match files.tree.locate (Path.resolveFrom files.workDir (Utf8.lossy (Octets.ofText path))) with
  | .ok names => (files.tree.children names).map fun n => Octets.text (Utf8.encode n)
  | .error _ => []

def atPath? (files : FileSystem) (path : String) : Option FileEntry :=
  (files.stat (Utf8.lossy (Octets.ofText path))).toOption

/-- The names in a directory that a segment stands for. -/
def matching (g : Globbing) (files : FileSystem) (dir : String) (segment : List Mark) : List String :=
  let pattern := Pattern.ofMarks g.groups g.anyCase segment
  (listing files dir).filter fun n =>
    let isHidden := n.toList.head? == some '.'
    (!isHidden || g.hidden || asksForDot pattern.items) && pattern.holds n.toList

/-- The directories below a directory, itself included. -/
def below (g : Globbing) (files : FileSystem) : Nat → (dir : String) → List String
  | 0, dir => [dir]
  | n + 1, dir =>
    let inner := (listing files dir).filter fun name =>
      (g.hidden || name.toList.head? != some '.') &&
        atPath? files (dir ++ name) == some .directory
    dir :: inner.flatMap fun name => below g files n (dir ++ name ++ "/")

/-- Levels of directories that are looked at. -/
def depthLimit : Nat := 64

/-- The paths that segments lead to from a directory. -/
def paths (g : Globbing) (files : FileSystem) : (dir : String) → List (List Mark) → List String
  | dir, [] => [dir]
  | dir, [segment] =>
    if segment.isEmpty then (if atPath? files dir = some .directory then [dir] else [])
    else if g.deep && Mark.text segment == ['*', '*'] && !segment.any (·.isQuoted) then
      let all := (below g files depthLimit dir).flatMap fun d =>
        (listing files d).filterMap fun n =>
          if g.hidden || n.toList.head? != some '.' then some (d ++ n) else none
      if dir = "" then all else dir :: all
    else if isPattern g.groups false segment then (g.matching files dir segment).map (dir ++ ·)
    else
      let path := dir ++ String.ofList (name segment)
      if (atPath? files path).isSome then [path] else []
  | dir, segment :: rest =>
    if g.deep && Mark.text segment == ['*', '*'] && !segment.any (·.isQuoted) then
      (below g files depthLimit dir).flatMap fun d => paths g files d rest
    else if isPattern g.groups false segment then
      let dirs := (g.matching files dir segment).filter fun n =>
        atPath? files (dir ++ n) == some .directory
      dirs.flatMap fun n => paths g files (dir ++ n ++ "/") rest
    else paths g files (dir ++ String.ofList (name segment) ++ "/") rest

/-- The paths that a field stands for, in the order of their bytes. -/
def expand (g : Globbing) (files : FileSystem) (field : List Mark) : List String :=
  let found := (g.paths files "" (segments field)).eraseDups.filter fun path =>
    path != "" && !g.excluded.any fun p => p.holds path.toList
  found.mergeSort fun a b => decide (a ≤ b)

end Globbing

end Shell

end ActionServer
