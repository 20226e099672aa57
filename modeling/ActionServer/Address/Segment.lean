/-!
# Segments of paths

A path grows segment by segment. A segment of two dots takes the last one away, except where that one
is the letter of a drive: a letter with a colon or a bar.
-/

namespace ActionServer.Segment

/-- Whether a text begins with the letter of a drive that stands alone in its segment. -/
def beginsWithDrive : List Char → Bool
  | [a, b] => a.isAlpha && (b == ':' || b == '|')
  | a :: b :: c :: _ => a.isAlpha && (b == ':' || b == '|') && "/\\?#".toList.contains c
  | _ => false

/-- Whether a segment is the letter of a drive. -/
def isDrive (segment : List Char) : Bool :=
  segment.length == 2 && beginsWithDrive segment

/-- Whether a segment is the letter of a drive with a colon. -/
def isPlainDrive (segment : List Char) : Bool :=
  isDrive segment && segment[1]? == some ':'

/-- A path up to its last slash, and what follows. -/
def splitLast (path : List Char) : List Char × List Char :=
  let last := (path.reverse.takeWhile (· != '/')).reverse
  (path.take (path.length - last.length), last)

/-- Whether the slash at the end of a path may be taken away: it is not the first one, and the
segment before it is no drive. -/
def endsLoose (path : List Char) : Bool :=
  let (front, last) := splitLast path.dropLast
  !front.isEmpty && !beginsWithDrive (last ++ ['/'])

/-- A path that ends with a slash without its last segment. A file's path keeps its drive. -/
def up (ofFile : Bool) (path : List Char) : List Char :=
  let path := if endsLoose path then path.dropLast else path
  let (front, last) := splitLast path
  if ofFile && isPlainDrive last then path else front

/-- Whether a segment stands for the segment above. -/
def isUp (segment : List Char) : Bool :=
  ["..", ".%2e", "%2e.", "%2e%2e"].contains (String.ofList (segment.map Char.toLower))

/-- Whether a segment stands for the segment where it is. -/
def isHere (segment : List Char) : Bool :=
  [".", "%2e"].contains (String.ofList (segment.map Char.toLower))

/-- Adds a segment to a path; `closed` tells whether a slash follows the segment. The second part of
the result tells whether the path got a drive, which takes the place of the host. -/
def add (ofFile : Bool) (path segment : List Char) (closed : Bool) : List Char × Bool :=
  let slash := if closed then ['/'] else []
  if isUp segment then
    let path := up ofFile path
    (if closed && path.getLast? != some '/' then path ++ ['/'] else path, false)
  else if isHere segment then
    (if path.getLast? != some '/' then path ++ ['/'] else path, false)
  else if ofFile && path == ['/'] && isDrive segment then
    (path ++ segment.take 1 ++ [':'] ++ slash, true)
  else (path ++ segment ++ slash, false)

/-- Adds segments to a path; a slash follows each but the last. -/
def addAll (ofFile : Bool) : (path : List Char) → List (List Char) → List Char × Bool
  | path, [] => (path, false)
  | path, [segment] => add ofFile path segment false
  | path, segment :: rest =>
    let (path, drive) := add ofFile path segment true
    let (path, later) := addAll ofFile path rest
    (path, drive || later)

end ActionServer.Segment
