import ActionServer.Address.Host
import ActionServer.Address.Segment
import ActionServer.Text.Percent
import ActionServer.Text.Split

/-!
# Addresses

An absolute address has a scheme, an authority with a host, a path, and perhaps a query and a
fragment. Reading one brings it to its normal form: blanks around it and line breaks in it are
dropped, the scheme and the host are in small letters, the port is left out where it is the usual
one, dot segments of the path are resolved, and characters that may not stand in a part are percent
encoded. The schemes of the web and of files read a backslash as a slash. A scheme of the web always
has a host; a file has none on its own machine.
-/

namespace ActionServer

structure Url where
  scheme : String
  /-- The host, if the address has an authority. -/
  host : Option String
  port : Option Nat
  /-- The path as it is written. -/
  path : String
  query : Option String
  fragment : Option String
  deriving DecidableEq, Repr, Inhabited

namespace Url

/-- How addresses of a scheme are read. -/
inductive Kind where
  | web
  | file
  | other
  deriving DecidableEq, Repr

/-- The usual port of each scheme of the web. -/
def usualPorts : List (String × Nat) :=
  [("http", 80), ("https", 443), ("ws", 80), ("wss", 443), ("ftp", 21)]

def usualPort? (scheme : String) : Option Nat :=
  (usualPorts.find? (·.1 == scheme)).map (·.2)

def kindOf (scheme : String) : Kind :=
  if scheme = "file" then .file
  else if (usualPort? scheme).isSome then .web
  else .other

namespace Kind

/-- Whether a character divides segments. -/
def isSlash (k : Kind) (c : Char) : Bool :=
  c == '/' || (k != .other && c == '\\')

/-- Whether a character ends an authority. -/
def endsAuthority (k : Kind) (c : Char) : Bool :=
  k.isSlash c || c == '?' || c == '#'

end Kind

/-- Controls and blanks around an address, and tabs and line breaks in it, do not count. -/
def tidy (cs : List Char) : List Char :=
  let outer (c : Char) : Bool := c ≤ ' '
  let inner := ((cs.dropWhile outer).reverse.dropWhile outer).reverse
  inner.filter fun c => !(c == '\t' || c == '\n' || c == '\r')

/-- The scheme of an address in small letters, and what follows its colon. -/
def splitScheme (cs : List Char) : Except UrlFault (String × List Char) :=
  let isSchemeChar (c : Char) : Bool := c.isAlphanum || c == '+' || c == '-' || c == '.'
  match cs with
  | c :: _ =>
    if !c.isAlpha then .error .relative
    else
      match cs.dropWhile isSchemeChar with
      | ':' :: rest => .ok (String.ofList ((cs.takeWhile isSchemeChar).map Char.toLower), rest)
      | _ => .error .relative
  | [] => .error .relative

/-- What follows the name of the user, and whether something of a user is left to be written. -/
def dropUser (k : Kind) (cs : List Char) : Except UrlFault (List Char × Bool) :=
  let authority := cs.takeWhile fun c => !k.endsAuthority c
  if !authority.contains '@' then .ok (cs, false)
  else
    let user := (authority.reverse.dropWhile (· != '@')).tail.reverse
    let rest := cs.drop (user.length + 1)
    if user.isEmpty && (rest.head?.map k.endsAuthority).getD false then .error .emptyHost
    else .ok (rest, !user.isEmpty && user != [':'])

/-- The host at the beginning of a text, and what follows it. -/
def splitHost (k : Kind) : (bracket : Bool) → List Char → List Char × List Char
  | _, [] => ([], [])
  | bracket, c :: rest =>
    if (c = ':' ∧ !bracket) ∨ k.endsAuthority c then ([], c :: rest)
    else
      let inside := if c = '[' then true else if c = ']' then false else bracket
      let (host, after) := splitHost k inside rest
      (c :: host, after)

/-- The port at the beginning of a text, and what follows it. -/
def splitPort (scheme : String) : List Char → Except UrlFault (Option Nat × List Char)
  | ':' :: cs =>
    let digits := cs.takeWhile Char.isDigit
    let rest := cs.dropWhile Char.isDigit
    let n := digits.foldl (fun n c => 10 * n + (c.toNat - '0'.toNat)) 0
    if n ≥ 65536 then .error .invalidPort
    else if !(rest.head?.map fun c => "/\\?#".toList.contains c).getD true then .error .invalidPort
    else if digits.isEmpty ∨ usualPort? scheme = some n then .ok (none, rest)
    else .ok (some n, rest)
  | rest => .ok (none, rest)

/-- Characters, besides controls, that are encoded in a fragment. -/
def fragmentSet (c : Char) : Bool :=
  c == ' ' || c == '"' || c == '<' || c == '>' || c == '\x60'

/-- Characters, besides controls, that are encoded in a path. -/
def pathSet (c : Char) : Bool :=
  fragmentSet c || c == '#' || c == '?' || c == '\x7b' || c == '\x7d'

/-- Characters, besides controls, that are encoded in a query. -/
def querySet (k : Kind) (c : Char) : Bool :=
  c == ' ' || c == '"' || c == '#' || c == '<' || c == '>' || (k != .other && c == '\'')

def encode (special : Char → Bool) (cs : List Char) : List Char :=
  cs.flatMap (Percent.encodeChar special)

/-- Adds to a path what stands in an address up to its query. The second part of the result tells
whether the path got a drive. -/
def readPath (k : Kind) (path : List Char) (cs : List Char) : List Char × Bool :=
  let (path, drive) :=
    Segment.addAll (k == .file) path ((Text.split k.isSlash cs).map (encode pathSet))
  (if k = .file then '/' :: path.dropWhile (· == '/') else path, drive)

/-- Splits at the first occurrence of a character, which is left out. -/
def splitAt? (mark : Char) (cs : List Char) : List Char × Option (List Char) :=
  match cs.dropWhile (· != mark) with
  | [] => (cs, none)
  | _ :: rest => (cs.takeWhile (· != mark), some rest)

/-- An address without its query and fragment, and what is left to be read. -/
structure Front where
  host : Option String
  port : Option Nat
  path : List Char
  rest : List Char

/-- The path of a text up to its query or fragment, and what follows. -/
def splitPath (cs : List Char) : List Char × List Char :=
  (cs.takeWhile fun c => c != '?' && c != '#', cs.dropWhile fun c => c != '?' && c != '#')

/-- Reads what follows the two slashes before an authority. -/
def readAuthority (scheme : String) (cs : List Char) : Except UrlFault Front := do
  let k := kindOf scheme
  let (place, user) ← dropUser k cs
  let (host, after) := splitHost k false place
  if host.isEmpty && (k == .web || user || after.head? == some ':') then .error .emptyHost
  let host ← if k = .web then Host.ofName host else Host.ofOpaque host
  let (port, after) ← splitPort scheme after
  let (path, rest) := splitPath after
  let path := match path with
    | [] => if k = .web then ['/'] else []
    | c :: more =>
      if k.isSlash c then (readPath k ['/'] more).1 else (readPath k ['/'] (c :: more)).1
  return { host := some host, port, path, rest }

/-- Reads what follows the two slashes before the host of a file. -/
def readFileHost (cs : List Char) : Except UrlFault Front := do
  let host := cs.takeWhile fun c => !Kind.file.endsAuthority c
  let after := cs.drop host.length
  let host' ← if Segment.isDrive host || host.isEmpty then pure "" else Host.ofName host
  if host' = "" ∨ host' = "localhost" then
    let (path, rest) := splitPath (if Segment.isDrive host then cs else after)
    return { host := some "", port := none, path := (readPath .file ['/'] path).1, rest }
  else
    let (path, rest) := splitPath after
    let (path, drive) := readPath .file ['/'] path.tail
    return { host := some (if drive then "" else host'), port := none, path, rest }

/-- Reads what follows the colon of the scheme. -/
def readFront (scheme : String) (cs : List Char) : Except UrlFault Front :=
  match kindOf scheme with
  | .web => readAuthority scheme (cs.dropWhile Kind.web.isSlash)
  | .file =>
    match cs with
    | a :: b :: more =>
      if Kind.file.isSlash a && Kind.file.isSlash b then readFileHost more
      else
        let (path, rest) := splitPath cs
        .ok { host := some "", port := none, path := (readPath .file ['/'] path).1, rest }
    | _ =>
      let (path, rest) := splitPath cs
      .ok { host := some "", port := none, path := (readPath .file ['/'] path).1, rest }
  | .other =>
    match cs with
    | '/' :: '/' :: more => readAuthority scheme more
    | '/' :: more =>
      let (path, rest) := splitPath more
      .ok { host := none, port := none, path := (readPath .other ['/'] path).1, rest }
    | _ =>
      let (path, rest) := splitPath cs
      .ok { host := none, port := none, path := encode (fun _ => false) path, rest }

/-- Reads an absolute address. The name of a user is dropped. -/
def parse (s : String) : Except UrlFault Url := do
  let (scheme, cs) ← splitScheme (tidy s.toList)
  let front ← readFront scheme cs
  let (before, fragment) := splitAt? '#' front.rest
  let (_, query) := splitAt? '?' before
  return {
    scheme
    host := front.host
    port := front.port
    path := String.ofList front.path
    query := query.map fun q => String.ofList (encode (querySet (kindOf scheme)) q)
    fragment := fragment.map fun f => String.ofList (encode fragmentSet f) }

/-- The authority as it is written. -/
def authority (u : Url) : String :=
  match u.host, u.port with
  | some host, some port => s!"{host}:{port}"
  | some host, none => host
  | none, _ => ""

/-- What stands before the path. A path that begins with two slashes is kept from being read as an
authority. -/
def beforePath (u : Url) : String :=
  if u.host.isSome then u.scheme ++ "://" ++ u.authority
  else if "//".toList.isPrefixOf u.path.toList then u.scheme ++ ":/."
  else u.scheme ++ ":"

/-- The address in its normal form. -/
def text (u : Url) : String :=
  let query := match u.query with
    | some q => "?" ++ q
    | none => ""
  let fragment := match u.fragment with
    | some f => "#" ++ f
    | none => ""
  u.beforePath ++ u.path ++ query ++ fragment

/-- What a request for the address asks its server for. -/
def target (u : Url) : String :=
  u.path ++ match u.query with
    | some q => "?" ++ q
    | none => ""

end Url

end ActionServer
