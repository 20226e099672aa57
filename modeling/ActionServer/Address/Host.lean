import ActionServer.Address.Name
import ActionServer.Address.Numeric
import ActionServer.Text.Percent

/-!
# Hosts in addresses

On the web a host is a domain name in its form in ASCII, an address of four bytes, or one of eight
groups in brackets. The last label decides: if it is a number, the whole host has to be an address of
four bytes. The host of any other address is kept as it is written.
-/

namespace ActionServer

/-- Why a text is no address. -/
inductive UrlFault where
  | relative
  | emptyHost
  | invalidPort
  | invalidName
  | invalidCharacter
  | invalidBytes
  | invalidGroups
  deriving DecidableEq, Repr

def UrlFault.message : UrlFault → String
  | relative => "relative URL without a base"
  | emptyHost => "empty host"
  | invalidPort => "invalid port number"
  | invalidName => "invalid international domain name"
  | invalidCharacter => "invalid domain character"
  | invalidBytes => "invalid IPv4 address"
  | invalidGroups => "invalid IPv6 address"

namespace Host

/-- An address in brackets. -/
def ofBrackets (host : List Char) : Except UrlFault String :=
  if host.getLast? != some ']' then .error .invalidGroups
  else
    match Numeric.eight? host.tail.dropLast with
    | some gs => .ok ("[" ++ Numeric.groupsText gs ++ "]")
    | none => .error .invalidGroups

/-- The host of an address of the web. -/
def ofName (host : List Char) : Except UrlFault String :=
  if host.head? = some '[' then ofBrackets host
  else
    match Utf8.decode (Percent.decodeBytes (Utf8.encode (String.ofList host))) with
    | .error _ => .error .invalidName
    | .ok plain =>
      match Name.ascii? plain.toList with
      | none => .error .invalidName
      | some [] => .error .emptyHost
      | some name =>
        if Numeric.endsInNumber name then
          match Numeric.bytes? name with
          | some n => .ok (Numeric.bytesText n)
          | none => .error .invalidBytes
        else .ok (String.ofList name)

/-- Characters that no host may have. -/
def isForbidden (c : Char) : Bool :=
  c == '\x00' || c == '\t' || c == '\n' || c == '\r' || " #/:<>?@[\\]^|".toList.contains c

/-- The host of any other address. -/
def ofOpaque (host : List Char) : Except UrlFault String :=
  if host.head? = some '[' then ofBrackets host
  else if host.any isForbidden then .error .invalidCharacter
  else .ok (String.ofList (host.flatMap (Percent.encodeChar fun _ => false)))

end Host

end ActionServer
