import ActionServer.Address.Label
import ActionServer.Address.NameTable
import ActionServer.Address.Punycode
import ActionServer.Text.Composition
import ActionServer.Text.Split

/-!
# Domain names

A domain name is brought to its form in ASCII. Letters become small, characters that look alike
become one, some are dropped, and the text is composed. Each label then has to be one that a name may
have; a label outside ASCII is written with a tag in front of its form in ASCII, and a label that
comes with the tag has to be such a form.
-/

namespace ActionServer.Name

/-- What becomes of a character; nothing if no name may have it. -/
def replace? (c : Char) : Option (List Char) :=
  let n := c.toNat
  if n < 0x80 then some [c.toLower]
  else if Packed.contains droppedEntries n then some []
  else if Packed.contains refusedEntries n then none
  else
    match Packed.find? replacedEntries n with
    | some e => some ((e.valuesAt n).map Char.ofNat)
    | none => some [c]

/-- Whether a character stays as it is. -/
def isPlain (c : Char) : Bool :=
  replace? c == some [c]

/-- ASCII characters that no name may have. -/
def isForbidden (c : Char) : Bool :=
  c ≤ ' ' || c == '\x7f' || "%#/:<>?@[\\]^|".toList.contains c

/-- What stands before the form in ASCII. -/
def tag : List Char := "xn--".toList

def isAscii (label : List Char) : Bool :=
  label.all fun c => c.toNat < 0x80

/-- What a label stands for, whether it comes with the tag or not; nothing if it stands for no label
that a name may have. -/
def meaning? (label : List Char) : Option (List Char) :=
  if tag.isPrefixOf label then
    if !isAscii label then none
    else
      match Punycode.decode? (label.drop tag.length) with
      | none => none
      | some plain =>
        if !isAscii plain && plain.all isPlain && Text.composed plain == plain &&
            !plain.any isForbidden && Label.isAllowed plain then some plain
        else none
  else if !label.any isForbidden && Label.isAllowed label then some label
  else none

/-- The form of a label in ASCII. -/
def asciiLabel (label : List Char) : List Char :=
  if isAscii label then label else tag ++ Punycode.encode label

/-- The form of a name in ASCII; nothing if it is no name. -/
def ascii? (name : List Char) : Option (List Char) := do
  let replaced ← name.mapM replace?
  let labels := Text.split (· == '.') (Text.composed replaced.flatten)
  let meanings ← labels.mapM meaning?
  if meanings.any Label.hasRight && !meanings.all Label.readsWell then none
  else some (List.flatten ((labels.map asciiLabel).intersperse ['.']))

end ActionServer.Name
