import ActionServer.Text.Lowercase
import ActionServer.Text.Blank

/-!
# Names of actions

An action is known by its configured name in lower case with hyphens for spaces: for the first space
alone, which is the rule that older script files follow, or for all of them.
-/

namespace ActionServer

inductive NameRule where
  | firstSpace
  | allSpaces
  deriving DecidableEq, Repr

namespace NameRule

/-- A hyphen for the first space. -/
def hyphenFirst : List Char → List Char
  | [] => []
  | c :: rest => if c = ' ' then '-' :: rest else c :: hyphenFirst rest

/-- A hyphen for each space. -/
def hyphenAll (cs : List Char) : List Char :=
  cs.map fun c => if c = ' ' then '-' else c

/-- The name under which an action is known. -/
def apply (rule : NameRule) (name : String) : String :=
  match rule with
  | firstSpace => Text.lowercase (String.ofList (hyphenFirst name.toList))
  | allSpaces => Text.lowercase (String.ofList (hyphenAll name.toList))

/-- The rule that a setting names; the error is the setting as it was understood. -/
def ofText (s : String) : Except String NameRule :=
  match Text.asciiLower (Text.trim s) with
  | "first" | "first_space" => .ok firstSpace
  | "all" | "all_spaces" => .ok allSpaces
  | other => .error other

/-- What a setting that names no rule is answered with. -/
def unknownMessage (found : String) : String :=
  s!"Unknown name normalization: '{found}'. Valid values: first, all"

end NameRule

end ActionServer
