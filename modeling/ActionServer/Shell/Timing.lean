import ActionServer.Shell.Machine

/-!
# Times

How long a pipeline took, in a form that a variable can set: after a percent sign a letter names one of
the times, perhaps with the number of decimals and a sign for minutes in front of it. Commands here
need no time of their own.
-/

namespace ActionServer.Shell.Timing

/-- The form where no other one is set. -/
def usualFormat : String := "\nreal\t%3lR\nuser\t%3lU\nsys\t%3lS"

/-- The form that is the same on all systems. -/
def briefFormat : String := "real %2R\nuser %2U\nsys %2S"

/-- The most decimals. -/
def decimalLimit : Nat := 3

/-- Milliseconds as seconds with decimals, or as minutes and seconds. -/
def shown (ms decimals : Nat) (minutes : Bool) : List Char :=
  let seconds := ms / 1000
  let digits := (toString (1000 + ms % 1000)).toList.drop 1
  let point := if decimals = 0 then [] else '.' :: digits.take decimals
  if minutes then
    (toString (seconds / 60)).toList ++ 'm' :: (toString (seconds % 60)).toList ++ point ++ ['s']
  else (toString seconds).toList ++ point

/-- A form with the times in it; the error is a letter that names none. -/
def render (ms : Nat) : (steps : Nat) → List Char → Except Char (List Char)
  | 0, _ => .ok []
  | _, [] => .ok []
  | n + 1, '%' :: '%' :: rest => (render ms n rest).map ('%' :: ·)
  | n + 1, '%' :: 'P' :: rest => (render ms n rest).map ("0.00".toList ++ ·)
  | n + 1, '%' :: rest =>
    let digit := rest.head?.filter Char.isDigit
    let decimals := (digit.map fun c => min (c.toNat - '0'.toNat) decimalLimit).getD decimalLimit
    let rest := if digit.isSome then rest.drop 1 else rest
    let minutes := rest.head? == some 'l'
    match if minutes then rest.drop 1 else rest with
    | 'R' :: more => (render ms n more).map (shown ms decimals minutes ++ ·)
    | 'U' :: more | 'S' :: more => (render ms n more).map (shown 0 decimals minutes ++ ·)
    | c :: _ => .error c
    | [] => .ok ['%']
  | n + 1, c :: rest => (render ms n rest).map (c :: ·)

/-- A form with the times in it; the error is a letter that names none. -/
def text (ms : Nat) (format : String) : Except Char (List Char) :=
  render ms (format.length + 1) format.toList

end ActionServer.Shell.Timing
