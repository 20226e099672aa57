import ActionServer.Shell.Fractions

/-!
# Dates

The date and time of a number of seconds since the beginning of 1970, in the forms that a format asks
for with letters behind percent signs.
-/

namespace ActionServer.Shell

structure Moment where
  seconds : Int
  /-- Days since the beginning of 1970. -/
  days : Int
  year : Int
  month : Nat
  day : Nat
  /-- The day of the year, the first one being zero. -/
  yearDay : Nat
  /-- The day of the week, Sunday being zero. -/
  weekday : Nat
  hour : Nat
  minute : Nat
  second : Nat
  deriving Repr

namespace Moment

def isLeap (year : Int) : Bool := (year % 4 == 0 && year % 100 != 0) || year % 400 == 0

/-- Days in front of each month. -/
def monthStarts (year : Int) : List Nat :=
  let february := if isLeap year then 29 else 28
  [0, 31, 31 + february, 62 + february, 92 + february, 123 + february, 153 + february,
    184 + february, 215 + february, 245 + february, 276 + february, 306 + february]

/-- Days from the beginning of 1970 to that of a year. -/
def yearStart (year : Int) : Int :=
  let y := year - 1
  365 * (year - 1970) + (y.fdiv 4 - 492) - (y.fdiv 100 - 19) + (y.fdiv 400 - 4)

/-- The year that a day is in. -/
def yearOf (days : Int) : Int :=
  let guess := 1970 + (400 * days).fdiv 146097
  if days < yearStart guess then guess - 1
  else if yearStart (guess + 1) ≤ days then guess + 1
  else guess

def ofSeconds (seconds : Int) : Moment :=
  let days := seconds.fdiv 86400
  let rest := (seconds - 86400 * days).toNat
  let year := yearOf days
  let yearDay := (days - yearStart year).toNat
  let passed := (monthStarts year).takeWhile (· ≤ yearDay)
  { seconds, days, year, month := passed.length, day := yearDay - passed.getLast?.getD 0 + 1, yearDay
    weekday := ((days + 4) % 7).toNat, hour := rest / 3600, minute := rest % 3600 / 60
    second := rest % 60 }

def weekdays : List String :=
  ["Sunday", "Monday", "Tuesday", "Wednesday", "Thursday", "Friday", "Saturday"]

def months : List String :=
  ["January", "February", "March", "April", "May", "June", "July", "August", "September", "October",
    "November", "December"]

/-- A number with at least two places. -/
def two (n : Nat) : List Char := Fraction.padded 2 n

def blanked (n : Nat) : List Char := if n < 10 then ' ' :: Nat.toDigits 10 n else Nat.toDigits 10 n

/-- The hour on a clock of twelve hours. -/
def halfHour (t : Moment) : Nat := if t.hour % 12 = 0 then 12 else t.hour % 12

/-- What a letter asks for; nothing if it asks for nothing. -/
def part? (t : Moment) (letter : Char) : Option (List Char) :=
  let clock := two t.hour ++ ':' :: two t.minute
  let time := clock ++ ':' :: two t.second
  let year := (toString t.year).toList
  let short := two (t.year % 100).toNat
  let isoDate := year ++ '-' :: two t.month ++ '-' :: two t.day
  let weekday := (weekdays[t.weekday]?.getD "").toList
  let month := (months[t.month - 1]?.getD "").toList
  let half := if t.hour < 12 then "AM" else "PM"
  match letter with
  | 'Y' => some year
  | 'C' => some (two (t.year / 100).toNat)
  | 'y' => some short
  | 'm' => some (two t.month)
  | 'd' => some (two t.day)
  | 'e' => some (blanked t.day)
  | 'H' => some (two t.hour)
  | 'k' => some (blanked t.hour)
  | 'I' => some (two t.halfHour)
  | 'l' => some (blanked t.halfHour)
  | 'M' => some (two t.minute)
  | 'S' => some (two t.second)
  | 's' => some (toString t.seconds).toList
  | 'j' => some (Fraction.padded 3 (t.yearDay + 1))
  | 'F' => some isoDate
  | 'T' | 'X' => some time
  | 'R' => some clock
  | 'D' | 'x' => some (two t.month ++ '/' :: two t.day ++ '/' :: short)
  | 'r' => some (two t.halfHour ++ time.drop 2 ++ ' ' :: half.toList)
  | 'c' => some (weekday.take 3 ++ ' ' :: month.take 3 ++ ' ' :: blanked t.day ++ ' ' :: time ++
      ' ' :: year)
  | 'a' => some (weekday.take 3)
  | 'A' => some weekday
  | 'b' | 'h' => some (month.take 3)
  | 'B' => some month
  | 'p' => some half.toList
  | 'P' => some (half.toList.map Char.toLower)
  | 'u' => some (toString (if t.weekday = 0 then 7 else t.weekday)).toList
  | 'w' => some (toString t.weekday).toList
  | 'U' => some (two ((t.yearDay + 7 - t.weekday) / 7))
  | 'W' => some (two ((t.yearDay + 7 - (t.weekday + 6) % 7) / 7))
  | 'Z' => some "UTC".toList
  | 'z' => some "+0000".toList
  | 'n' => some ['\n']
  | 't' => some ['\t']
  | '%' => some ['%']
  | _ => none

/-- A moment as a format asks for it. -/
def render (t : Moment) : List Char → List Char
  | '%' :: c :: rest => (t.part? c).getD ['%', c] ++ t.render rest
  | c :: rest => c :: t.render rest
  | [] => []

end Moment

end ActionServer.Shell
