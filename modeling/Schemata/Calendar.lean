import Schemata.Text.Scan
import Schemata.Text.Character

/-!
Dates of the Gregorian calendar, extended to all years, and their texts. Days are counted from the
first of January 2000. The count goes by eras of 400 years, all of which have the same days, and by
years that begin in March, so that the leap day is the last day of its year.
-/
namespace Schemata

structure Date where
  year : Int
  month : Nat
  day : Nat
  deriving DecidableEq, Repr

namespace Date

def isLeapYear (year : Int) : Bool := year % 4 == 0 && (year % 100 != 0 || year % 400 == 0)

def daysInMonth (year : Int) (month : Nat) : Nat :=
  if month = 2 then if isLeapYear year then 29 else 28
  else if month ∈ [4, 6, 9, 11] then 30
  else 31

/-- The years that dates can have. -/
def minYear : Int := -262143
def maxYear : Int := 262142

def isValid (d : Date) : Bool :=
  minYear ≤ d.year && d.year ≤ maxYear && 1 ≤ d.month && d.month ≤ 12 && 1 ≤ d.day &&
    d.day ≤ daysInMonth d.year d.month

/-- The days of an era of 400 years. -/
def daysPerEra : Int := 146097

/-- The days from the first of March of the year 0 to the first of January 2000. -/
def epoch : Int := 730425

/-- The day in a year that begins in March, for a month counted from March. -/
def dayOfYear (month : Int) (day : Nat) : Int := (153 * month + 2) / 5 + day - 1

def toDays (d : Date) : Int :=
  let early := d.month ≤ 2
  let year := if early then d.year - 1 else d.year
  let month : Int := if early then (d.month : Int) + 9 else (d.month : Int) - 3
  let era := year / 400
  let yearOfEra := year % 400
  era * daysPerEra + yearOfEra * 365 + yearOfEra / 4 - yearOfEra / 100 + dayOfYear month d.day -
    epoch

def ofDays (n : Int) : Date :=
  let n := n + epoch
  let era := n / daysPerEra
  let dayOfEra := n % daysPerEra
  let yearOfEra :=
    (dayOfEra - dayOfEra / 1460 + dayOfEra / 36524 - dayOfEra / 146096) / 365
  let dayOfYear := dayOfEra - (365 * yearOfEra + yearOfEra / 4 - yearOfEra / 100)
  let month := (5 * dayOfYear + 2) / 153
  let day := dayOfYear - (153 * month + 2) / 5 + 1
  let year := yearOfEra + era * 400
  if month < 10 then ⟨year, (month + 3).toNat, day.toNat⟩
  else ⟨year + 1, (month - 9).toNat, day.toNat⟩

/-- None if the year is out of range. -/
def ofDays? (n : Int) : Option Date :=
  let d := ofDays n
  if d.isValid then some d else none

end Date

/-! ### Texts -/

namespace Calendar

open Scan

/-- A number with zeros in front. -/
def padded (width n : Nat) : String :=
  let text := Nat.repr n
  String.ofList (List.replicate (width - text.length) '0') ++ text

/-- Years of four digits stand alone, all others have a sign. -/
def yearText (year : Int) : String :=
  if 0 ≤ year ∧ year ≤ 9999 then padded 4 year.toNat
  else (if year < 0 then "-" else "+") ++ padded 4 year.natAbs

def dateText (d : Date) : String :=
  yearText d.year ++ "-" ++ padded 2 d.month ++ "-" ++ padded 2 d.day

/-- A fraction of a second in microseconds, written with no digits, three or six. -/
def fractionText (micros : Nat) : String :=
  if micros = 0 then ""
  else if micros % 1000 = 0 then "." ++ padded 3 (micros / 1000)
  else "." ++ padded 6 micros

def timeText (seconds : Nat) : String :=
  padded 2 (seconds / 3600) ++ ":" ++ padded 2 (seconds / 60 % 60) ++ ":" ++ padded 2 (seconds % 60)

def microsPerSecond : Nat := 1000000

def secondsPerDay : Nat := 86400

def microsPerDay : Nat := secondsPerDay * microsPerSecond

/-- A date and the microseconds since its beginning. -/
def split? (micros : Int) : Option (Date × Nat) :=
  (Date.ofDays? (micros / microsPerDay)).map fun d => (d, (micros % microsPerDay).toNat)

/-- The text of a moment, counted in microseconds from the beginning of the year 2000. -/
def momentText? (micros : Int) : Option String :=
  (split? micros).map fun (d, rest) =>
    dateText d ++ "T" ++ timeText (rest / microsPerSecond) ++ fractionText (rest % microsPerSecond)

/-! ### Reading -/

/-- A number of one or two digits, behind white space. -/
def shortNumber? (s : List Char) : Option (Nat × List Char) :=
  number? 1 2 (s.dropWhile Text.isBlank)

/-- A year behind white space: up to four digits, or a sign and any number of digits. -/
def year? (s : List Char) : Option (Int × List Char) :=
  match s.dropWhile Text.isBlank with
  | '-' :: rest => (number? 1 rest.length rest).map fun (n, rest) => (-(n : Int), rest)
  | '+' :: rest => (number? 1 rest.length rest).map fun (n, rest) => ((n : Int), rest)
  | rest => (number? 1 4 rest).map fun (n, rest) => ((n : Int), rest)

def valid? (d : Date) : Option Date := if d.isValid then some d else none

/-- A date at the beginning of a text; its numbers need not have all their digits. -/
def looseDate? (s : List Char) : Option (Date × List Char) := do
  let (year, s) ← year? s
  let (month, s) ← shortNumber? (← expect? '-' s)
  let (day, s) ← shortNumber? (← expect? '-' s)
  return (← valid? ⟨year, month, day⟩, s)

/-- A date with all its digits. -/
def fullDate? (s : List Char) : Option (Date × List Char) := do
  let (year, s) ← number? 4 4 s
  let (month, s) ← number? 2 2 (← expect? '-' s)
  let (day, s) ← number? 2 2 (← expect? '-' s)
  return (← valid? ⟨year, month, day⟩, s)

/-- A fraction of a second in nanoseconds, if there is one. Digits beyond the ninth are dropped. -/
def fraction? (s : List Char) : Option (Nat × List Char) :=
  match s with
  | '.' :: rest =>
    let digits := (rest.takeWhile Char.isDigit).take 9
    (Literal.natOfDigits? 10 digits).map fun n =>
      (n * Nat.pow 10 (9 - digits.length), rest.dropWhile Char.isDigit)
  | rest => some (0, rest)

/-- The nanoseconds of a time of day. A minute may have a sixty-first second. -/
def nanos? (hour minute second nanos : Nat) : Option Nat :=
  if hour ≤ 23 ∧ minute ≤ 59 ∧ second ≤ 60 then
    some ((hour * 3600 + minute * 60 + second) * 1000000000 + nanos)
  else none

def looseTime? (s : List Char) : Option (Nat × List Char) := do
  let (hour, s) ← shortNumber? s
  let (minute, s) ← shortNumber? (← expect? ':' s)
  let (second, s) ← shortNumber? (← expect? ':' s)
  let (nanos, s) ← fraction? s
  return (← nanos? hour minute second nanos, s)

def fullTime? (s : List Char) : Option (Nat × List Char) := do
  let (hour, s) ← number? 2 2 s
  let (minute, s) ← number? 2 2 (← expect? ':' s)
  let (second, s) ← number? 2 2 (← expect? ':' s)
  let (nanos, s) ← fraction? s
  return (← nanos? hour minute second nanos, s)

/-- The seconds by which a clock is ahead of universal time. A minus sign may be a hyphen. -/
def offset? (s : List Char) : Option (Int × List Char) :=
  match s with
  | [] => none
  | c :: rest =>
    if c == 'Z' || c == 'z' then some (0, rest)
    else do
      let negative ←
        if c == '+' then some false
        else if c == '-' || c.toNat == 0x2212 then some true
        else none
      let (hours, s) ← number? 2 2 rest
      let (minutes, s) ← number? 2 2 (← expect? ':' s)
      if 23 < hours || 59 < minutes then none
      let seconds : Int := (hours * 3600 + minutes * 60 : Nat)
      return (if negative then -seconds else seconds, s)

/-- A moment in microseconds. What is left over is cut off towards the year 2000. -/
def moment (d : Date) (nanos : Nat) (offset : Int) : Int :=
  Int.tdiv ((d.toDays * secondsPerDay - offset) * 1000000000 + nanos) 1000

/-- A date alone, in days. -/
def date? (s : String) : Option Int := do
  let (d, rest) ← looseDate? s.toList
  if rest.isEmpty then some d.toDays else none

/-- A date and a time without an offset. -/
def localMoment? (s : String) : Option Int := do
  let (d, rest) ← looseDate? s.toList
  let (nanos, rest) ← looseTime? (← expect? 'T' rest)
  if rest.isEmpty then some (moment d nanos 0) else none

/-- A date, a time and an offset, with all their digits. -/
def universalMoment? (s : String) : Option Int := do
  let (d, rest) ← fullDate? s.toList
  match rest with
  | c :: rest =>
    if c == 'T' || c == 't' || c == ' ' then
      let (nanos, rest) ← fullTime? rest
      let (offset, rest) ← offset? rest
      if rest.isEmpty then some (moment d nanos offset) else none
    else none
  | [] => none

end Calendar

end Schemata
