import Schemata.Toml.Value
import Schemata.Calendar

/-!
TOML values without quotes or brackets: truth values, numbers, dates and times. A word is read as a
whole, since nothing may follow a value directly that could be part of it.
-/
namespace Schemata.Toml.Plain

/-! ### Numbers -/

/-- Digits with single underscores between them, behind a digit. -/
def moreDigits (isDigit : Char → Bool) : List Char → List Char × List Char
  | '_' :: c :: rest =>
    if isDigit c then
      let (ds, rest) := moreDigits isDigit rest
      (c :: ds, rest)
    else ([], '_' :: c :: rest)
  | c :: rest =>
    if isDigit c then
      let (ds, rest) := moreDigits isDigit rest
      (c :: ds, rest)
    else ([], c :: rest)
  | [] => ([], [])

def digits? (isDigit : Char → Bool) (s : List Char) : Option (List Char × List Char) :=
  match s with
  | c :: rest =>
    if isDigit c then
      let (ds, rest) := moreDigits isDigit rest
      some (c :: ds, rest)
    else none
  | [] => none

def fits (n : Int) : Bool := decide (-Nat.pow 2 63 ≤ n) && decide (n < Nat.pow 2 63)

/-- Digits of a radix to the end of the word. -/
def radix? (radix : Nat) (s : List Char) : Option Value := do
  let (ds, rest) ← digits? (fun c => (Literal.digitValue? radix c).isSome) s
  let n ← Literal.natOfDigits? radix ds
  if rest.isEmpty && fits n then some (.integer n) else none

/-- The digits behind a point, if there is one. -/
def fraction? (s : List Char) : Option (List Char × List Char) :=
  match s with
  | '.' :: rest => do
    let (ds, rest) ← digits? Char.isDigit rest
    return ('.' :: ds, rest)
  | rest => some ([], rest)

/-- An exponent to the end of the word, if there is one. -/
def exponent? (s : List Char) : Option (List Char) :=
  match s with
  | [] => some []
  | c :: rest =>
    if c == 'e' || c == 'E' then do
      let (negative, rest) := Literal.sign rest
      let (ds, rest) ← digits? Char.isDigit rest
      if rest.isEmpty then some ((if negative then ['e', '-'] else ['e']) ++ ds) else none
    else none

/-- A decimal number behind its sign. Zero in front of other digits is an error, and so is a
positive number beyond the range of doubles. -/
def decimal? (negative : Bool) (s : List Char) : Option Value := do
  let (ds, rest) ← digits? Char.isDigit s
  if ds.head? == some '0' && 1 < ds.length then none
  if rest.isEmpty then
    let n ← Literal.natOfDigits? 10 ds
    let n : Int := if negative then -n else n
    if fits n then some (.integer n) else none
  else
    let (part, rest) ← fraction? rest
    let e ← exponent? rest
    let x ← Literal.ofChars? (ds ++ part ++ e)
    if negative || x.isFinite then some .float else none

def number? (s : List Char) : Option Value :=
  match s with
  | '0' :: 'x' :: rest => radix? 16 rest
  | '0' :: 'o' :: rest => radix? 8 rest
  | '0' :: 'b' :: rest => radix? 2 rest
  | s => decimal? (Literal.sign s).1 (Literal.sign s).2

/-! ### Dates and times -/

/-- A number of exactly `count` digits. -/
def fixed? (count : Nat) (s : List Char) : Option (Nat × List Char) := Scan.number? count count s

/-- Passes over a date. -/
def date? (s : List Char) : Option (List Char) := do
  let (year, s) ← fixed? 4 s
  let s ← Scan.expect? '-' s
  let (month, s) ← fixed? 2 s
  let s ← Scan.expect? '-' s
  let (day, s) ← fixed? 2 s
  if (Date.mk year month day).isValid then some s else none

/-- Passes over a time. A minute may have a sixty-first second. -/
def time? (s : List Char) : Option (List Char) := do
  let (hour, s) ← fixed? 2 s
  let s ← Scan.expect? ':' s
  let (minute, s) ← fixed? 2 s
  let s ← Scan.expect? ':' s
  let (second, s) ← fixed? 2 s
  if 23 < hour || 59 < minute || 60 < second then none
  match s with
  | '.' :: s => if (s.takeWhile Char.isDigit).isEmpty then none else some (s.dropWhile Char.isDigit)
  | s => some s

/-- Passes over the distance from universal time, if there is one. -/
def offset? (s : List Char) : Option (List Char) :=
  match s with
  | c :: rest =>
    if c == 'Z' || c == 'z' then some rest
    else if c == '+' || c == '-' then do
      let (hour, s) ← fixed? 2 rest
      let s ← Scan.expect? ':' s
      let (minute, s) ← fixed? 2 s
      if 23 < hour || 59 < minute then none else some s
    else some (c :: rest)
  | [] => some []

/-- A date, a date with a time, or a time. -/
def isDate (s : List Char) : Bool :=
  match date? s with
  | some [] => true
  | some (c :: rest) =>
    (c == 'T' || c == 't' || c == ' ') && ((time? rest).bind offset?).any (·.isEmpty)
  | none => (time? s).any (·.isEmpty)

/-! ### Words -/

def isWordCharacter (c : Char) : Bool := c.isAlphanum || "+-_.:".toList.contains c

/-- A word; a date with a blank and a time behind it is one word. -/
def word (s : List Char) : List Char × List Char :=
  let first := s.takeWhile isWordCharacter
  match s.dropWhile isWordCharacter with
  | ' ' :: c :: rest =>
    if c.isDigit && (date? first).any (·.isEmpty) then
      (first ++ ' ' :: (c :: rest).takeWhile isWordCharacter, (c :: rest).dropWhile isWordCharacter)
    else (first, ' ' :: c :: rest)
  | rest => (first, rest)

def special : List String := ["inf", "+inf", "-inf", "nan", "+nan", "-nan"]

def value? (s : List Char) : Option Value :=
  let text := String.ofList s
  if text = "true" then some (.bool true)
  else if text = "false" then some (.bool false)
  else if special.contains text then some .float
  else if isDate s then some .date
  else number? s

end Schemata.Toml.Plain
