import Schemata.Number.Literal

/-!
Small steps over characters: a step gives what it has read and what follows.
-/
namespace Schemata.Scan

/-- Passes over one given character. -/
def expect? (c : Char) : List Char → Option (List Char)
  | d :: rest => if c = d then some rest else none
  | [] => none

/-- As many digits as there are, up to `most`; at least `least`. -/
def number? (least most : Nat) (s : List Char) : Option (Nat × List Char) :=
  let digits := (s.take most).takeWhile Char.isDigit
  if digits.length < least then none
  else (Literal.natOfDigits? 10 digits).map fun n => (n, s.drop digits.length)

/-- The parts of a text between the separators; `part` is what the first has so far. -/
def splitAt (separator : Char) (part : List Char) : List Char → List (List Char)
  | [] => [part]
  | c :: rest =>
    if c = separator then part :: splitAt separator [] rest
    else splitAt separator (part ++ [c]) rest

end Schemata.Scan
