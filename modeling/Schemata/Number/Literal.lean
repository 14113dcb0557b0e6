import Schemata.Number.Floating

/-!
Decimal numerals as texts spell them, `digits · 10 ^ exponent`, and whether the nearest double is
finite.
-/
namespace Schemata

structure Literal where
  negative : Bool
  digits : Nat
  exponent : Int
  deriving DecidableEq, Repr

namespace Literal

def digitValue? (radix : Nat) (c : Char) : Option Nat :=
  let n :=
    if '0' ≤ c ∧ c ≤ '9' then c.toNat - 48
    else if 'a' ≤ c ∧ c ≤ 'z' then c.toNat - 87
    else if 'A' ≤ c ∧ c ≤ 'Z' then c.toNat - 55
    else radix
  if n < radix then some n else none

/-- The number that digits spell in a radix. There is one digit at least. -/
def natOfDigits? (radix : Nat) (s : List Char) : Option Nat :=
  if s.isEmpty then none
  else (s.mapM (digitValue? radix)).map (·.foldl (fun n d => n * radix + d) 0)

/-- A sign and the rest. -/
def sign (s : List Char) : Bool × List Char :=
  match s with
  | '-' :: rest => (true, rest)
  | '+' :: rest => (false, rest)
  | rest => (false, rest)

/-- The exponent behind the digits; nothing else may follow them. -/
def exponent? (s : List Char) : Option Int :=
  match s with
  | [] => some 0
  | c :: rest =>
    if c == 'e' || c == 'E' then
      let (negative, ds) := sign rest
      (natOfDigits? 10 ds).map fun n => if negative then -(n : Int) else n
    else none

/-- Reads a sign, digits around a point, of which one side may be missing, and an exponent. -/
def ofChars? (s : List Char) : Option Literal := do
  let (negative, s) := sign s
  let whole := s.takeWhile Char.isDigit
  let s := s.dropWhile Char.isDigit
  let (part, s) := match s with
    | '.' :: rest => (rest.takeWhile Char.isDigit, rest.dropWhile Char.isDigit)
    | rest => ([], rest)
  let digits ← natOfDigits? 10 (whole ++ part)
  let e ← exponent? s
  return ⟨negative, digits, e - part.length⟩

/-- Whether the numeral lies in the range of doubles. -/
def isFinite (x : Literal) : Bool :=
  let length : Int := (Nat.toDigits 10 x.digits).length
  if x.digits = 0 || length + x.exponent < 300 then true
  else if 310 < length + x.exponent then false
  else
    Floating.double.round false (x.digits * Nat.pow 10 x.exponent.toNat)
      (Nat.pow 10 (-x.exponent).toNat) != Floating.double.infinity

end Literal

end Schemata
