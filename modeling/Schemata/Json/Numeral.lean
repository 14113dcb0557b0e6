import Schemata.Json.Value

/-!
The value of a JSON numeral. Digits are gathered into a significand of 64 bits; what no longer fits
only moves the decimal point. A significand with a decimal exponent becomes a double by one rounded
multiplication or division by a power of ten, which is exact for all short numerals and may miss the
nearest double by one place for long ones.
-/
namespace Schemata.Json

/-- A numeral in parts; digits are numbers below ten. -/
structure Numeral where
  negative : Bool
  whole : List Nat
  fraction : Option (List Nat)
  /-- Sign and digits of the exponent. -/
  exponent : Option (Bool × List Nat)
  deriving DecidableEq, Repr

namespace Numeral

/-- Appends digits to a significand while it fits 64 bits, and gives the digits left over. -/
def gather (acc : Nat) : List Nat → Nat × List Nat
  | [] => (acc, [])
  | d :: rest =>
    if acc * 10 + d < Nat.pow 2 64 then gather (acc * 10 + d) rest else (acc, d :: rest)

/-- Powers of ten above this one are applied in steps. -/
def greatestPower : Nat := 308

/-- `significand · 10 ^ exponent`, none if it is too large for a double. -/
def scale (steps : Nat) (significand : Double) (exponent : Int) : Option Double :=
  let power (n : Nat) : Double := Double.ofInt (Nat.pow 10 n)
  if exponent.natAbs ≤ greatestPower then
    if 0 ≤ exponent then
      let x := significand.mul (power exponent.toNat)
      if x.isFinite then some x else none
    else some (significand.div (power exponent.natAbs))
  else if significand = .ofInt 0 then some significand
  else if 0 ≤ exponent then none
  else match steps with
    | 0 => some (.ofInt 0)
    | steps + 1 => scale steps (significand.div (power greatestPower)) (exponent + greatestPower)

def signed (negative : Bool) (x : Double) : Double :=
  if negative then ⟨x.bits + 0x8000000000000000⟩ else x

def exponentLimit : Nat := Nat.pow 2 31

def natOfDigits (ds : List Nat) : Nat := ds.foldl (fun n d => n * 10 + d) 0

/-- None for a numeral beyond the range of doubles. -/
def value? (n : Numeral) : Option Json :=
  let (whole, rest) := gather 0 n.whole
  if rest.isEmpty && n.fraction.isNone && n.exponent.isNone then
    if !n.negative then some (.int whole)
    else if whole = 0 ∨ Nat.pow 2 63 < whole then some (.float (signed true (.ofInt whole)))
    else some (.int (-whole))
  else
    let digits := n.fraction.getD []
    let (significand, left) := gather whole digits
    let point : Int := (rest.length : Int) - (digits.length - left.length)
    let scaled (e : Int) : Option Json :=
      (scale 3 (.ofInt significand) e).map fun x => .float (signed n.negative x)
    match n.exponent with
    | none => scaled point
    | some (negative, ds) =>
      let e := natOfDigits ds
      if exponentLimit ≤ e then
        if significand ≠ 0 ∧ !negative then none
        else some (.float (signed n.negative (.ofInt 0)))
      else scaled (if negative then point - e else point + e)

end Numeral

end Schemata.Json
