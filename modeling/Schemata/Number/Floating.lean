/-!
Binary floating point in exact arithmetic. A bit pattern stands for `± m · 2^e`, an infinity or no
number; a ratio of natural numbers is rounded to the nearest pattern, a tie to the even one. Nothing
here depends on the machine's own arithmetic, so every result can be computed in a proof.
-/
namespace Schemata.Floating

/-- An interchange format with `fraction` bits below the leading one and `exponent` bits. -/
structure Format where
  fraction : Nat
  exponent : Nat
  deriving DecidableEq, Repr

def double : Format := ⟨52, 11⟩
def single : Format := ⟨23, 8⟩

/-- What a bit pattern stands for. -/
inductive Value where
  /-- `± significand · 2 ^ exponent` -/
  | finite (negative : Bool) (significand : Nat) (exponent : Int)
  | infinite (negative : Bool)
  | nan
  deriving DecidableEq, Repr

namespace Format

/-- The exponent of the least bit of all subnormal numbers. -/
def minExponent (f : Format) : Int := 2 - Nat.pow 2 (f.exponent - 1) - f.fraction

/-- The magnitude of infinity; finite magnitudes lie below it, nans above it. -/
def infinity (f : Format) : Nat := (Nat.pow 2 f.exponent - 1) * Nat.pow 2 f.fraction

def signPlace (f : Format) : Nat := Nat.pow 2 (f.fraction + f.exponent)

def pack (f : Format) (negative : Bool) (magnitude : Nat) : Nat :=
  if negative then f.signPlace + magnitude else magnitude

def value (f : Format) (bits : Nat) : Value :=
  let negative := decide (f.signPlace ≤ bits % (2 * f.signPlace))
  let magnitude := bits % f.signPlace
  let field := magnitude / Nat.pow 2 f.fraction
  let low := magnitude % Nat.pow 2 f.fraction
  if f.infinity < magnitude then .nan
  else if magnitude = f.infinity then .infinite negative
  else if field = 0 then .finite negative low f.minExponent
  else .finite negative (Nat.pow 2 f.fraction + low) (f.minExponent + field - 1)

/-- `num / den` with both multiplied by a power of two so that the quotient counts units of
`2 ^ e`. -/
def inUnits (num den : Nat) (e : Int) : Nat × Nat :=
  if 0 ≤ e then (num, den * Nat.pow 2 e.toNat) else (num * Nat.pow 2 (-e).toNat, den)

/-- The exponent at which the leading bit of `num / den` falls on the place above the fraction. -/
def scaleOf (f : Format) (num den : Nat) : Int :=
  let e : Int := (num.log2 : Int) - den.log2 - f.fraction
  let (n, d) := inUnits num den e
  let e := if n < d * Nat.pow 2 f.fraction then e - 1 else e
  if e < f.minExponent then f.minExponent else e

/-- The quotient rounded to the nearest integer, a tie to the even one. -/
def roundDiv (num den : Nat) : Nat :=
  let q := num / den
  let r := num % den
  if 2 * r < den then q else if den < 2 * r then q + 1 else if q % 2 = 0 then q else q + 1

/-- The pattern nearest to `± num / den`. A magnitude beyond the largest finite one is infinite. -/
def round (f : Format) (negative : Bool) (num den : Nat) : Nat :=
  if num = 0 then f.pack negative 0
  else
    let e := f.scaleOf num den
    let (n, d) := inUnits num den e
    let magnitude := (e - f.minExponent).toNat * Nat.pow 2 f.fraction + roundDiv n d
    f.pack negative (min magnitude f.infinity)

/-- The pattern nearest to `± significand · 2 ^ exponent`. -/
def roundScaled (f : Format) (negative : Bool) (significand : Nat) (exponent : Int) : Nat :=
  if 0 ≤ exponent then f.round negative (significand * Nat.pow 2 exponent.toNat) 1
  else f.round negative significand (Nat.pow 2 (-exponent).toNat)

/-- The pattern of `f` nearest to the value of a pattern of another format. -/
def ofValue (f : Format) : Value → Nat
  | .finite negative m e => f.roundScaled negative m e
  | .infinite negative => f.pack negative f.infinity
  | .nan => f.infinity + Nat.pow 2 (f.fraction - 1)

end Format

end Schemata.Floating
