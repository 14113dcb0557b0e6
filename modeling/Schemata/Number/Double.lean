import Schemata.Number.Floating

/-!
Double precision numbers, their sums of powers of ten, and their decimal text: the fewest digits
that read back as the same number, and of those the nearest to it.
-/
namespace Schemata

open Floating

structure Double where
  bits : UInt64
  deriving DecidableEq, Repr

namespace Double

def ofPattern (n : Nat) : Double := ⟨UInt64.ofNat n⟩

def value (x : Double) : Value := double.value x.bits.toNat

def ofValue (v : Value) : Double := ofPattern (double.ofValue v)

/-- The double nearest to an integer. -/
def ofInt (n : Int) : Double := ofPattern (double.round (decide (n < 0)) n.natAbs 1)

def isFinite (x : Double) : Bool :=
  match x.value with
  | .finite .. => true
  | _ => false

/-- Product of two finite doubles, rounded. -/
def mul (x y : Double) : Double :=
  match x.value, y.value with
  | .finite s m e, .finite t n f => ofPattern (double.roundScaled (s != t) (m * n) (e + f))
  | _, _ => ofValue .nan

/-- Quotient of two finite doubles, rounded. -/
def div (x y : Double) : Double :=
  match x.value, y.value with
  | .finite s m e, .finite t n f =>
    let k := e - f
    if 0 ≤ k then ofPattern (double.round (s != t) (m * Nat.pow 2 k.toNat) n)
    else ofPattern (double.round (s != t) m (n * Nat.pow 2 (-k).toNat))
  | _, _ => ofValue .nan

/-- A decimal `digits · 10 ^ exponent`. -/
structure Decimal where
  digits : Nat
  exponent : Int
  deriving DecidableEq, Repr

/-- Moves zeros at the end of the digits into the exponent. -/
def Decimal.trimZeros (fuel : Nat) (d : Decimal) : Decimal :=
  match fuel with
  | 0 => d
  | fuel + 1 =>
    if d.digits ≠ 0 ∧ d.digits % 10 = 0 then trimZeros fuel ⟨d.digits / 10, d.exponent + 1⟩ else d

/-- The reals that round to `m · 2 ^ e`, in units of `2 ^ (e - 2)`. The gap below a power of two is
half the gap above it. -/
structure Neighbourhood where
  low : Nat
  centre : Nat
  high : Nat
  exponent : Int
  /-- Ends belong to it when the significand is even. -/
  closed : Bool

def neighbourhood (m : Nat) (e : Int) : Neighbourhood :=
  let low := if m = Nat.pow 2 double.fraction ∧ double.minExponent < e then 4 * m - 1 else 4 * m - 2
  ⟨low, 4 * m, 4 * m + 2, e - 2, m % 2 == 0⟩

/-- Both numbers as integers over one denominator: `a · 2 ^ e` and `x · 10 ^ k`. -/
def commonScale (a : Nat) (e : Int) (x : Nat) (k : Int) : Nat × Nat :=
  (a * Nat.pow 2 e.toNat * Nat.pow 10 (-k).toNat, x * Nat.pow 10 k.toNat * Nat.pow 2 (-e).toNat)

def Neighbourhood.contains (b : Neighbourhood) (d : Decimal) : Bool :=
  let (l, x) := commonScale b.low b.exponent d.digits d.exponent
  let (h, y) := commonScale b.high b.exponent d.digits d.exponent
  if b.closed then l ≤ x && y ≤ h else l < x && y < h

/-- The distance from the centre, comparable between decimals of one exponent. -/
def Neighbourhood.distance (b : Neighbourhood) (d : Decimal) : Nat :=
  let (c, x) := commonScale b.centre b.exponent d.digits d.exponent
  if c ≤ x then x - c else c - x

/-- The nearest decimal of exponent `k` that reads back, if there is one. -/
def Neighbourhood.atExponent? (b : Neighbourhood) (k : Int) : Option Decimal :=
  let (c, unit) := commonScale b.centre b.exponent 1 k
  let below : Decimal := ⟨c / unit, k⟩
  let above : Decimal := ⟨c / unit + 1, k⟩
  match b.contains below, b.contains above with
  | true, true =>
    let p := b.distance below
    let q := b.distance above
    if p < q then some below else if q < p then some above
    else if below.digits % 2 = 0 then some below else some above
  | true, false => some below
  | false, true => some above
  | false, false => none

/-- The decimal exponent of the leading digit of `m · 2 ^ e`, for `0 < m`. -/
def leadingExponent (m : Nat) (e : Int) : Int :=
  let (n, d) := commonScale m e 1 (-350)
  ((Nat.toDigits 10 (n / d)).length : Int) - 351

/-- The shortest decimal that reads back as `m · 2 ^ e`, for `0 < m`. -/
def shortest (m : Nat) (e : Int) : Decimal :=
  let b := neighbourhood m e
  let top := leadingExponent m e
  let found := (List.range 17).findSome? fun (n : Nat) => b.atExponent? (top - (n : Int))
  (found.getD ⟨m, 0⟩).trimZeros 20

/-- A decimal written positionally while its point lies between the sixth place before the digits
and the sixteenth after their beginning, and with an exponent otherwise. -/
def Decimal.render (d : Decimal) : String :=
  let digits := Nat.repr d.digits
  let length : Int := digits.length
  let point := length + d.exponent
  let zeros (n : Int) : String := String.ofList (List.replicate n.toNat '0')
  let cut (n : Int) : String × String :=
    (String.ofList (digits.toList.take n.toNat), String.ofList (digits.toList.drop n.toNat))
  if 0 ≤ d.exponent ∧ point ≤ 16 then digits ++ zeros d.exponent ++ ".0"
  else if 0 < point ∧ point ≤ 16 then
    let (whole, part) := cut point
    whole ++ "." ++ part
  else if -5 < point ∧ point ≤ 0 then "0." ++ zeros (-point) ++ digits
  else
    let (first, rest) := cut 1
    let mantissa := if rest.isEmpty then first else first ++ "." ++ rest
    mantissa ++ "e" ++ toString (point - 1)

/-- The text of a finite double; none for infinities and nans. -/
def render? (x : Double) : Option String :=
  match x.value with
  | .finite negative m e =>
    let text := if m = 0 then "0.0" else (shortest m e).render
    some (if negative then "-" ++ text else text)
  | _ => none

end Double

end Schemata
