/-!
Hexadecimal digits, and the characters and bytes they spell.
-/
namespace Schemata.Hex

/-- The value of a digit of either case. -/
def value? (c : Char) : Option Nat :=
  if c.isDigit then some (c.toNat - 48)
  else if 'a' ≤ c ∧ c ≤ 'f' then some (c.toNat - 87)
  else if 'A' ≤ c ∧ c ≤ 'F' then some (c.toNat - 55)
  else none

def nat? (digits : List Char) : Option Nat :=
  (digits.mapM value?).map (·.foldl (fun n d => n * 16 + d) 0)

/-- The character with the code point that the digits spell. -/
def codePoint? (digits : List Char) : Option Char :=
  (nat? digits).bind fun n => if n.isValidChar then some (Char.ofNat n) else none

/-- The bytes that pairs of digits spell. -/
def bytes? : List Char → Option (List UInt8)
  | [] => some []
  | a :: b :: rest => do
    let a ← value? a
    let b ← value? b
    let bytes ← bytes? rest
    return UInt8.ofNat (a * 16 + b) :: bytes
  | [_] => none

/-- The lower case digit of a number below 16. -/
def digit (n : Nat) : Char := if n < 10 then Char.ofNat (48 + n) else Char.ofNat (87 + n)

/-- Two lower case digits for each byte. -/
def text (bytes : List UInt8) : List Char :=
  bytes.flatMap fun b => [digit (b.toNat / 16), digit (b.toNat % 16)]

end Schemata.Hex
