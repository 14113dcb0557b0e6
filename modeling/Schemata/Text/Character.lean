import Schemata.Text.CaseData

/-!
Character classes and case mappings. ASCII characters are settled by rule; all others are looked
up in the run tables. A case mapping may give several characters (`ß` becomes `SS`), so mappings
return lists.
-/
namespace Schemata.Text

def isAscii (c : Char) : Bool := c.val < 128

/-- A letter or a number in the sense of Unicode. -/
def isAlphanumeric (c : Char) : Bool :=
  if isAscii c then c.isAlphanum else alphanumericRuns.any (·.contains c.toNat)

def isLowercase (c : Char) : Bool :=
  if isAscii c then c.isLower else lowercaseRuns.any (·.contains c.toNat)

def isUppercase (c : Char) : Bool :=
  if isAscii c then c.isUpper else uppercaseRuns.any (·.contains c.toNat)

/-- White space in the sense of Unicode. -/
def isBlank (c : Char) : Bool :=
  let n := c.toNat
  (9 ≤ n && n ≤ 13) || n == 0x20 || n == 0x85 || n == 0xA0 || n == 0x1680 ||
    (0x2000 ≤ n && n ≤ 0x200A) || n == 0x2028 || n == 0x2029 || n == 0x202F ||
    n == 0x205F || n == 0x3000

/-- The full lower case of one character. Only `İ` gives two characters. -/
def lowercase (c : Char) : List Char :=
  if isAscii c then [c.toLower]
  else if c.toNat = 0x130 then ['i', Char.ofNat 0x307]
  else match toLowerShifts.findSome? (·.moved? c.toNat) with
    | some n => [Char.ofNat n]
    | none => [c]

/-- The full upper case of one character, at most three characters. -/
def uppercase (c : Char) : List Char :=
  if isAscii c then [c.toUpper]
  else match toUpperExpansions.lookup c.toNat with
    | some ns => ns.map Char.ofNat
    | none => match toUpperShifts.findSome? (·.moved? c.toNat) with
      | some n => [Char.ofNat n]
      | none => [c]

theorem lowercase_of_isAscii {c : Char} (h : isAscii c) : lowercase c = [c.toLower] := by
  simp [lowercase, h]

theorem uppercase_of_isAscii {c : Char} (h : isAscii c) : uppercase c = [c.toUpper] := by
  simp [uppercase, h]

/-- The text without the white space at its ends. -/
def trim (s : String) : String :=
  let front := s.toList.dropWhile isBlank
  String.ofList (front.reverse.dropWhile isBlank).reverse

/-- The first character in upper case, all others as they are. -/
def capitalize (s : String) : String :=
  match s.toList with
  | [] => ""
  | c :: rest => String.ofList (uppercase c ++ rest)

end Schemata.Text
