import Schemata.Text.Hex

/-!
UUIDs as text. They are written in groups of 8, 4, 4, 4 and 12 digits and read in that form, in
braces, behind `urn:uuid:`, or without hyphens.
-/
namespace Schemata.Uuid

/-- The digits of the hyphenated form. -/
def hyphenated? (s : List Char) : Option (List Char) :=
  if s.length = 36 && [8, 13, 18, 23].all (s[·]? == some '-') then
    some (s.take 8 ++ (s.drop 9).take 4 ++ (s.drop 14).take 4 ++ (s.drop 19).take 4 ++ s.drop 24)
  else none

def digits? (s : List Char) : Option (List Char) :=
  let urn := "urn:uuid:".toList
  if s.length = 32 then some s
  else if urn.isPrefixOf s then hyphenated? (s.drop urn.length)
  else
    match s with
    | '\x7b' :: rest => if rest.getLast? = some '\x7d' then hyphenated? rest.dropLast else none
    | s => hyphenated? s

/-- The sixteen bytes that a text names. -/
def parse? (s : String) : Option (List UInt8) := (digits? s.toList).bind Hex.bytes?

def render (bytes : List UInt8) : String :=
  let s := Hex.text bytes
  String.ofList (s.take 8 ++ '-' :: (s.drop 8).take 4 ++ '-' :: (s.drop 12).take 4 ++
    '-' :: (s.drop 16).take 4 ++ '-' :: s.drop 20)

end Schemata.Uuid
