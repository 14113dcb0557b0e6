import Schemata.Text.Hex

/-!
The strings of TOML text: in double quotes with escapes or in single quotes without, on one line or,
in three quotes, on several. Each reader starts behind the opening quotes and gives the text and
what follows the closing ones. A line break in a string is one line feed.
-/
namespace Schemata.Toml

def isSpace (c : Char) : Bool := c == ' ' || c == '\t'

/-- Characters that may stand in strings and comments. -/
def isText (c : Char) : Bool := c == '\t' || (0x20 ≤ c.toNat && c.toNat != 0x7F)

namespace Strings

abbrev Result := Option (List Char × List Char)

/-- Puts a character in front of the text. -/
def put (c : Char) (r : Result) : Result := r.map fun (text, rest) => (c :: text, rest)

def simpleEscape? (c : Char) : Option Char :=
  match c with
  | 'b' => some (Char.ofNat 8)
  | 't' => some '\t'
  | 'n' => some '\n'
  | 'f' => some (Char.ofNat 12)
  | 'r' => some '\r'
  | '"' => some '"'
  | '\\' => some '\\'
  | _ => none

/-- Between double quotes. -/
def basic? : List Char → Result
  | [] => none
  | '"' :: rest => some ([], rest)
  | '\\' :: 'u' :: a :: b :: c :: d :: rest => do
    put (← Hex.codePoint? [a, b, c, d]) (basic? rest)
  | '\\' :: 'U' :: a :: b :: c :: d :: e :: f :: g :: h :: rest => do
    put (← Hex.codePoint? [a, b, c, d, e, f, g, h]) (basic? rest)
  | '\\' :: c :: rest => do put (← simpleEscape? c) (basic? rest)
  | c :: rest => if isText c && c != '\\' then put c (basic? rest) else none

/-- Between single quotes. -/
def literal? : List Char → Result
  | [] => none
  | '\'' :: rest => some ([], rest)
  | c :: rest => if isText c then put c (literal? rest) else none

/-- Whether the line ends behind blanks. -/
def endsLine (s : List Char) : Bool :=
  match s.dropWhile isSpace with
  | '\n' :: _ => true
  | '\r' :: '\n' :: _ => true
  | _ => false

/-- Between threefold double quotes. Up to two quotes in front of the closing ones belong to the
text. A backslash at the end of a line takes away all blanks and line breaks behind it; `skipping`
tells that they are being taken away. -/
def multiBasic? (skipping : Bool) : List Char → Result
  | [] => none
  | '"' :: '"' :: '"' :: '"' :: '"' :: rest => some (['"', '"'], rest)
  | '"' :: '"' :: '"' :: '"' :: rest => some (['"'], rest)
  | '"' :: '"' :: '"' :: rest => some ([], rest)
  | '\r' :: '\n' :: rest =>
    if skipping then multiBasic? true rest else put '\n' (multiBasic? false rest)
  | '\n' :: rest => if skipping then multiBasic? true rest else put '\n' (multiBasic? false rest)
  | '\\' :: 'u' :: a :: b :: c :: d :: rest => do
    put (← Hex.codePoint? [a, b, c, d]) (multiBasic? false rest)
  | '\\' :: 'U' :: a :: b :: c :: d :: e :: f :: g :: h :: rest => do
    put (← Hex.codePoint? [a, b, c, d, e, f, g, h]) (multiBasic? false rest)
  | '\\' :: c :: rest =>
    if endsLine (c :: rest) then multiBasic? true (c :: rest)
    else do put (← simpleEscape? c) (multiBasic? false rest)
  | c :: rest =>
    if skipping && isSpace c then multiBasic? true rest
    else if isText c && c != '\\' then put c (multiBasic? false rest)
    else none

/-- Between threefold single quotes. -/
def multiLiteral? : List Char → Result
  | [] => none
  | '\'' :: '\'' :: '\'' :: '\'' :: '\'' :: rest => some (['\'', '\''], rest)
  | '\'' :: '\'' :: '\'' :: '\'' :: rest => some (['\''], rest)
  | '\'' :: '\'' :: '\'' :: rest => some ([], rest)
  | '\r' :: '\n' :: rest => put '\n' (multiLiteral? rest)
  | '\n' :: rest => put '\n' (multiLiteral? rest)
  | c :: rest => if isText c then put c (multiLiteral? rest) else none

/-- A line break directly behind threefold quotes does not count. -/
def dropBreak : List Char → List Char
  | '\n' :: rest => rest
  | '\r' :: '\n' :: rest => rest
  | rest => rest

/-- A string on one line, at its quote. -/
def line? : List Char → Result
  | '"' :: rest => basic? rest
  | '\'' :: rest => literal? rest
  | _ => none

/-- Any string, at its quote. -/
def any? : List Char → Result
  | '"' :: '"' :: '"' :: rest => multiBasic? false (dropBreak rest)
  | '\'' :: '\'' :: '\'' :: rest => multiLiteral? (dropBreak rest)
  | rest => line? rest

end Strings

end Schemata.Toml
