import Schemata.Yaml.Resolution

/-!
Trees as YAML text in block style. Lists stand at the indentation of the key in front of them. A
string is plain if that reads back as the same string, a literal block if it holds line feeds, and
quoted otherwise; double quotes are for what cannot stand in the text as it is.
-/
namespace Schemata.Yaml

namespace Printer

/-! ### What a string holds -/

/-- Whether the character can be written as it is. -/
def isPrintable (c : Char) : Bool :=
  let n := c.toNat
  n == 0x0A || (0x20 ≤ n && n ≤ 0x7E) || (0xA0 ≤ n && n ≤ 0xFFFD && n != 0xFEFF)

def isGap (c : Char) : Bool := isBlank c || isBreak c || c.toNat == 0

/-- Whether a character satisfying `p` stands directly in front of one satisfying `q`. -/
def hasPair (p q : Char → Bool) : List Char → Bool
  | c :: d :: rest => (p c && q d) || hasPair p q (d :: rest)
  | _ => false

def beginsWith (p : Char → Bool) (s : List Char) : Bool := s.head?.any p

def endsWith (p : Char → Bool) (s : List Char) : Bool := s.getLast?.any p

def isSpace (c : Char) : Bool := c == ' '

/-- Whether the text has a meaning beyond itself outside quotes. -/
def hasIndicator (s : List Char) : Bool :=
  ['-', '-', '-'].isPrefixOf s || ['.', '.', '.'].isPrefixOf s ||
    beginsWith ("#,[]\x7b\x7d&*!|>'\"%@\x60".toList.contains ·) s ||
    (beginsWith (fun c => c == '-' || c == '?') s && (s.drop 1).head?.all isGap) ||
    endsWith (· == ':') s || hasPair (· == ':') isGap s || hasPair isGap (· == '#') s

/-- A space in front of a line break would be lost. -/
def hidesSpace (s : List Char) : Bool := hasPair isSpace isBreak s

def allowsPlain (s : List Char) : Bool :=
  s.all isPrintable && !s.any isBreak && !hasIndicator s && !beginsWith isSpace s &&
    !endsWith isSpace s

def allowsSingle (s : List Char) : Bool :=
  s.all isPrintable && !hidesSpace s && !hasPair isBreak isSpace s

def allowsLiteral (s : List Char) : Bool :=
  s.all isPrintable && !hidesSpace s && !endsWith isSpace s

def style (s : List Char) : Style :=
  if s.contains '\n' then if allowsLiteral s then .literal else .double
  else
    let text := String.ofList s
    if plainAtom? text = some (.text text) && !isZeroPadded s && allowsPlain s then .plain
    else if allowsSingle s then .single
    else .double

/-! ### Strings -/

def pad (indent : Nat) : List Char := List.replicate indent ' '

/-- The text between single quotes; a line that begins inside of them is indented. -/
def singleText (indent : Nat) (lineStart : Bool) : List Char → List Char
  | [] => if lineStart then pad indent else []
  | c :: rest =>
    if isBreak c then c :: singleText indent true rest
    else
      (if lineStart then pad indent else []) ++ (if c == '\'' then [c, c] else [c]) ++
        singleText indent false rest

def hexDigit (n : Nat) : Char := if n < 10 then Char.ofNat (48 + n) else Char.ofNat (55 + n)

/-- The last `width` digits of a number in radix 16. -/
def hexText (width n : Nat) : List Char :=
  (List.range width).reverse.map fun k => hexDigit (n / Nat.pow 16 k % 16)

def escapeText (c : Char) : List Char :=
  match c.toNat with
  | 0x00 => ['\\', '0']
  | 0x07 => ['\\', 'a']
  | 0x08 => ['\\', 'b']
  | 0x09 => ['\\', 't']
  | 0x0A => ['\\', 'n']
  | 0x0B => ['\\', 'v']
  | 0x0C => ['\\', 'f']
  | 0x0D => ['\\', 'r']
  | 0x1B => ['\\', 'e']
  | 0x22 => ['\\', '"']
  | 0x5C => ['\\', '\\']
  | 0x85 => ['\\', 'N']
  | 0x2028 => ['\\', 'L']
  | 0x2029 => ['\\', 'P']
  | n =>
    if n ≤ 0xFF then '\\' :: 'x' :: hexText 2 n
    else if n ≤ 0xFFFF then '\\' :: 'u' :: hexText 4 n
    else '\\' :: 'U' :: hexText 8 n

/-- The text between double quotes. -/
def doubleText (s : List Char) : List Char :=
  s.flatMap fun c =>
    if !isPrintable c || isBreak c || c == '"' || c == '\\' then escapeText c else [c]

/-- The lines of a literal block. Empty lines have no indentation. -/
def literalLines (indent : Nat) (lineStart : Bool) : List Char → List Char
  | [] => []
  | c :: rest =>
    if isBreak c then c :: literalLines indent true rest
    else (if lineStart then pad indent else []) ++ c :: literalLines indent false rest

/-- The step of indentation. -/
def indentStep : Nat := 2

/-- What stands behind `|`: the indentation step where the text begins with a blank or an empty line
and would not show it, `-` where it does not end in a line break, and `+` where it ends in an empty
line. -/
def literalHints (s : List Char) : List Char :=
  let step := if beginsWith (fun c => isSpace c || isBreak c) s then [hexDigit indentStep] else []
  let chomping :=
    match s.reverse with
    | [] => ['-']
    | [c] => if isBreak c then ['+'] else ['-']
    | c :: d :: _ => if !isBreak c then ['-'] else if isBreak d then ['+'] else []
  step ++ chomping

/-- A string to the end of its line. -/
def string (indent : Nat) (s : List Char) : List Char :=
  match style s with
  | .plain => s ++ ['\n']
  | .single => '\'' :: singleText indent false s ++ ['\'', '\n']
  | .double => '"' :: doubleText s ++ ['"', '\n']
  | _ =>
    '|' :: literalHints s ++ '\n' :: literalLines indent true s ++
      (if endsWith isBreak s then [] else ['\n'])

/-! ### Trees -/

def atom (indent : Nat) : Atom → List Char
  | .text s => string indent s.toList
  | .bool b => (if b then "true\n" else "false\n").toList
  | .nat n => (Nat.repr n).toList ++ ['\n']
  | _ => "null\n".toList

def join (between : List Char) (parts : List (List Char)) : List Char :=
  (parts.intersperse between).flatten

mutual

/-- What stands behind `- ` in a list at the indentation, up to the end of its last line. -/
def item (indent : Nat) : Tree → List Char
  | .scalar s => atom (indent + indentStep) (s.atom.getD .null)
  | .list [] => ['[', ']', '\n']
  | .list (t :: ts) => join (pad (indent + indentStep)) (items (indent + indentStep) (t :: ts))
  | .map _ [] => ['\x7b', '\x7d', '\n']
  | .map _ (e :: es) => join (pad (indent + indentStep)) (entries (indent + indentStep) (e :: es))
  | .labelled t => item indent t

def items (indent : Nat) : List Tree → List (List Char)
  | [] => []
  | t :: rest => ('-' :: ' ' :: item indent t) :: items indent rest

/-- What stands behind the colon of a key at the indentation. -/
def value (indent : Nat) : Tree → List Char
  | .scalar s => ' ' :: atom (indent + indentStep) (s.atom.getD .null)
  | .list [] => [' ', '[', ']', '\n']
  | .list (t :: ts) => '\n' :: pad indent ++ join (pad indent) (items indent (t :: ts))
  | .map _ [] => [' ', '\x7b', '\x7d', '\n']
  | .map _ (e :: es) =>
    '\n' :: pad (indent + indentStep) ++
      join (pad (indent + indentStep)) (entries (indent + indentStep) (e :: es))
  | .labelled t => value indent t

def entries (indent : Nat) : List (Tree × Tree) → List (List Char)
  | [] => []
  | (key, t) :: rest =>
    ((key.text?.getD "").toList ++ ':' :: value indent t) :: entries indent rest

end

end Printer

/-- The text of a record. -/
def render : Tree → String
  | .map _ (e :: es) => String.ofList (Printer.join [] (Printer.entries 0 (e :: es)))
  | t => String.ofList (Printer.item 0 t)

end Schemata.Yaml
