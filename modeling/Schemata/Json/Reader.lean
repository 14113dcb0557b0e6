import Schemata.Json.Numeral
import Schemata.Text.Hex

/-!
JSON text. Reading gives the text's structure first: a `Node` holds numerals in parts, and no string
where escapes stand for no character. Values are taken from nodes, so that a document may contain
numerals and strings without a value as long as nobody asks for them.
-/
namespace Schemata.Json

inductive Node where
  | null
  | bool (b : Bool)
  | number (n : Numeral)
  | string (s : Option String)
  | array (items : List Node)
  | object (members : List (Option String × Node))
  deriving Inhabited

namespace Node

def isSpace (c : Char) : Bool := c == ' ' || c == '\n' || c == '\r' || c == '\t'

def skipSpace (s : List Char) : List Char := s.dropWhile isSpace

def digitValue (c : Char) : Nat := c.toNat - 48

def digits (s : List Char) : List Nat × List Char :=
  ((s.takeWhile Char.isDigit).map digitValue, s.dropWhile Char.isDigit)

/-- At least one digit. -/
def digits1? (s : List Char) : Option (List Nat × List Char) :=
  match digits s with
  | ([], _) => none
  | r => some r

def fraction? : List Char → Option (Option (List Nat) × List Char)
  | '.' :: s => (digits1? s).map fun (ds, rest) => (some ds, rest)
  | s => some (none, s)

def exponent? : List Char → Option (Option (Bool × List Nat) × List Char)
  | c :: s =>
    if c = 'e' ∨ c = 'E' then
      let (negative, s) := match s with
        | '+' :: s => (false, s)
        | '-' :: s => (true, s)
        | s => (false, s)
      (digits1? s).map fun (ds, rest) => (some (negative, ds), rest)
    else some (none, c :: s)
  | [] => some (none, [])

/-- A numeral; a zero in front stands alone. -/
def numeral? (s : List Char) : Option (Numeral × List Char) := do
  let (negative, s) := match s with
    | '-' :: s => (true, s)
    | s => (false, s)
  let (whole, s) ← digits1? s
  if whole.head? = some 0 ∧ 1 < whole.length then none
  let (fraction, s) ← fraction? s
  let (exponent, s) ← exponent? s
  return (⟨negative, whole, fraction, exponent⟩, s)

def isHighSurrogate (n : Nat) : Bool := 0xD800 ≤ n && n < 0xDC00
def isLowSurrogate (n : Nat) : Bool := 0xDC00 ≤ n && n < 0xE000

/-- A UTF-16 unit as an escape names it. -/
inductive Piece where
  | char (c : Char)
  | unit (n : Nat)
  deriving DecidableEq, Repr

def simpleEscape? (c : Char) : Option Char :=
  match c with
  | '"' => some '"'
  | '\\' => some '\\'
  | '/' => some '/'
  | 'b' => some (Char.ofNat 8)
  | 'f' => some (Char.ofNat 12)
  | 'n' => some '\n'
  | 'r' => some '\r'
  | 't' => some '\t'
  | _ => none

/-- The pieces of a string up to its closing quote. -/
def pieces? : List Char → Option (List Piece × List Char)
  | [] => none
  | '"' :: rest => some ([], rest)
  | '\\' :: 'u' :: a :: b :: c :: d :: rest => do
    let n ← Hex.nat? [a, b, c, d]
    let (ps, rest) ← pieces? rest
    return (.unit n :: ps, rest)
  | '\\' :: c :: rest => do
    let e ← simpleEscape? c
    let (ps, rest) ← pieces? rest
    return (.char e :: ps, rest)
  | c :: rest =>
    if c.toNat < 32 ∨ c = '\\' then none
    else do
      let (ps, rest) ← pieces? rest
      return (.char c :: ps, rest)

/-- Joins surrogate pairs. None if a surrogate stands alone. -/
def joinPieces? : List Piece → Option (List Char)
  | [] => some []
  | .char c :: rest => (joinPieces? rest).map (c :: ·)
  | .unit h :: .unit l :: rest =>
    if isHighSurrogate h then
      if isLowSurrogate l then
        (joinPieces? rest).map
          (Char.ofNat (0x10000 + (h - 0xD800) * 0x400 + (l - 0xDC00)) :: ·)
      else none
    else if isLowSurrogate h then none
    else (joinPieces? (.unit l :: rest)).map (Char.ofNat h :: ·)
  | .unit n :: rest =>
    if isHighSurrogate n || isLowSurrogate n then none
    else (joinPieces? rest).map (Char.ofNat n :: ·)

def stringRest? (s : List Char) : Option (Option String × List Char) :=
  (pieces? s).map fun (ps, rest) => ((joinPieces? ps).map String.ofList, rest)

def keyword? (word : List Char) (s : List Char) : Option (List Char) :=
  if word.isPrefixOf s then some (s.drop word.length) else none

mutual

/-- One value. `fuel` bounds the number of steps. -/
def value? (fuel : Nat) (s : List Char) : Option (Node × List Char) :=
  match fuel with
  | 0 => none
  | fuel + 1 =>
    match skipSpace s with
    | [] => none
    | '"' :: rest => (stringRest? rest).map fun (t, rest) => (.string t, rest)
    | '[' :: rest =>
      match skipSpace rest with
      | ']' :: rest => some (.array [], rest)
      | rest => (items? fuel rest).map fun (xs, rest) => (.array xs, rest)
    | '\x7b' :: rest =>
      match skipSpace rest with
      | '\x7d' :: rest => some (.object [], rest)
      | rest => (members? fuel rest).map fun (ms, rest) => (.object ms, rest)
    | 'n' :: rest => (keyword? ['u', 'l', 'l'] rest).map fun rest => (.null, rest)
    | 't' :: rest => (keyword? ['r', 'u', 'e'] rest).map fun rest => (.bool true, rest)
    | 'f' :: rest => (keyword? ['a', 'l', 's', 'e'] rest).map fun rest => (.bool false, rest)
    | rest => (numeral? rest).map fun (n, rest) => (.number n, rest)

/-- Items up to the closing bracket. -/
def items? (fuel : Nat) (s : List Char) : Option (List Node × List Char) :=
  match fuel with
  | 0 => none
  | fuel + 1 => do
    let (x, rest) ← value? fuel s
    match skipSpace rest with
    | ',' :: rest =>
      let (xs, rest) ← items? fuel rest
      return (x :: xs, rest)
    | ']' :: rest => return ([x], rest)
    | _ => none

/-- Members up to the closing brace. -/
def members? (fuel : Nat) (s : List Char) : Option (List (Option String × Node) × List Char) :=
  match fuel with
  | 0 => none
  | fuel + 1 =>
    match skipSpace s with
    | '"' :: rest => do
      let (key, rest) ← stringRest? rest
      match skipSpace rest with
      | ':' :: rest =>
        let (x, rest) ← value? fuel rest
        match skipSpace rest with
        | ',' :: rest =>
          let (ms, rest) ← members? fuel rest
          return ((key, x) :: ms, rest)
        | '\x7d' :: rest => return ([(key, x)], rest)
        | _ => none
      | _ => none
    | _ => none

end

/-- A whole text: one value and white space around it. -/
def parse? (s : String) : Option Node := do
  let cs := s.toList
  let (node, rest) ← value? (2 * cs.length + 2) cs
  if (skipSpace rest).isEmpty then some node else none

mutual

/-- The value of a node. None for a numeral or a string without a value, and when arrays and
objects are nested deeper than `depth`. -/
def toJson? (depth : Nat) : Node → Option Json
  | .null => some .null
  | .bool b => some (.bool b)
  | .number n => n.value?
  | .string s => s.map .string
  | .array items => if depth = 0 then none else (itemsToJson? (depth - 1) items).map .array
  | .object members =>
    if depth = 0 then none
    else (membersToJson? (depth - 1) members).map fun ms => .object (Dict.ofPairs ms)

def itemsToJson? (depth : Nat) : List Node → Option (List Json)
  | [] => some []
  | x :: rest => do
    let x ← toJson? depth x
    let rest ← itemsToJson? depth rest
    return x :: rest

def membersToJson? (depth : Nat) : List (Option String × Node) → Option (List (String × Json))
  | [] => some []
  | (key, x) :: rest => do
    let key ← key
    let x ← toJson? depth x
    let rest ← membersToJson? depth rest
    return (key, x) :: rest

end

end Node

/-- The deepest nesting that is read. -/
def maxDepth : Nat := 127

def parse? (s : String) : Option Json := (Node.parse? s).bind (·.toJson? maxDepth)

end Schemata.Json
