/-!
A place in YAML text: what is left to read, and the line and column reached. Besides the usual ones,
next line, line separator and paragraph separator are line breaks.
-/
namespace Schemata.Yaml

def isBlank (c : Char) : Bool := c == ' ' || c == '\t'

def isBreak (c : Char) : Bool :=
  c == '\n' || c == '\r' || c.toNat == 0x85 || c.toNat == 0x2028 || c.toNat == 0x2029

/-- Whether the text may hold the character at all. -/
def isAllowed (c : Char) : Bool :=
  let n := c.toNat
  n == 0x09 || n == 0x0A || n == 0x0D || (0x20 ≤ n && n ≤ 0x7E) || n == 0x85 ||
    (0xA0 ≤ n && n ≤ 0xD7FF) || (0xE000 ≤ n && n ≤ 0xFFFD) || 0x10000 ≤ n

/-- Characters of anchors, tag handles and directive names. -/
def isWord (c : Char) : Bool := c.isAlphanum || c == '_' || c == '-'

structure Cursor where
  rest : List Char
  index : Nat
  line : Nat
  column : Nat
  /-- More than the characters of the whole text: a bound for every loop over them. -/
  bound : Nat
  deriving Repr

namespace Cursor

def start (s : List Char) : Cursor := ⟨s, 0, 0, 0, s.length + 1⟩

def at? (c : Cursor) (n : Nat) : Option Char := c.rest[n]?

/-- Whether the character `n` places ahead satisfies `p`; the end of the text does not. -/
def sees (c : Cursor) (n : Nat) (p : Char → Bool) : Bool := (c.at? n).any p

def isEnd (c : Cursor) : Bool := c.rest.isEmpty

/-- The end of the text or a line break. -/
def breakAt (c : Cursor) (n : Nat) : Bool := (c.at? n).all isBreak

/-- The end of the text, a line break or a blank. -/
def gapAt (c : Cursor) (n : Nat) : Bool := (c.at? n).all fun x => isBlank x || isBreak x

/-- Moves over `n` characters of the line. -/
def skip (c : Cursor) (n : Nat) : Cursor :=
  { c with rest := c.rest.drop n, index := c.index + n, column := c.column + n }

/-- Reads characters of the line as long as they satisfy `p`. -/
def takeWhile (c : Cursor) (p : Char → Bool) : List Char × Cursor :=
  let taken := c.rest.takeWhile p
  (taken, c.skip taken.length)

def skipWhile (c : Cursor) (p : Char → Bool) : Cursor := (c.takeWhile p).2

/-- Reads a line break, if there is one. Line and paragraph separators stay themselves. -/
def takeBreak (c : Cursor) : List Char × Cursor :=
  match c.rest with
  | '\r' :: '\n' :: rest =>
    (['\n'], { c with rest, index := c.index + 2, line := c.line + 1, column := 0 })
  | x :: rest =>
    if isBreak x then
      let kept := if x.toNat == 0x2028 || x.toNat == 0x2029 then x else '\n'
      ([kept], { c with rest, index := c.index + 1, line := c.line + 1, column := 0 })
    else ([], c)
  | [] => ([], c)

/-- Whether a marker of three characters stands at the beginning of a line. -/
def marks (c : Cursor) (marker : Char) : Bool :=
  c.column == 0 && c.rest.take 3 == [marker, marker, marker] && c.gapAt 3

/-- A line that begins or ends a document. -/
def atDocumentMarker (c : Cursor) : Bool := c.marks '-' || c.marks '.'

end Cursor

/-- Blanks and line breaks between the words of a scalar. -/
structure Gap where
  blanks : List Char
  /-- The first line break, once there is one. It is empty after an escaped line break. -/
  lead : Option (List Char)
  trail : List Char

namespace Gap

def none : Gap := ⟨[], .none, []⟩

/-- What a gap stands for: a single line break is a blank, further ones remain. -/
def text (g : Gap) : List Char :=
  match g.lead with
  | .none => g.blanks
  | some ['\n'] => if g.trail.isEmpty then [' '] else g.trail
  | some lead => lead ++ g.trail

/-- Reads blanks and line breaks. A tab left of the column `indent` on a later line is an error. -/
def read (indent : Nat) (fuel : Nat) (g : Gap) (c : Cursor) : Option (Gap × Cursor) :=
  match fuel with
  | 0 => .none
  | fuel + 1 =>
    match c.at? 0 with
    | .none => some (g, c)
    | some x =>
      if isBlank x then
        match g.lead with
        | .none => read indent fuel { g with blanks := g.blanks ++ [x] } (c.skip 1)
        | some _ =>
          if x == '\t' && c.column < indent then .none else read indent fuel g (c.skip 1)
      else if isBreak x then
        let (b, c) := c.takeBreak
        match g.lead with
        | .none => read indent fuel ⟨[], some b, g.trail⟩ c
        | some _ => read indent fuel { g with trail := g.trail ++ b } c
      else some (g, c)

end Gap

end Schemata.Yaml
