import Schemata.Yaml.ScalarText

/-!
YAML text as tokens. Indentation becomes tokens of its own: a line further to the right than the
block around it opens a block, a line further to the left closes blocks.

A mapping key is recognised only by the colon behind it. So where a key might begin its place among
the tokens is remembered, and when the colon comes a key token, and if need be the beginning of a
mapping, is inserted there. Such a key must lie on one line and within 1024 characters.
-/
namespace Schemata.Yaml

inductive Token where
  | version (major minor : Nat)
  | tagPrefix (handle uri : String)
  | documentStart
  | documentEnd
  | blockSequenceStart
  | blockMappingStart
  | blockEnd
  | flowSequenceStart
  | flowSequenceEnd
  | flowMappingStart
  | flowMappingEnd
  | flowEntry
  | blockEntry
  | key
  | value
  | anchor (name : String)
  | alias (name : String)
  | tag (handle suffix : String)
  | scalar (style : Style) (text : String)
  deriving DecidableEq, Repr

/-- A place where a mapping key may have begun. -/
structure PossibleKey where
  /-- Whether nothing else can stand here. -/
  required : Bool
  /-- Its place among the tokens. -/
  token : Nat
  index : Nat
  line : Nat
  column : Nat
  deriving Repr

structure Lexer where
  cursor : Cursor
  tokens : Array Token
  /-- The column of the innermost block, `-1` outside all blocks. -/
  indent : Int
  /-- The columns of the blocks around it. -/
  outer : List Int
  /-- The possible key at the level outside flow collections. -/
  possible : Option PossibleKey
  /-- The possible keys at the levels of flow collections, innermost first. -/
  flow : List (Option PossibleKey)
  /-- Whether a key may begin here. -/
  keyAllowed : Bool

namespace Lexer

def start (text : List Char) : Lexer := ⟨.start text, #[], -1, [], none, [], true⟩

def inFlow (s : Lexer) : Bool := !s.flow.isEmpty

def put (s : Lexer) (t : Token) : Lexer := { s with tokens := s.tokens.push t }

def move (s : Lexer) (n : Nat) : Lexer := { s with cursor := s.cursor.skip n }

/-! ### Possible keys -/

def currentKey (s : Lexer) : Option PossibleKey :=
  match s.flow with
  | k :: _ => k
  | [] => s.possible

def setKey (s : Lexer) (k : Option PossibleKey) : Lexer :=
  match s.flow with
  | _ :: rest => { s with flow := k :: rest }
  | [] => { s with possible := k }

/-- The furthest that a colon may be from the beginning of its key. -/
def keyReach : Nat := 1024

def expire? (c : Cursor) (k : Option PossibleKey) : Option (Option PossibleKey) :=
  match k with
  | none => some none
  | some k =>
    if k.line < c.line || k.index + keyReach < c.index then
      if k.required then none else some none
    else some (some k)

/-- Gives up the keys whose colon cannot come any more. -/
def expireKeys? (s : Lexer) : Option Lexer := do
  let possible ← expire? s.cursor s.possible
  let flow ← s.flow.mapM (expire? s.cursor)
  return { s with possible, flow }

/-- Gives up the current key. -/
def dropKey? (s : Lexer) : Option Lexer :=
  match s.currentKey with
  | some k => if k.required then none else some (s.setKey none)
  | none => some s

/-- Remembers that a key may begin here. -/
def saveKey? (s : Lexer) : Option Lexer :=
  if s.keyAllowed then do
    let required := !s.inFlow && s.indent == s.cursor.column
    let s ← s.dropKey?
    return s.setKey (some ⟨required, s.tokens.size, s.cursor.index, s.cursor.line, s.cursor.column⟩)
  else some s

/-! ### Indentation -/

/-- Opens a block at the column if it lies deeper, with its token at the given place. -/
def openBlock (s : Lexer) (column : Nat) (place : Nat) (t : Token) : Lexer :=
  if !s.inFlow && s.indent < column then
    { s with
      indent := column
      outer := s.indent :: s.outer
      tokens := s.tokens.insertIdxIfInBounds place t }
  else s

/-- Closes the blocks deeper than the column. -/
def closeBlocks (s : Lexer) (column : Int) : Lexer :=
  if s.inFlow then s else go s.outer s
where
  go : List Int → Lexer → Lexer
    | [], s => s
    | i :: rest, s =>
      if column < s.indent then go rest ({ s with indent := i, outer := rest }.put .blockEnd)
      else s

/-! ### Between tokens -/

/-- Passes over blanks, comments and line breaks. After a line break a key may begin, and until one
does a tab cannot stand outside flow collections. -/
def passGap (fuel : Nat) (s : Lexer) : Lexer :=
  match fuel with
  | 0 => s
  | fuel + 1 =>
    let c := s.cursor
    let c := if c.index == 0 && c.sees 0 (·.toNat == 0xFEFF) then c.skip 1 else c
    let tabs := s.inFlow || !s.keyAllowed
    let c := c.skipWhile fun x => x == ' ' || (tabs && x == '\t')
    let c := if c.sees 0 (· == '#') then c.skipWhile fun x => !isBreak x else c
    if c.sees 0 isBreak then
      passGap fuel { s with cursor := c.takeBreak.2, keyAllowed := s.keyAllowed || !s.inFlow }
    else { s with cursor := c }

/-! ### Directives -/

def digits? (c : Cursor) : Option (Nat × Cursor) :=
  let (ds, c) := c.takeWhile Char.isDigit
  if ds.isEmpty || 9 < ds.length then none
  else some (ds.foldl (fun n d => n * 10 + (d.toNat - 48)) 0, c)

def isUriCharacter (c : Char) : Bool := isWord c || ";/?:@&=+$.!~*'()%".toList.contains c

/-- Characters that only a full URI may hold, but no suffix of a handle. -/
def isFlowUriCharacter (c : Char) : Bool := c == ',' || c == '[' || c == ']'

/-- The bytes that a URI stands for; `%` introduces a byte in hexadecimal digits. -/
def uriBytes? : List Char → Option (List UInt8)
  | [] => some []
  | '%' :: a :: b :: rest => do
    let byte ← Hex.bytes? [a, b]
    let bytes ← uriBytes? rest
    return byte ++ bytes
  | c :: rest =>
    if c == '%' then none else (uriBytes? rest).map ((String.singleton c).toUTF8.toList ++ ·)

/-- A URI, or the suffix of a handle. -/
def uri? (full : Bool) (c : Cursor) : Option (String × Cursor) := do
  let (cs, c) := c.takeWhile fun x => isUriCharacter x || (full && isFlowUriCharacter x)
  let bytes ← uriBytes? cs
  let text ← String.fromUTF8? ⟨bytes.toArray⟩
  return (text, c)

/-- A tag handle: `!`, or a word between exclamation marks. -/
def handle? (c : Cursor) : Option (String × Cursor) := do
  if !c.sees 0 (· == '!') then none
  let (word, after) := (c.skip 1).takeWhile isWord
  if after.sees 0 (· == '!') then return (String.ofList ('!' :: word ++ ['!']), after.skip 1)
  else return (String.ofList ('!' :: word), after)

/-- The line of a directive behind its percent sign. -/
def directive? (c : Cursor) : Option (Token × Cursor) := do
  let (name, c) := c.takeWhile isWord
  if name.isEmpty || !c.gapAt 0 then none
  let (t, c) ←
    if name == ['Y', 'A', 'M', 'L'] then do
      let (major, c) ← digits? (c.skipWhile isBlank)
      if !c.sees 0 (· == '.') then none
      let (minor, c) ← digits? (c.skip 1)
      pure (Token.version major minor, c)
    else if name == ['T', 'A', 'G'] then do
      let (handle, c) ← handle? (c.skipWhile isBlank)
      if !(handle == "!" || handle.toList.getLast? == some '!') then none
      if !c.sees 0 isBlank then none
      let (uri, c) ← uri? true (c.skipWhile isBlank)
      if uri.isEmpty || !c.gapAt 0 then none
      pure (Token.tagPrefix handle uri, c)
    else none
  let c := c.skipWhile isBlank
  let c := if c.sees 0 (· == '#') then c.skipWhile fun x => !isBreak x else c
  if c.breakAt 0 then return (t, c.takeBreak.2) else none

/-! ### Node properties -/

def anchorEnd (c : Cursor) : Bool :=
  c.gapAt 0 || c.sees 0 fun x => ['?', ':', ',', ']', '\x7d', '%', '@', '\x60'].contains x

/-- The name of an anchor or alias behind its indicator. -/
def anchor? (c : Cursor) : Option (String × Cursor) := do
  let (name, c) := c.takeWhile isWord
  if name.isEmpty || !anchorEnd c then none
  return (String.ofList name, c)

/-- A tag, at its exclamation mark. -/
def tag? (flow : Bool) (c : Cursor) : Option (Token × Cursor) := do
  let (t, c) ←
    if c.sees 1 (· == '<') then do
      let (uri, c) ← uri? true (c.skip 2)
      if uri.isEmpty || !c.sees 0 (· == '>') then none
      pure (Token.tag "" uri, c.skip 1)
    else do
      let (handle, after) ← handle? c
      if 1 < handle.length && handle.toList.getLast? == some '!' then
        let (suffix, after) ← uri? false after
        if suffix.isEmpty then none
        pure (Token.tag handle suffix, after)
      else
        let (more, after) ← uri? false after
        let suffix := String.ofList (handle.toList.drop 1) ++ more
        pure (if suffix.isEmpty then Token.tag "" "!" else Token.tag "!" suffix, after)
  if (flow && c.sees 0 (· == ',')) || c.gapAt 0 then return (t, c) else none

/-! ### Tokens -/

def documentMarker? (s : Lexer) (t : Token) : Option Lexer := do
  let s ← (s.closeBlocks (-1)).dropKey?
  return ({ s with keyAllowed := false }.put t).move 3

def flowStart? (s : Lexer) (t : Token) : Option Lexer := do
  let s ← s.saveKey?
  return ({ s with flow := none :: s.flow, keyAllowed := true }.put t).move 1

def flowEnd? (s : Lexer) (t : Token) : Option Lexer := do
  let s ← s.dropKey?
  return ({ s with flow := s.flow.drop 1, keyAllowed := false }.put t).move 1

def flowEntry? (s : Lexer) : Option Lexer := do
  let s ← s.dropKey?
  return ({ s with keyAllowed := true }.put .flowEntry).move 1

/-- An indicator that opens a block where it stands and is followed by content. -/
def blockIndicator? (s : Lexer) (opening t : Token) (keyAllowed : Bool) : Option Lexer := do
  if !s.inFlow && !s.keyAllowed then none
  let s := s.openBlock s.cursor.column s.tokens.size opening
  let s ← s.dropKey?
  return ({ s with keyAllowed }.put t).move 1

def value? (s : Lexer) : Option Lexer :=
  match s.currentKey with
  | some k =>
    let s := { s with tokens := s.tokens.insertIdxIfInBounds k.token .key }
    let s := (s.openBlock k.column k.token .blockMappingStart).setKey none
    some (({ s with keyAllowed := false }.put .value).move 1)
  | none =>
    if !s.inFlow && !s.keyAllowed then none
    else
      let s := s.openBlock s.cursor.column s.tokens.size .blockMappingStart
      some (({ s with keyAllowed := !s.inFlow }.put .value).move 1)

def property? (s : Lexer) (read : Cursor → Option (Token × Cursor)) : Option Lexer := do
  let s ← s.saveKey?
  let (t, cursor) ← read s.cursor
  return { s with cursor, keyAllowed := false }.put t

def blockScalar? (s : Lexer) (style : Style) : Option Lexer := do
  let s ← s.dropKey?
  let (text, cursor) ← ScalarText.block? (style == .folded) s.indent (s.cursor.skip 1)
  return { s with cursor, keyAllowed := true }.put (.scalar style (String.ofList text))

def quotedScalar? (s : Lexer) (style : Style) : Option Lexer := do
  let s ← s.saveKey?
  let c := s.cursor.skip 1
  let (text, cursor) ← ScalarText.quoted? (style == .single) c.bound [] c
  return { s with cursor, keyAllowed := false }.put (.scalar style (String.ofList text))

def plainScalar? (s : Lexer) : Option Lexer := do
  let s ← s.saveKey?
  let c := s.cursor
  let (text, cursor, newLine) ←
    ScalarText.plain? s.inFlow (s.indent + 1).toNat c.bound [] .none c
  return { s with cursor, keyAllowed := newLine }.put (.scalar .plain (String.ofList text))

def isIndicator (c : Char) : Bool := "-?:,[]\x7b\x7d#&*!|>'\"%@\x60".toList.contains c

/-- Whether a plain scalar can begin here. -/
def startsPlain (s : Lexer) : Bool :=
  let c := s.cursor
  if c.gapAt 0 then false
  else if !c.sees 0 isIndicator then true
  else if c.sees 0 (· == '-') then !c.sees 1 isBlank
  else !s.inFlow && c.sees 0 (fun x => x == '?' || x == ':') && !c.gapAt 1

/-- Reads one token. -/
def step? (s : Lexer) : Option Lexer :=
  let c := s.cursor
  match c.at? 0 with
  | none => none
  | some x =>
    if x == '%' && c.column == 0 then do
      let s ← (s.closeBlocks (-1)).dropKey?
      let (t, cursor) ← directive? (c.skip 1)
      return { s with cursor, keyAllowed := false }.put t
    else if c.marks '-' then s.documentMarker? .documentStart
    else if c.marks '.' then s.documentMarker? .documentEnd
    else if x == '[' then s.flowStart? .flowSequenceStart
    else if x == '\x7b' then s.flowStart? .flowMappingStart
    else if x == ']' then s.flowEnd? .flowSequenceEnd
    else if x == '\x7d' then s.flowEnd? .flowMappingEnd
    else if x == ',' then s.flowEntry?
    else if x == '-' && c.gapAt 1 then s.blockIndicator? .blockSequenceStart .blockEntry true
    else if x == '?' && (s.inFlow || c.gapAt 1) then
      s.blockIndicator? .blockMappingStart .key (!s.inFlow)
    else if x == ':' && (s.inFlow || c.gapAt 1) then s.value?
    else if x == '*' then
      s.property? fun c => (anchor? (c.skip 1)).map fun (name, c) => (.alias name, c)
    else if x == '&' then
      s.property? fun c => (anchor? (c.skip 1)).map fun (name, c) => (.anchor name, c)
    else if x == '!' then s.property? (tag? s.inFlow)
    else if x == '|' && !s.inFlow then s.blockScalar? .literal
    else if x == '>' && !s.inFlow then s.blockScalar? .folded
    else if x == '\'' then s.quotedScalar? .single
    else if x == '"' then s.quotedScalar? .double
    else if s.startsPlain then s.plainScalar?
    else none

/-- Reads tokens to the end of the text. -/
def run? (fuel : Nat) (s : Lexer) : Option Lexer :=
  match fuel with
  | 0 => none
  | fuel + 1 => do
    let s := s.passGap s.cursor.bound
    let s ← s.expireKeys?
    let s := s.closeBlocks s.cursor.column
    if s.cursor.isEnd then
      let s := if s.cursor.column == 0 then s
        else { s with cursor := { s.cursor with line := s.cursor.line + 1, column := 0 } }
      (s.closeBlocks (-1)).dropKey?
    else run? fuel (← s.step?)

end Lexer

/-- The tokens of a text; none if it is not well formed or holds characters that YAML excludes. A
byte order mark at the beginning does not count. -/
def tokens? (text : String) : Option (List Token) :=
  let cs := match text.toList with
    | c :: rest => if c.toNat == 0xFEFF then rest else c :: rest
    | [] => []
  if cs.all isAllowed then
    (Lexer.run? (cs.length + 1) (.start cs)).map (·.tokens.toList)
  else none

end Schemata.Yaml
