import Schemata.Yaml.Cursor
import Schemata.Text.Hex

/-!
The text of scalars in their five styles: plain, in single or double quotes, and literal or folded
blocks.
-/
namespace Schemata.Yaml

inductive Style where
  | plain | single | double | literal | folded
  deriving DecidableEq, Repr

namespace ScalarText

/-! ### Plain -/

def isFlowIndicator (c : Char) : Bool :=
  c == ',' || c == '[' || c == ']' || c == '\x7b' || c == '\x7d'

/-- The characters of a plain scalar up to a gap or to an indicator that ends it. Inside a flow
collection a colon in front of an indicator is an error. -/
def plainWord? (flow : Bool) : List Char → Option (List Char)
  | [] => some []
  | c :: rest =>
    let next := rest.head?
    if isBlank c || isBreak c then some []
    else if flow && c == ':' && next.any (fun d => isFlowIndicator d || d == '?') then none
    else if c == ':' && next.all (fun d => isBlank d || isBreak d) then some []
    else if flow && isFlowIndicator c then some []
    else (plainWord? flow rest).map (c :: ·)

/-- A plain scalar: its text, what follows, and whether it ends in a line break. Lines that belong
to it reach at least the column `indent`. -/
def plain? (flow : Bool) (indent : Nat) (fuel : Nat) (text : List Char) (gap : Gap) (c : Cursor) :
    Option (List Char × Cursor × Bool) :=
  match fuel with
  | 0 => none
  | fuel + 1 =>
    let stop := some (text, c, gap.lead.isSome)
    if c.atDocumentMarker || c.sees 0 (· == '#') then stop
    else do
      let word ← plainWord? flow c.rest
      if word.isEmpty then stop
      else
        let text := text ++ gap.text ++ word
        let c := c.skip word.length
        let (gap, after) ← Gap.read indent c.bound .none c
        if c.isEnd || !c.gapAt 0 then return (text, c, false)
        if !flow && after.column < indent then return (text, after, gap.lead.isSome)
        plain? flow indent fuel text gap after

/-! ### Quoted -/

def hexLength? (c : Char) : Option Nat :=
  match c with
  | 'x' => some 2
  | 'u' => some 4
  | 'U' => some 8
  | _ => none

def simpleEscape? (c : Char) : Option Char :=
  match c with
  | '0' => some (Char.ofNat 0)
  | 'a' => some (Char.ofNat 7)
  | 'b' => some (Char.ofNat 8)
  | 't' => some '\t'
  | '\t' => some '\t'
  | 'n' => some '\n'
  | 'v' => some (Char.ofNat 0x0B)
  | 'f' => some (Char.ofNat 0x0C)
  | 'r' => some '\r'
  | 'e' => some (Char.ofNat 0x1B)
  | ' ' => some ' '
  | '"' => some '"'
  | '\'' => some '\''
  | '/' => some '/'
  | '\\' => some '\\'
  | 'N' => some (Char.ofNat 0x85)
  | '_' => some (Char.ofNat 0xA0)
  | 'L' => some (Char.ofNat 0x2028)
  | 'P' => some (Char.ofNat 0x2029)
  | _ => none

/-- The character of an escape behind its backslash, and the length of the escape. -/
def escape? (rest : List Char) : Option (Char × Nat) := do
  let c ← rest.head?
  match hexLength? c with
  | some n =>
    let digits := (rest.drop 1).take n
    if digits.length < n then none
    else return (← Hex.codePoint? digits, n + 1)
  | none => return (← simpleEscape? c, 1)

/-- A quoted scalar behind its opening quote, and what follows the closing one. -/
def quoted? (single : Bool) (fuel : Nat) (text : List Char) (c : Cursor) :
    Option (List Char × Cursor) :=
  match fuel with
  | 0 => none
  | fuel + 1 =>
    if c.atDocumentMarker then none
    else do
      let x ← c.at? 0
      if isBlank x || isBreak x then
        let (gap, c) ← Gap.read 0 c.bound .none c
        quoted? single fuel (text ++ gap.text) c
      else if single then
        if x == '\'' then
          if c.sees 1 (· == '\'') then quoted? single fuel (text ++ ['\'']) (c.skip 2)
          else return (text, c.skip 1)
        else quoted? single fuel (text ++ [x]) (c.skip 1)
      else if x == '"' then return (text, c.skip 1)
      else if x == '\\' then
        if c.sees 1 isBreak then
          let (_, c) := (c.skip 1).takeBreak
          let (gap, c) ← Gap.read 0 c.bound ⟨[], some [], []⟩ c
          quoted? single fuel (text ++ gap.text) c
        else
          let (y, n) ← escape? (c.rest.drop 1)
          quoted? single fuel (text ++ [y]) (c.skip (n + 1))
      else quoted? single fuel (text ++ [x]) (c.skip 1)

/-! ### Blocks -/

/-- What becomes of the line breaks at the end of a block. -/
inductive Chomping where
  | strip | clip | keep
  deriving DecidableEq, Repr

def chomping? (c : Cursor) : Option (Chomping × Cursor) :=
  if c.sees 0 (· == '+') then some (.keep, c.skip 1)
  else if c.sees 0 (· == '-') then some (.strip, c.skip 1)
  else none

/-- The indentation indicator: none if it is not there, an error if it is zero. -/
def increment? (c : Cursor) : Option (Option Nat × Cursor) :=
  match c.at? 0 with
  | some x =>
    if x == '0' then none
    else if x.isDigit then some (some (x.toNat - 48), c.skip 1)
    else some (none, c)
  | none => some (none, c)

/-- The indicators behind `|` or `>`, in either order, up to the end of the line. -/
def header? (c : Cursor) : Option (Chomping × Option Nat × Cursor) := do
  let (chomping, increment, c) ←
    match chomping? c with
    | some (chomping, c) => do
      let (increment, c) ← increment? c
      pure (chomping, increment, c)
    | none => do
      let (increment, c) ← increment? c
      match increment with
      | none => pure (Chomping.clip, none, c)
      | some n =>
        match chomping? c with
        | some (chomping, c) => pure (chomping, some n, c)
        | none => pure (Chomping.clip, some n, c)
  let c := c.skipWhile isBlank
  let c := if c.sees 0 (· == '#') then c.skipWhile fun x => !isBreak x else c
  if c.breakAt 0 then some (chomping, increment, c.takeBreak.2) else none

/-- Empty lines of a block: the line breaks, and the deepest column reached. While the indentation
is not known (`indent = 0`) blanks are passed over however many there are. -/
def emptyLines? (indent : Nat) (fuel : Nat) (deepest : Nat) (breaks : List Char) (c : Cursor) :
    Option (List Char × Nat × Cursor) :=
  match fuel with
  | 0 => none
  | fuel + 1 =>
    let inMargin (column : Nat) : Bool := indent == 0 || column < indent
    let width := (c.rest.takeWhile (· == ' ')).length
    let c := c.skip (if indent == 0 then width else min width (indent - c.column))
    let deepest := max deepest c.column
    if inMargin c.column && c.sees 0 (· == '\t') then none
    else if c.sees 0 isBreak then
      let (b, c) := c.takeBreak
      emptyLines? indent fuel deepest (breaks ++ b) c
    else some (breaks, deepest, c)

structure Block where
  text : List Char
  /-- The break that ended the last line. -/
  lead : List Char
  /-- The breaks of the empty lines after it. -/
  trail : List Char
  /-- Whether the last line began with a blank. -/
  indented : Bool

/-- The lines of a block that stand at the column `indent`. In a folded block a break between two
lines that begin without a blank becomes a blank, or vanishes before empty lines. -/
def blockLines? (folded : Bool) (indent : Nat) (fuel : Nat) (b : Block) (c : Cursor) :
    Option (Block × Cursor) :=
  match fuel with
  | 0 => none
  | fuel + 1 =>
    if c.column != indent || c.isEnd then some (b, c)
    else do
      let blank := c.sees 0 isBlank
      let lead :=
        if folded && b.lead == ['\n'] && !b.indented && !blank then
          (if b.trail.isEmpty then [' '] else [])
        else b.lead
      let (line, c) := c.takeWhile fun x => !isBreak x
      let (next, c) := c.takeBreak
      let (trail, _, c) ← emptyLines? indent c.bound 0 [] c
      blockLines? folded indent fuel ⟨b.text ++ lead ++ b.trail ++ line, next, trail, blank⟩ c

/-- A block scalar behind its indicator. `parent` is the indentation of the node that holds it,
`-1` at the top. -/
def block? (folded : Bool) (parent : Int) (c : Cursor) : Option (List Char × Cursor) := do
  let (chomping, increment, c) ← header? c
  let given := match increment with
    | some n => if 0 ≤ parent then parent.toNat + n else n
    | none => 0
  let (trail, deepest, c) ← emptyLines? given c.bound 0 [] c
  let indent := if given = 0 then max (max deepest (parent + 1).toNat) 1 else given
  let (b, c) ← blockLines? folded indent c.bound ⟨[], [], trail, false⟩ c
  let kept := match chomping with
    | .strip => []
    | .clip => b.lead
    | .keep => b.lead ++ b.trail
  return (b.text ++ kept, c)

end ScalarText

end Schemata.Yaml
