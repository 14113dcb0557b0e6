import Schemata.Yaml.Token
import Schemata.Dict

/-!
Tokens as nodes. A text holds one document, and a document one node. Aliases stay in place: an alias
names an anchored node by a number, and a graph holds the anchored nodes beside the document's own.

An anchor's number is how many anchor names were in use before it. So a name given for the second
time shares its number with the next new name, and an alias means the last node of its number.
-/
namespace Schemata.Yaml

inductive Node where
  | scalar (tag : Option String) (style : Style) (text : String)
  | sequence (tag : Option String) (items : List Node)
  | mapping (tag : Option String) (entries : List (Node × Node))
  | alias (number : Nat)
  deriving Repr, Inhabited

/-- What stands where nothing is written. -/
def Node.empty (tag : Option String) : Node := .scalar tag .plain ""

structure Anchors where
  /-- The number that each name has now. -/
  numbers : List (String × Nat)
  /-- The numbers of the anchored nodes in the order in which they begin, latest first. -/
  begun : List Nat
  /-- The anchored nodes that have ended, each with its place in the order of beginnings. -/
  ended : List (Nat × Node)
  deriving Repr

namespace Anchors

def none : Anchors := ⟨[], [], []⟩

/-- An anchored node begins. -/
def begin (a : Anchors) (name : String) : Anchors :=
  let number := a.numbers.length
  { a with numbers := Dict.insert a.numbers name number, begun := number :: a.begun }

/-- The node that began as the one at `place` ends. -/
def finish (a : Anchors) (place : Nat) (n : Node) : Anchors :=
  { a with ended := (place, n) :: a.ended }

/-- The last node of a number. -/
def node? (a : Anchors) (number : Nat) : Option Node := do
  let later ← a.begun.idxOf? number
  a.ended.lookup (a.begun.length - 1 - later)

end Anchors

/-- A document's node and the nodes its aliases mean. -/
structure Graph where
  root : Node
  anchors : Anchors
  deriving Repr

/-- Tokens still to be read, and the anchors met so far. -/
structure Reading where
  tokens : List Token
  anchors : Anchors

abbrev Reader := StateT Reading Option

/-- What a tag handle stands for. -/
abbrev Handles := List (String × String)

namespace Reader

def head : Reader (Option Token) := do return (← get).tokens.head?

def advance : Reader Unit := modify fun c => { c with tokens := c.tokens.drop 1 }

/-- Whether one of the given tokens comes next. -/
def sees (ts : List Token) : Reader Bool := do return (← head).any (ts.contains ·)

/-- Passes over a token if it comes next, and tells whether it did. -/
def accept (t : Token) : Reader Bool := do
  let found ← sees [t]
  if found then advance
  return found

def expect (t : Token) : Reader Unit := do
  if !(← accept t) then failure

/-! ### Properties of nodes -/

structure Properties where
  anchor : Option String
  tag : Option String

def expandTag (handles : Handles) (handle suffix : String) : Reader String :=
  if handle.isEmpty then pure suffix
  else match Dict.find? handles handle with
    | some start => pure (start ++ suffix)
    | none => failure

/-- An anchor and a tag in either order, each at most once. -/
def properties (handles : Handles) : Reader Properties := do
  match ← head with
  | some (.anchor name) =>
    advance
    match ← head with
    | some (.tag handle suffix) =>
      advance
      return ⟨name, ← expandTag handles handle suffix⟩
    | _ => return ⟨name, none⟩
  | some (.tag handle suffix) =>
    advance
    let tag ← expandTag handles handle suffix
    match ← head with
    | some (.anchor name) =>
      advance
      return ⟨name, tag⟩
    | _ => return ⟨none, tag⟩
  | _ => return ⟨none, none⟩

/-- Properties alone make an empty node. -/
def emptyNode (p : Properties) : Reader Node :=
  if p.anchor.isNone && p.tag.isNone then failure else pure (.empty p.tag)

/-- The tag `!` on a scalar says nothing. -/
def scalarTag (tag : Option String) : Option String := if tag = some "!" then none else tag

/-! ### Nodes -/

/-- Where a node stands. As part of a block mapping's entry it may be a block sequence without
indentation of its own. -/
inductive Place where
  | flow | block | entry
  deriving DecidableEq, Repr

mutual

/-- One node. Every call reads a token or passes to a call that does, so a bound of three times the
number of tokens suffices. -/
def node (fuel : Nat) (handles : Handles) (place : Place) : Reader Node :=
  match fuel with
  | 0 => failure
  | fuel + 1 => do
    match ← head with
    | some (.alias name) =>
      advance
      match Dict.find? (← get).anchors.numbers name with
      | some number => return .alias number
      | none => failure
    | _ =>
      let p ← properties handles
      match p.anchor with
      | some name =>
        let order := (← get).anchors.begun.length
        modify fun c => { c with anchors := c.anchors.begin name }
        let n ← content fuel handles place p
        modify fun c => { c with anchors := c.anchors.finish order n }
        return n
      | none => content fuel handles place p

/-- A node behind its properties. -/
def content (fuel : Nat) (handles : Handles) (place : Place) (p : Properties) : Reader Node :=
  match fuel with
  | 0 => failure
  | fuel + 1 => do
    match ← head with
    | some (.scalar style text) =>
      advance
      return .scalar (scalarTag p.tag) style text
    | some .flowSequenceStart =>
      advance
      return .sequence p.tag (← flowItems fuel handles true)
    | some .flowMappingStart =>
      advance
      return .mapping p.tag (← flowEntries fuel handles true)
    | some .blockSequenceStart =>
      if place = .flow then emptyNode p
      else
        advance
        return .sequence p.tag (← blockItems fuel handles)
    | some .blockMappingStart =>
      if place = .flow then emptyNode p
      else
        advance
        return .mapping p.tag (← blockEntries fuel handles)
    | some .blockEntry =>
      if place = .entry then return .sequence p.tag (← plainItems fuel handles)
      else emptyNode p
    | _ => emptyNode p

/-- The items of a block sequence. -/
def blockItems (fuel : Nat) (handles : Handles) : Reader (List Node) :=
  match fuel with
  | 0 => failure
  | fuel + 1 => do
    if ← accept .blockEntry then
      let n ←
        if ← sees [.blockEntry, .blockEnd] then pure (.empty none) else node fuel handles .block
      return n :: (← blockItems fuel handles)
    else
      expect .blockEnd
      return []

/-- The items of a block sequence without indentation of its own. -/
def plainItems (fuel : Nat) (handles : Handles) : Reader (List Node) :=
  match fuel with
  | 0 => failure
  | fuel + 1 => do
    if ← accept .blockEntry then
      let n ←
        if ← sees [.blockEntry, .key, .value, .blockEnd] then pure (.empty none)
        else node fuel handles .block
      return n :: (← plainItems fuel handles)
    else return []

/-- The entries of a block mapping. -/
def blockEntries (fuel : Nat) (handles : Handles) : Reader (List (Node × Node)) :=
  match fuel with
  | 0 => failure
  | fuel + 1 => do
    if ← accept .key then
      let key ← blockPart fuel handles
      let value ← if ← accept .value then blockPart fuel handles else pure (.empty none)
      return (key, value) :: (← blockEntries fuel handles)
    else
      expect .blockEnd
      return []

/-- A key or value of a block mapping. -/
def blockPart (fuel : Nat) (handles : Handles) : Reader Node :=
  match fuel with
  | 0 => failure
  | fuel + 1 => do
    if ← sees [.key, .value, .blockEnd] then return .empty none else node fuel handles .entry

/-- The items of a flow sequence. -/
def flowItems (fuel : Nat) (handles : Handles) (first : Bool) : Reader (List Node) :=
  match fuel with
  | 0 => failure
  | fuel + 1 => do
    if ← accept .flowSequenceEnd then return []
    if !first then expect .flowEntry
    if ← accept .flowSequenceEnd then return []
    let n ←
      if ← accept .key then pairItem fuel handles else node fuel handles .flow
    return n :: (← flowItems fuel handles false)

/-- A mapping of one entry as an item of a flow sequence, behind the indicator of its key. A token
that cannot begin the key is passed over. -/
def pairItem (fuel : Nat) (handles : Handles) : Reader Node :=
  match fuel with
  | 0 => failure
  | fuel + 1 => do
    let key ←
      if ← sees [.value, .flowEntry, .flowSequenceEnd] then
        advance
        pure (.empty none)
      else node fuel handles .flow
    let value ←
      if ← accept .value then
        if ← sees [.flowEntry, .flowSequenceEnd] then pure (.empty none)
        else node fuel handles .flow
      else pure (.empty none)
    return .mapping none [(key, value)]

/-- The entries of a flow mapping. -/
def flowEntries (fuel : Nat) (handles : Handles) (first : Bool) : Reader (List (Node × Node)) :=
  match fuel with
  | 0 => failure
  | fuel + 1 => do
    if ← accept .flowMappingEnd then return []
    if !first then expect .flowEntry
    if ← accept .flowMappingEnd then return []
    let entry ←
      if ← accept .key then do
        let key ←
          if ← sees [.value, .flowEntry, .flowMappingEnd] then pure (.empty none)
          else node fuel handles .flow
        let value ←
          if ← accept .value then
            if ← sees [.flowEntry, .flowMappingEnd] then pure (.empty none)
            else node fuel handles .flow
          else pure (.empty none)
        pure (key, value)
      else do
        let key ← node fuel handles .flow
        pure (key, .empty none)
    return entry :: (← flowEntries fuel handles false)

end

/-! ### Documents -/

/-- The directives in front of a document. There is one version at most, and it is 1.1 or 1.2. -/
def directives (fuel : Nat) (versioned : Bool) (handles : Handles) : Reader Handles :=
  match fuel with
  | 0 => failure
  | fuel + 1 => do
    match ← head with
    | some (.version major minor) =>
      advance
      if versioned || major != 1 || (minor != 1 && minor != 2) then failure
      directives fuel true handles
    | some (.tagPrefix handle uri) =>
      advance
      if (Dict.find? handles handle).isSome then failure
      directives fuel versioned (handles ++ [(handle, uri)])
    | _ => return handles

/-- The handles that need no directive. -/
def standardHandles : Handles := [("!", "!"), ("!!", "tag:yaml.org,2002:")]

/-- The node of a document whose beginning is marked. -/
def markedRoot (fuel : Nat) (handles : Handles) : Reader Node := do
  match ← head with
  | none | some (.version ..) | some (.tagPrefix ..) | some .documentStart | some .documentEnd =>
    return .empty none
  | _ => node fuel handles .block

/-- One document and the end of the text. -/
def document (fuel : Nat) : Reader Node := do
  let marked ← match ← head with
    | some (.version ..) | some (.tagPrefix ..) | some .documentStart => pure true
    | _ => pure false
  let own ← directives fuel false []
  let handles := own ++ standardHandles
  if marked then expect .documentStart
  let root ← if marked then markedRoot fuel handles else node fuel handles .block
  modify fun c => { c with tokens := c.tokens.dropWhile (· == .documentEnd) }
  if (← head).isSome then failure
  return root

end Reader

namespace Graph

/-- None if the tokens do not make up one document. -/
def ofTokens? (ts : List Token) : Option Graph := do
  let (root, c) ← (Reader.document (3 * ts.length + 3)).run ⟨ts, .none⟩
  return ⟨root, c.anchors⟩

def parse? (text : String) : Option Graph := (tokens? text).bind ofTokens?

end Graph

end Schemata.Yaml
