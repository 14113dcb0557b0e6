import Schemata.Yaml.Node
import Schemata.Number.Literal
import Schemata.Tree

/-!
What scalars mean: the plain ones may be null, truth values or numbers, the quoted ones are text,
and a tag can decide otherwise. With that a graph becomes a tree, in which aliases have been
replaced by the nodes they mean.
-/
namespace Schemata.Yaml

/-! ### Plain scalars -/

def isNull (s : String) : Bool := ["null", "Null", "NULL", "~"].contains s

def bool? (s : String) : Option Bool :=
  if ["true", "True", "TRUE"].contains s then some true
  else if ["false", "False", "FALSE"].contains s then some false
  else none

/-- Digits with a zero in front are no number. -/
def isZeroPadded (s : List Char) : Bool :=
  match (Literal.sign s).2 with
  | '0' :: rest => !rest.isEmpty && rest.all Char.isDigit
  | _ => false

/-- A magnitude in radix 10, or in radix 16, 8 or 2 behind its mark. -/
def magnitude? (s : List Char) : Option Nat :=
  match s with
  | '0' :: 'x' :: rest => Literal.natOfDigits? 16 rest
  | '0' :: 'o' :: rest => Literal.natOfDigits? 8 rest
  | '0' :: 'b' :: rest => Literal.natOfDigits? 2 rest
  | _ => if isZeroPadded s then none else Literal.natOfDigits? 10 s

def unsigned? (bits : Nat) (s : List Char) : Option Nat :=
  let s := match s with
    | '+' :: rest => rest
    | s => s
  (magnitude? s).bind fun n => if n < Nat.pow 2 bits then some n else none

def negative? (bits : Nat) (s : List Char) : Option Nat :=
  match s with
  | '-' :: rest =>
    (magnitude? rest).bind fun n => if n ≤ Nat.pow 2 (bits - 1) then some n else none
  | _ => none

/-- An integer of 64 bits; the outer option is none for text that is no integer, the inner one for
an integer that does not fit. -/
def integer? (s : List Char) : Option (Option Atom) :=
  if let some n := unsigned? 64 s then some (some (.nat n))
  else if (negative? 64 s).isSome then some (some .other)
  else if (unsigned? 128 s).isSome || (negative? 128 s).isSome then some none
  else none

def isFloat (s : String) : Bool :=
  [".inf", ".Inf", ".INF", "+.inf", "+.Inf", "+.INF", "-.inf", "-.Inf", "-.INF",
    ".nan", ".NaN", ".NAN"].contains s ||
    (Literal.ofChars? s.toList).any (·.isFinite)

/-- What a plain scalar without a tag is; none for an integer that does not fit. -/
def plainAtom? (s : String) : Option Atom :=
  if s.isEmpty || isNull s then some .null
  else if let some b := bool? s then some (.bool b)
  else if let some n := integer? s.toList then n
  else if !isZeroPadded s.toList && isFloat s then some .other
  else some (.text s)

/-! ### Tags -/

def standardTag (name : String) : String := "tag:yaml.org,2002:" ++ name

/-- The name of a tag that belongs to the document alone. -/
def localName? (tag : Option String) : Option String :=
  match tag.map String.toList with
  | some ['!'] => some "!"
  | some ('!' :: rest) => some (String.ofList rest)
  | _ => none

/-- What a scalar with a tag is; none if its text does not fit the tag. -/
def taggedAtom? (tag : String) (s : String) : Option Atom :=
  if tag = standardTag "bool" then (bool? s).map .bool
  else if tag = standardTag "int" then (integer? s.toList).join
  else if tag = standardTag "float" then if isFloat s then some .other else none
  else if tag = standardTag "null" then if isNull s then some .null else none
  else some (.text s)

/-- A scalar under all expectations. -/
def scalar (tag : Option String) (style : Style) (s : String) : Scalar :=
  let plain := style == .plain
  let reads (kind : String) : Bool := plain || (style == .literal && tag == some (standardTag kind))
  { text := some s
    bool := if reads "bool" then bool? s else none
    nat := if reads "int" then unsigned? 64 s.toList else none
    absent :=
      if !plain then some false
      else match tag with
        | none => some (s.isEmpty || isNull s)
        | some t =>
          if t = standardTag "null" then (if isNull s then some true else none) else some false
    blank := plain && s.isEmpty
    word :=
      match localName? tag with
      | some name => if plain && (s.isEmpty || isNull s) then some name else none
      | none => some s
    atom :=
      match tag with
      | some t => if (localName? tag).isSome then none else taggedAtom? t s
      | none => if plain then plainAtom? s else some (.text s) }

/-! ### Trees -/

mutual

/-- How many marks a node takes: one for a scalar or an alias, two for the ends of a collection. -/
def Node.size : Node → Nat
  | .scalar .. => 1
  | .alias _ => 1
  | .sequence _ items => 2 + itemsSize items
  | .mapping _ entries => 2 + entriesSize entries

def Node.itemsSize : List Node → Nat
  | [] => 0
  | n :: rest => n.size + itemsSize rest

def Node.entriesSize : List (Node × Node) → Nat
  | [] => 0
  | (key, value) :: rest => key.size + value.size + entriesSize rest

end

namespace Graph

/-- The node that is meant. The state is the number of aliases that may still be followed. -/
def follow (g : Graph) (n : Node) : StateM Nat (Option Node) := do
  match n with
  | .alias number =>
    match ← get with
    | 0 => return none
    | left + 1 =>
      set left
      return g.anchors.node? number
  | n => return some n

def label (tag : Option String) (t : Tree) : Tree :=
  if (localName? tag).isSome then .labelled t else t

/-- A node as a tree. What is nested deeper than `depth` cannot be read; in particular a node that
contains itself. -/
def nodeTree (g : Graph) (depth : Nat) (n : Node) : StateM Nat Tree := do
  match ← g.follow n with
  | some (.scalar tag style s) => return .scalar (scalar tag style s)
  | some (.sequence tag items) =>
    match depth with
    | 0 => return .unreadable
    | depth + 1 => return label tag (.list (← items.mapM (g.nodeTree depth)))
  | some (.mapping tag entries) =>
    match depth with
    | 0 => return .unreadable
    | depth + 1 =>
      let entries ← entries.mapM fun (key, value) => do
        let key ← g.nodeTree depth key
        let value ← g.nodeTree depth value
        return (key, value)
      return label tag (.map none entries)
  | _ => return .unreadable

def maxDepth : Nat := 128

/-- Aliases may be followed a hundred times for every mark of the document. -/
def toTree (g : Graph) : Tree := ((g.nodeTree maxDepth g.root).run (100 * g.root.size)).1

end Graph

/-- The tree of YAML text with one document. -/
def parse? (text : String) : Option Tree := (Graph.parse? text).map Graph.toTree

end Schemata.Yaml
