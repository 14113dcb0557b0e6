import Schemata.Json.Reader

/-!
Values as documents spell them. A scalar is what it reads as under each expectation: the same
`true` may be a truth value where one is expected and a name where a name is expected. A reader for
a document format decides the readings once; what reads records from trees does not know the format.
-/
namespace Schemata

/-- What a scalar is when nothing is expected of it. -/
inductive Atom where
  | null
  | bool (b : Bool)
  | nat (n : Nat)
  /-- A negative or fractional number, or a date. -/
  | other
  | text (s : String)
  deriving DecidableEq, Repr

structure Scalar where
  /-- Where a string is expected. -/
  text : Option String
  bool : Option Bool
  nat : Option Nat
  /-- Where a value may be missing: whether it is. -/
  absent : Option Bool
  /-- Whether it can stand for a list or a map without entries. -/
  blank : Bool
  /-- Where one of several words is expected. -/
  word : Option String
  /-- Where anything is allowed. -/
  atom : Option Atom
  deriving DecidableEq, Repr

namespace Scalar

/-- A scalar that is the same under every expectation. -/
def ofAtom (a : Atom) : Scalar where
  text := match a with | .text s => some s | _ => none
  bool := match a with | .bool b => some b | _ => none
  nat := match a with | .nat n => some n | _ => none
  absent := some (a = .null)
  blank := false
  word := match a with | .text s => some s | _ => none
  atom := some a

/-- A scalar without any reading. -/
def unreadable : Scalar := ⟨none, none, none, none, false, none, none⟩

end Scalar

inductive Tree where
  | scalar (s : Scalar)
  | list (items : List Tree)
  /-- `word` is the word for which a map of one entry can stand. -/
  | map (word : Option String) (entries : List (Tree × Tree))
  /-- A list or map with a label of its own. It reads as what it is only where that is expected. -/
  | labelled (t : Tree)

namespace Tree

def ofAtom (a : Atom) : Tree := .scalar (.ofAtom a)
def text (s : String) : Tree := .ofAtom (.text s)
def bool (b : Bool) : Tree := .ofAtom (.bool b)
def nat (n : Nat) : Tree := .ofAtom (.nat n)
def unreadable : Tree := .scalar .unreadable

/-- A map with the given names as keys. -/
def record (entries : List (String × Tree)) : Tree :=
  .map none (entries.map fun (name, t) => (.text name, t))

def text? : Tree → Option String
  | .scalar s => s.text
  | _ => none

def bool? : Tree → Option Bool
  | .scalar s => s.bool
  | _ => none

def nat? : Tree → Option Nat
  | .scalar s => s.nat
  | _ => none

def uint32? (t : Tree) : Option UInt32 :=
  t.nat?.bind fun n => if n < Nat.pow 2 32 then some (UInt32.ofNat n) else none

def uint64? (t : Tree) : Option UInt64 :=
  t.nat?.bind fun n => if n < Nat.pow 2 64 then some (UInt64.ofNat n) else none

def word? : Tree → Option String
  | .scalar s => s.word
  | .map word _ => word
  | _ => none

/-- Reads a value that may be missing. -/
def optional? {α : Type} (read : Tree → Option α) : Tree → Option (Option α)
  | .scalar s =>
    match s.absent with
    | some true => some none
    | some false => (read (.scalar s)).map some
    | none => none
  | t => (read t).map some

def items? : Tree → Option (List Tree)
  | .list items => some items
  | .labelled (.list items) => some items
  | .scalar s => if s.blank then some [] else none
  | _ => none

def listOf? {α : Type} (read : Tree → Option α) (t : Tree) : Option (List α) :=
  t.items?.bind (·.mapM read)

/-- The name that a key has in a record of the given fields. A key that is only a number counts
fields; beyond the last field it names none. -/
def keyName? (names : List String) : Tree → Option String
  | .scalar s =>
    match s.text, s.nat with
    | some name, _ => some name
    | none, some n => some (names.getD n "")
    | none, none => none
  | _ => none

/-- Gathers the entries for the given fields. An entry for another name is passed over, a second
entry for one name is an error. -/
def gather? (names : List String) (found : List (String × Tree)) :
    List (Tree × Tree) → Option (List (String × Tree))
  | [] => some found
  | (key, t) :: rest =>
    match key.keyName? names with
    | none => none
    | some name =>
      if name ∈ names then
        if name ∈ Dict.keys found then none else gather? names (found ++ [(name, t)]) rest
      else gather? names found rest

/-- The entries of a record by field name. A list gives the fields in their order. -/
def fields? (names : List String) : Tree → Option (List (String × Tree))
  | .map _ entries => gather? names [] entries
  | .labelled (.map _ entries) => gather? names [] entries
  | .list items => if names.length < items.length then none else some (names.zip items)
  | .labelled (.list items) => if names.length < items.length then none else some (names.zip items)
  | .scalar s => if s.blank then some [] else none
  | _ => none

def require? {α : Type} (fields : List (String × Tree)) (name : String) (read : Tree → Option α) :
    Option α :=
  (Dict.find? fields name).bind read

def withDefault? {α : Type} (fields : List (String × Tree)) (name : String) (default : α)
    (read : Tree → Option α) : Option α :=
  match Dict.find? fields name with
  | some t => read t
  | none => some default

mutual

/-- The tree as it reads without expectations. -/
def settle? : Tree → Option Tree
  | .scalar s => s.atom.map ofAtom
  | .list items => (settleItems? items).map .list
  | .map _ entries => (settleEntries? entries).map (.map none)
  | .labelled _ => none

def settleItems? : List Tree → Option (List Tree)
  | [] => some []
  | t :: rest => do
    let t ← settle? t
    let rest ← settleItems? rest
    return t :: rest

def settleEntries? : List (Tree × Tree) → Option (List (Tree × Tree))
  | [] => some []
  | (key, t) :: rest => do
    let key ← settle? key
    let t ← settle? t
    let rest ← settleEntries? rest
    return (key, t) :: rest

end

mutual

/-- The tree as a JSON value. -/
def toJson : Tree → Json
  | .scalar s =>
    match s.atom with
    | some (.bool b) => .bool b
    | some (.nat n) => .int n
    | some (.text t) => .string t
    | _ => .null
  | .list items => .array (itemsToJson items)
  | .map _ entries => .object (entriesToJson entries)
  | .labelled t => toJson t

def itemsToJson : List Tree → List Json
  | [] => []
  | t :: rest => toJson t :: itemsToJson rest

def entriesToJson : List (Tree × Tree) → List (String × Json)
  | [] => []
  | (key, t) :: rest => (key.text?.getD "", toJson t) :: entriesToJson rest

end

end Tree

namespace Json

mutual

/-- A JSON value as a tree. -/
def toTree : Json → Tree
  | .null => .ofAtom .null
  | .bool b => .bool b
  | .int n => if 0 ≤ n then .nat n.toNat else .ofAtom .other
  | .float _ => .ofAtom .other
  | .string s => .text s
  | .array items => .list (itemsToTree items)
  | .object members =>
    .map (match members with
      | [(name, .null)] => some name
      | _ => none) (membersToTree members)

def itemsToTree : List Json → List Tree
  | [] => []
  | x :: rest => toTree x :: itemsToTree rest

def membersToTree : List (String × Json) → List (Tree × Tree)
  | [] => []
  | (key, x) :: rest => (.text key, toTree x) :: membersToTree rest

end

namespace Node

mutual

/-- JSON text as a tree. What is nested deeper than `depth` cannot be read. -/
def toTree (depth : Nat) : Node → Tree
  | .null => .ofAtom .null
  | .bool b => .bool b
  | .number n =>
    match n.value? with
    | some (.int n) => if 0 ≤ n then .nat n.toNat else .ofAtom .other
    | some _ => .ofAtom .other
    | none => .unreadable
  | .string (some s) => .text s
  | .string none => .unreadable
  | .array items => if depth = 0 then .unreadable else .list (itemsToTree (depth - 1) items)
  | .object members =>
    if depth = 0 then .unreadable
    else
      .map (match members with
        | [(name, .null)] => name
        | _ => none) (membersToTree (depth - 1) members)

def itemsToTree (depth : Nat) : List Node → List Tree
  | [] => []
  | x :: rest => toTree depth x :: itemsToTree depth rest

def membersToTree (depth : Nat) : List (Option String × Node) → List (Tree × Tree)
  | [] => []
  | (key, x) :: rest =>
    ((match key with
      | some key => .text key
      | none => .unreadable), toTree depth x) :: membersToTree depth rest

end

end Node

end Json

end Schemata
