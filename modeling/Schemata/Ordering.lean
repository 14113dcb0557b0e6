import Schemata.Relation.Collection

/-!
The order in which the tables of formats are created: a format that holds a foreign key comes after
the format it refers to, and apart from that formats keep their order of declaration.

Formats are numbered in order of declaration. An edge leads from a referenced format to the holder
of the key. Sorting counts, for each format, the edges from formats not yet put out, and always puts
out the least ready format. If formats are left over, some of them wait for each other, and one
strongly connected component is reported: the first to be complete when a depth-first walk visits
the formats in order and the successors of each from the latest edge to the earliest.
-/
namespace Schemata

structure FormatGraph where
  names : List String
  /-- Distinct edges in order of first occurrence. -/
  edges : List (Nat × Nat)
  deriving DecidableEq, Repr

namespace FormatGraph

def size (g : FormatGraph) : Nat := g.names.length

/-- Names without repetition, each at its first place. -/
def distinct (names : List String) : List String :=
  names.foldl (fun seen n => if n ∈ seen then seen else seen ++ [n]) []

def successors (g : FormatGraph) (n : Nat) : List Nat :=
  (g.edges.filter (·.1 == n)).map (·.2)

def predecessors (g : FormatGraph) (n : Nat) : List Nat :=
  (g.edges.filter (·.2 == n)).map (·.1)

def nodes (g : FormatGraph) : List Nat := List.range g.size

def addEdge (g : FormatGraph) (e : Nat × Nat) : FormatGraph :=
  if e ∈ g.edges then g else { g with edges := g.edges ++ [e] }

/-- The referenced format and the holder that a relation orders. Relations without a foreign key
clause and relations within one format order nothing. -/
def dependency? (r : Relation) : Option (String × String) :=
  match r.foreignKey?, r.declaration.referenced?, r.declaration.holder? with
  | some _, some referenced, some holder =>
    if holder.formatName = referenced.formatName then none
    else some (referenced.formatName, holder.formatName)
  | _, _, _ => none

def addRelation (g : FormatGraph) (r : Relation) : Except SchemaError FormatGraph :=
  match dependency? r with
  | none => .ok g
  | some (referenced, holder) =>
    match g.names.idxOf? referenced, g.names.idxOf? holder with
    | some i, some j => .ok (g.addEdge (i, j))
    | none, _ => .error (.unknownFormat referenced)
    | some _, none => .error (.unknownFormat holder)

def ofRelations (names : List String) (rs : List Relation) : Except SchemaError FormatGraph :=
  rs.foldlM addRelation ⟨distinct names, []⟩

/-! ### Sorting -/

/-- How far sorting has come. -/
structure Sorting where
  /-- Formats put out, in order. -/
  output : List Nat
  /-- For each format, how many edges lead to it from formats not yet put out. -/
  waiting : List Nat
  /-- Formats not yet put out that wait for no other, ascending. -/
  ready : List Nat
  deriving DecidableEq, Repr

def insertSorted (n : Nat) : List Nat → List Nat
  | [] => [n]
  | m :: rest => if n ≤ m then n :: m :: rest else m :: insertSorted n rest

def Sorting.start (g : FormatGraph) : Sorting :=
  let waiting := g.nodes.map fun n => (g.predecessors n).length
  ⟨[], waiting, g.nodes.filter fun n => (g.predecessors n).length == 0⟩

/-- One edge to `n` less is waited for. -/
def Sorting.release (s : Sorting) (n : Nat) : Sorting :=
  let count := s.waiting.getD n 0 - 1
  { s with
    waiting := s.waiting.set n count
    ready := if count = 0 then insertSorted n s.ready else s.ready }

/-- Puts out the least ready format; none when no format is ready. -/
def Sorting.step? (g : FormatGraph) (s : Sorting) : Option Sorting :=
  match s.ready with
  | [] => none
  | n :: rest =>
    some ((g.successors n).foldl Sorting.release ⟨s.output ++ [n], s.waiting, rest⟩)

def Sorting.run (g : FormatGraph) (steps : Nat) (s : Sorting) : Sorting :=
  match steps with
  | 0 => s
  | steps + 1 =>
    match s.step? g with
    | none => s
    | some s => run g steps s

/-- The formats in order, as far as they can be put out. One step for each format suffices. -/
def sorted (g : FormatGraph) : List Nat := (Sorting.run g g.size (.start g)).output

/-! ### Components -/

/-- The nodes of `start` and those reached from them along at most `steps` edges. -/
def reach (g : FormatGraph) (steps : Nat) (start : List Nat) : List Nat :=
  match steps with
  | 0 => start
  | steps + 1 =>
    reach g steps (g.nodes.filter fun n =>
      start.contains n || start.any fun m => g.edges.contains (m, n))

def reachable (g : FormatGraph) (n : Nat) : List Nat := g.reach g.size [n]

/-- The strongly connected component of a format: those it reaches and is reached by. -/
def component (g : FormatGraph) (n : Nat) : List Nat :=
  (g.reachable n).filter fun m => (g.reachable m).contains n

/-- A depth-first walk: formats seen, and formats finished, in order. -/
structure Walk where
  seen : List Nat
  finished : List Nat
  deriving DecidableEq, Repr

/-- Visits a format and what it leads to. A path is never longer than `depth`. -/
def visit (g : FormatGraph) (depth : Nat) (w : Walk) (n : Nat) : Walk :=
  match depth with
  | 0 => w
  | depth + 1 =>
    if w.seen.contains n then w
    else
      let w := (g.successors n).reverse.foldl (visit g depth) { w with seen := n :: w.seen }
      { w with finished := w.finished ++ [n] }

/-- All formats in the order in which the walk leaves them. -/
def finishOrder (g : FormatGraph) : List Nat :=
  (g.nodes.foldl (g.visit (g.size + 1)) ⟨[], []⟩).finished

/-- The first component of more than one format that the walk leaves behind. -/
def firstCycle (g : FormatGraph) : List Nat :=
  let order := g.finishOrder
  let complete (n : Nat) : Option (List Nat) :=
    let c := g.component n
    if 1 < c.length && c.all fun m => order.idxOf m ≤ order.idxOf n then some c else none
  (order.findSome? complete).getD []

def nameOf (g : FormatGraph) (n : Nat) : String := g.names.getD n ""

end FormatGraph

/-- The formats in the order in which their tables can be created. -/
def provisioningOrder (names : List String) (rs : List Relation) :
    Except SchemaError (List String) := do
  let g ← FormatGraph.ofRelations names rs
  let order := g.sorted
  if order.length < g.size then
    throw (.cycle ((g.firstCycle.map g.nameOf).mergeSort fun a b => decide (a ≤ b)))
  return order.map g.nameOf

end Schemata
