import Schemata.Postgres.Datum
import Schemata.Database

/-!
The PostgreSQL handle. A statement is prepared, which tells the types of its parameters and columns;
then all parameters are converted before any is sent.
-/
namespace Schemata.Postgres

structure Prepared where
  params : List SqlType
  columns : List (String × SqlType)
  deriving DecidableEq, Repr

/-- A connection to a server with states of type `σ`. Errors are the server's own words. -/
structure Connection (σ : Type) where
  prepare : String → σ → Except String Prepared × σ
  execute : String → List Cell → σ → Except String (List (List Cell)) × σ
  batch : String → σ → Except String Unit × σ

/-- Converts parameters up to the first that does not convert. -/
def bindAll : List SqlType → List Json → Except DbError (List (Option Datum))
  | t :: ts, j :: js => do
    let d ← param t j
    let ds ← bindAll ts js
    return d :: ds
  | _, _ => .ok []

/-- The cells to be sent. An error is the index of a parameter that cannot be sent. -/
def sendAll (index : Nat) : List SqlType → List (Option Datum) → Except Nat (List Cell)
  | t :: ts, d :: ds =>
    match cellOf? t d with
    | some c => (sendAll (index + 1) ts ds).map (c :: ·)
    | none => .error index
  | _, _ => .ok []

/-- The parameters of a prepared statement as cells. -/
def cellsFor (p : Prepared) (params : List Json) : Except DbError (List Cell) := do
  if p.params.length ≠ params.length then
    throw (.query s!"Statement expects {p.params.length} parameters, got {params.length}")
  let data ← bindAll p.params params
  match sendAll 0 p.params data with
  | .ok cells => return cells
  | .error index => throw (.query s!"error serializing parameter {index}")

/-- A row by column name, from the column with the given index on. A later column of the same name
takes the place of the earlier one. -/
def readRow (index : Nat) (record : Record) :
    List (String × SqlType) → List Cell → Except DbError Record
  | (name, t) :: columns, c :: cells =>
    match valueOf? t c with
    | some j => readRow (index + 1) (Dict.insert record name j) columns cells
    | none => .error (.conversion s!"error deserializing column {index}")
  | _, _ => .ok record

namespace Connection

variable {σ : Type}

/-- Runs a statement and gives the types of its columns and its rows. -/
def query (c : Connection σ) (sql : String) (params : List Json) (s : σ) :
    Except DbError (List (String × SqlType) × List (List Cell)) × σ :=
  match c.prepare sql s with
  | (.error reason, s) => (.error (.query reason), s)
  | (.ok p, s) =>
    match cellsFor p params with
    | .error e => (.error e, s)
    | .ok cells =>
      match c.execute sql cells s with
      | (.error reason, s) => (.error (.query reason), s)
      | (.ok rows, s) => (.ok (p.columns, rows), s)

/-- The handle on a connection. For the first row only the first row is converted. -/
def database (c : Connection σ) : Database σ where
  rows sql params s :=
    match c.query sql params s with
    | (.ok (columns, rows), s) => (rows.mapM (readRow 0 [] columns), s)
    | (.error e, s) => (.error e, s)
  first sql params s :=
    match c.query sql params s with
    | (.ok (columns, row :: _), s) => ((readRow 0 [] columns row).map some, s)
    | (.ok (_, []), s) => (.ok none, s)
    | (.error e, s) => (.error e, s)
  batch sql s :=
    match c.batch sql s with
    | (.ok (), s) => (.ok (), s)
    | (.error reason, s) => (.error (.query reason), s)

end Connection

end Schemata.Postgres
