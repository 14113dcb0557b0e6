import Schemata.Json.Value
import Schemata.Error

/-!
Database handles. A handle answers three kinds of statement and may change its own state doing so:
statements for all rows, statements for the first row, and batches, which give no rows.
-/
namespace Schemata

inductive StatementKind where
  | rows | first | batch
  deriving DecidableEq, Repr

structure Statement where
  kind : StatementKind
  sql : String
  params : List Json
  deriving Repr

/-- A handle with states of type `σ`. -/
structure Database (σ : Type) where
  rows : String → List Json → σ → Except DbError (List Record) × σ
  first : String → List Json → σ → Except DbError (Option Record) × σ
  batch : String → σ → Except DbError Unit × σ

namespace Database

variable {σ : Type}

/-- Runs batches in order up to the first that fails. -/
def batches (db : Database σ) : List String → σ → Except DbError Unit × σ
  | [], s => (.ok (), s)
  | sql :: rest, s =>
    match db.batch sql s with
    | (.ok (), s) => db.batches rest s
    | (.error e, s) => (.error e, s)

@[simp] theorem batches_nil (db : Database σ) (s : σ) : db.batches [] s = (.ok (), s) := rfl

theorem batches_append (db : Database σ) (xs ys : List String) (s : σ) :
    db.batches (xs ++ ys) s =
      match db.batches xs s with
      | (.ok (), s) => db.batches ys s
      | (.error e, s) => (.error e, s) := by
  induction xs generalizing s with
  | nil => rfl
  | cons x xs ih =>
    simp only [List.cons_append, batches]
    split <;> simp_all

end Database

/-- What is asked of a handle, and what is made of its answer. -/
inductive Request (α : Type) where
  | rows (sql : String) (params : List Json) (read : List Record → α)
  | first (sql : String) (params : List Json) (read : Option Record → α)

namespace Request

variable {σ α : Type}

/-- The statement that a request issues. -/
def statement : Request α → Statement
  | .rows sql params _ => ⟨.rows, sql, params⟩
  | .first sql params _ => ⟨.first, sql, params⟩

def send (db : Database σ) (r : Request α) (s : σ) : Except StoreError α × σ :=
  match r with
  | .rows sql params read =>
    let (answer, s) := db.rows sql params s
    ((answer.map read).mapError .database, s)
  | .first sql params read =>
    let (answer, s) := db.first sql params s
    ((answer.map read).mapError .database, s)

end Request

end Schemata
