import Schemata.Entities

/-!
Operations of stores as data, and sessions: operations on any stores, one after the other, over one
handle.
-/
namespace Schemata

inductive Operation where
  | getAll
  | getBy (field : String) (value : Json)
  | getManyBy (field : String) (value : Json)
  | add (record : Record)
  | deleteBy (field : String) (value : Json)
  | call (accessor : String) (value : Json)
  | provision
  | unprovision

/-- What an operation gives. -/
inductive Outcome where
  | record (record : Option Record)
  | records (records : List Record)
  | related (related : Related)
  /-- The table has been created or dropped. -/
  | done

variable {σ α : Type}

/-- Sends a request, if there is one to send. -/
def Request.sendIfMade (db : Database σ) (r : Except StoreError (Request α)) (s : σ) :
    Except StoreError α × σ :=
  match r with
  | .ok r => r.send db s
  | .error e => (.error e, s)

namespace Store

def perform (t : Store) (db : Database σ) (op : Operation) (s : σ) :
    Except StoreError Outcome × σ :=
  match op with
  | .getAll => (t.getAll.send db s).map (·.map .records) id
  | .getBy field value => (Request.sendIfMade db (t.getBy field value) s).map (·.map .record) id
  | .getManyBy field value =>
    (Request.sendIfMade db (t.getManyBy field value) s).map (·.map .records) id
  | .add record => (Request.sendIfMade db (t.add record) s).map (·.map .record) id
  | .deleteBy field value =>
    (Request.sendIfMade db (t.deleteBy field value) s).map (·.map .records) id
  | .call accessor value =>
    (Request.sendIfMade db (t.call accessor value) s).map (·.map .related) id
  | .provision => (t.provision db s).map (·.map fun _ => .done) id
  | .unprovision => (t.unprovision db s).map (·.map fun _ => .done) id

/-- The statement that an operation issues, if it is not refused. -/
def issued (t : Store) : Operation → Except StoreError Statement
  | .getAll => .ok t.getAll.statement
  | .getBy field value => (t.getBy field value).map (·.statement)
  | .getManyBy field value => (t.getManyBy field value).map (·.statement)
  | .add record => (t.add record).map (·.statement)
  | .deleteBy field value => (t.deleteBy field value).map (·.statement)
  | .call accessor value => (t.call accessor value).map (·.statement)
  | .provision => .ok ⟨.batch, t.createStatement, []⟩
  | .unprovision => .ok ⟨.batch, t.dropStatement, []⟩

end Store

/-- The outcomes of operations, each on a store of its own, in order. -/
def session (db : Database σ) : List (Store × Operation) → σ → List (Except StoreError Outcome) × σ
  | [], s => ([], s)
  | (t, op) :: rest, s =>
    let (outcome, s) := t.perform db op s
    let (outcomes, s) := session db rest s
    (outcome :: outcomes, s)

end Schemata
