import Schemata.Store.Basic

/-!
All stores of a schema, and the provisioning of its tables as a whole.
-/
namespace Schemata

structure Entities where
  schema : Schema
  /-- The stores in order of declaration. -/
  stores : List Store
  provisioningOrder : List String
  deriving DecidableEq, Repr

namespace Entities

def create (s : Schema) (policy : DuplicatePolicy) : Except SchemaError Entities := do
  let order ← s.provisioningOrder
  let stores ← s.formatNames.mapM fun name =>
    Store.create s.formats s.relations.toList s.options policy name
  return ⟨s, stores, order⟩

def store? (e : Entities) (formatName : String) : Option Store :=
  e.stores.find? (·.format.name == formatName)

def orderedStores (e : Entities) : List Store := e.provisioningOrder.filterMap e.store?

/-- The statements that create all tables. -/
def createStatements (e : Entities) : List String :=
  e.orderedStores.map (·.createStatement) ++ e.schema.relations.joinTables.map (·.render)

/-- The statements that drop all tables, in the opposite order. -/
def dropStatements (e : Entities) : List String :=
  (e.schema.relations.joinTables.map (·.name.renderDrop)).reverse ++
    (e.orderedStores.map (·.dropStatement)).reverse

variable {σ : Type}

def provision (e : Entities) (db : Database σ) (s : σ) : Except StoreError Unit × σ :=
  let (answer, s) := db.batches e.createStatements s
  (answer.mapError .database, s)

def unprovision (e : Entities) (db : Database σ) (s : σ) : Except StoreError Unit × σ :=
  let (answer, s) := db.batches e.dropStatements s
  (answer.mapError .database, s)

end Entities

variable {σ : Type}

def Store.provision (t : Store) (db : Database σ) (s : σ) : Except StoreError Unit × σ :=
  let (answer, s) := db.batch t.createStatement s
  (answer.mapError .database, s)

def Store.unprovision (t : Store) (db : Database σ) (s : σ) : Except StoreError Unit × σ :=
  let (answer, s) := db.batch t.dropStatement s
  (answer.mapError .database, s)

end Schemata
