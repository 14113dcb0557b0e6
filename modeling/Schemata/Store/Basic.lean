import Schemata.Store.Plan
import Schemata.Script
import Schemata.Database

/-!
Stores: the operations on the records of one format. Each operation either is refused, because it
names a field or an accessor that does not exist, or is a single request to the database.
-/
namespace Schemata

structure Accessor where
  plan : AccessorPlan
  /-- The format of the related records. -/
  target : DataFormat
  deriving DecidableEq, Repr

structure Store where
  format : DataFormat
  options : SqlOptions
  accessors : List Accessor
  createTable : Sql.CreateTable
  deriving DecidableEq, Repr

/-- The records that an accessor finds. -/
inductive Related where
  | one (record : Option Record)
  | many (records : List Record)

namespace Related

def toList : Related → List Record
  | .one record => record.toList
  | .many records => records

def first? : Related → Option Record
  | .one record => record
  | .many records => records.head?

def size (r : Related) : Nat := r.toList.length

def isEmpty (r : Related) : Bool := r.size == 0

end Related

namespace Store

/-- Builds the store of a format from parts that need not have been validated. -/
def create (formats : List DataFormat) (rs : List Relation) (o : SqlOptions)
    (policy : DuplicatePolicy) (formatName : String) : Except SchemaError Store := do
  let format ← match DataFormat.find? formats formatName with
    | some f => pure f
    | none => throw (.unknownFormat formatName)
  let plans ← AccessorPlan.planAll formats rs o policy formatName
  let accessors ← plans.mapM fun p =>
    match DataFormat.find? formats p.target with
    | some target => Except.ok (⟨p, target⟩ : Accessor)
    | none => .error (SchemaError.unknownFormat p.target)
  return ⟨format, o, accessors, format.createTable (Relations.imposingOn rs format.name) o⟩

def table (s : Store) : Sql.TableName := s.options.qualify s.format.tableName

def columns (s : Store) : List String := s.format.columnNames

def accessor? (s : Store) (name : String) : Option Accessor :=
  s.accessors.find? (·.plan.name == name)

def createStatement (s : Store) : String := s.createTable.render

def dropStatement (s : Store) : String := s.table.renderDrop

def column (s : Store) (field : String) : Except StoreError String :=
  match s.format.field? field with
  | some f => .ok f.columnName
  | none => .error (.unknownField s.format.name field)

def readRows (s : Store) (rows : List Record) : List Record := rows.map s.format.recordOfRow

def readRow (s : Store) (row : Option Record) : Option Record := row.map s.format.recordOfRow

def getAll (s : Store) : Request (List Record) :=
  .rows (Sql.Query.all s.table s.columns).render [] s.readRows

/-- The first record whose field has the value. -/
def getBy (s : Store) (field : String) (value : Json) :
    Except StoreError (Request (Option Record)) := do
  let column ← s.column field
  return .first (Sql.Query.matching s.table s.columns column).render [value] s.readRow

/-- All records whose field has the value. -/
def getManyBy (s : Store) (field : String) (value : Json) :
    Except StoreError (Request (List Record)) := do
  let column ← s.column field
  return .rows (Sql.Query.matching s.table s.columns column).render [value] s.readRows

/-- Deletes the records whose field has the value and gives them back. -/
def deleteBy (s : Store) (field : String) (value : Json) :
    Except StoreError (Request (List Record)) := do
  let column ← s.column field
  return .rows (Sql.Query.delete s.table column s.columns).render [value] s.readRows

/-- The columns that a record fills, with their values, in field order. A serial column without a
value is left to the database. -/
def assignments (s : Store) (record : Record) : List (String × Json) :=
  s.format.fields.filterMap fun f =>
    match Dict.find? record f.name with
    | some value => if f.isSerial && value.isNull then none else some (f.columnName, value)
    | none => none

/-- Stores a record and gives it back as stored. -/
def add (s : Store) (record : Record) : Except StoreError (Request (Option Record)) :=
  match (Dict.keys record).find? fun key => !s.format.hasField key with
  | some key => .error (.unknownField s.format.name key)
  | none =>
    let values := s.assignments record
    .ok (.first (Sql.Query.insert s.table (values.map (·.1)) s.columns).render
      (values.map (·.2)) s.readRow)

end Store

namespace Accessor

/-- The request for the records related to a value. -/
def call (a : Accessor) (value : Json) : Request Related :=
  if a.plan.role.returnsMany then
    .rows a.plan.query.render [value] fun rows => .many (rows.map a.target.recordOfRow)
  else
    .first a.plan.query.render [value] fun row => .one (row.map a.target.recordOfRow)

end Accessor

/-- The records that an accessor of the store relates to a value. -/
def Store.call (s : Store) (name : String) (value : Json) : Except StoreError (Request Related) :=
  match s.accessor? name with
  | some a => .ok (a.call value)
  | none => .error (.unknownFunction s.format.name name)

end Schemata
