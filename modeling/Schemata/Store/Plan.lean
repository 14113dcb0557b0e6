import Schemata.Schema
import Schemata.Sql.Query

/-!
The accessors of a store, planned before they are tied to a database. A store has one accessor for
each end of a relation on which its format stands. Accessors are listed by role and within a role by
declaration.
-/
namespace Schemata

structure AccessorPlan where
  name : String
  relation : String
  role : Role
  /-- The format of the related records. -/
  target : String
  query : Sql.Query
  deriving DecidableEq, Repr

namespace Declaration

/-- How the rows on the far end are found from a value on the near end. -/
def route (d : Declaration) (o : SqlOptions) (near far : FieldRef) : Sql.Route :=
  if d.shape = .manyToMany then
    .through (o.qualify d.joinTableName) far.joinColumn far.columnName near.joinColumn
  else .direct far.columnName

/-- The statement that finds the related rows for a role of this shape. -/
def select? (d : Declaration) (formats : List DataFormat) (o : SqlOptions) (r : Role) :
    Option (Except SchemaError Sql.Query) :=
  (d.seenFrom? r).map fun (near, far) =>
    match DataFormat.find? formats far.field.formatName with
    | none => .error (.unknownFormat far.field.formatName)
    | some f =>
      .ok (.related (o.qualify f.tableName) f.columnNames (d.route o near.field far.field))

/-- The plan for a role of this shape. -/
def plan? (d : Declaration) (formats : List DataFormat) (o : SqlOptions) (r : Role) :
    Option (Except SchemaError AccessorPlan) := do
  let name ← d.accessorName? r
  let (_, far) ← d.seenFrom? r
  let query ← d.select? formats o r
  return query.map fun q => ⟨name, d.name, r, far.field.formatName, q⟩

end Declaration

namespace AccessorPlan

/-- The roles that a format plays, each with its relation, in the order of accessors. -/
def occasions (rs : List Relation) (formatName : String) : List (Role × Relation) :=
  Role.all.flatMap fun role =>
    ((Relations.relevantTo rs formatName).filter fun r =>
      (r.declaration.rolesOf formatName).contains role).map (role, ·)

/-- Puts a plan in the place of the one with its name. -/
def replace (plans : List AccessorPlan) (p : AccessorPlan) : List AccessorPlan :=
  plans.map fun q => if q.name = p.name then p else q

/-- Adds a plan. If its name is taken the policy decides. -/
def add (policy : DuplicatePolicy) (formatName : String) (plans : List AccessorPlan)
    (p : AccessorPlan) : Except SchemaError (List AccessorPlan) :=
  match plans.find? (·.name == p.name), policy with
  | none, _ => .ok (plans ++ [p])
  | some q, .fail => .error (.duplicateAccessor formatName p.name q.relation p.relation)
  | some _, .overwrite => .ok (replace plans p)

/-- Plans the accessors for the given occasions, after those in `plans`. -/
def collect (formats : List DataFormat) (o : SqlOptions) (policy : DuplicatePolicy)
    (formatName : String) (plans : List AccessorPlan) :
    List (Role × Relation) → Except SchemaError (List AccessorPlan)
  | [] => .ok plans
  | (role, r) :: rest =>
    match r.declaration.plan? formats o role with
    | none => collect formats o policy formatName plans rest
    | some plan => do
      let plans ← add policy formatName plans (← plan)
      collect formats o policy formatName plans rest

/-- The accessors of the store of a format. -/
def planAll (formats : List DataFormat) (rs : List Relation) (o : SqlOptions)
    (policy : DuplicatePolicy) (formatName : String) : Except SchemaError (List AccessorPlan) :=
  match DataFormat.find? formats formatName with
  | none => .error (.unknownFormat formatName)
  | some _ => collect formats o policy formatName [] (occasions rs formatName)

end AccessorPlan

def Schema.plans (s : Schema) (policy : DuplicatePolicy) (formatName : String) :
    Except SchemaError (List AccessorPlan) :=
  AccessorPlan.planAll s.formats s.relations.toList s.options policy formatName

end Schemata
