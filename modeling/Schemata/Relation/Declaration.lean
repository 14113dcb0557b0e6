import Schemata.FieldRef

/-!
Declarations of relations. A relation joins two fields in one of three shapes. Its two ends are
alike: each is a field and, if one is wished, the name of the accessor that leads to it from the
other end. A role is one end of one shape.
-/
namespace Schemata

inductive Shape where
  | manyToMany | oneToMany | oneToOne
  deriving DecidableEq, Repr

namespace Shape

def all : List Shape := [.manyToMany, .oneToMany, .oneToOne]

/-- The name of the shape in a schema document. -/
def name : Shape → String
  | .manyToMany => "MANY_TO_MANY"
  | .oneToMany => "ONE_TO_MANY"
  | .oneToOne => "ONE_TO_ONE"

def ofName? (s : String) : Option Shape := all.find? (·.name == s)

theorem ofName?_name (s : Shape) : ofName? s.name = some s := by cases s <;> decide

/-- The arrow between the fields in the name of a relation. -/
def arrow : Shape → String
  | .manyToMany => "<<-->>"
  | .oneToMany => "<-->>"
  | .oneToOne => "<-->"

end Shape

/-- The ends of a relation in the order in which they are declared. -/
inductive Side where
  | first | second
  deriving DecidableEq, Repr

def Side.other : Side → Side
  | .first => .second
  | .second => .first

@[simp] theorem Side.other_other (s : Side) : s.other.other = s := by cases s <;> rfl

/-- The end of a relation on which a format stands. -/
structure Role where
  shape : Shape
  side : Side
  deriving DecidableEq, Repr

namespace Role

/-- All roles, in the order in which a store lists its accessors. -/
def all : List Role :=
  [⟨.oneToOne, .first⟩, ⟨.oneToOne, .second⟩, ⟨.oneToMany, .first⟩, ⟨.oneToMany, .second⟩,
    ⟨.manyToMany, .first⟩, ⟨.manyToMany, .second⟩]

theorem mem_all (r : Role) : r ∈ all := by
  obtain ⟨shape, side⟩ := r
  cases shape <;> cases side <;> decide

def label : Role → String
  | ⟨.oneToOne, .first⟩ => "one-to-one (from one)"
  | ⟨.oneToOne, .second⟩ => "one-to-one (to one)"
  | ⟨.oneToMany, .first⟩ => "one-to-many (from one)"
  | ⟨.oneToMany, .second⟩ => "one-to-many (to many)"
  | ⟨.manyToMany, .first⟩ => "many-to-many (field ref 1)"
  | ⟨.manyToMany, .second⟩ => "many-to-many (field ref 2)"

/-- Whether one value on this end can be related to several records on the other. -/
def returnsMany (r : Role) : Bool :=
  match r.shape with
  | .manyToMany => true
  | .oneToMany => r.side == .first
  | .oneToOne => false

end Role

structure Endpoint where
  field : FieldRef
  /-- The name of the accessor that leads to this end, where the default is not wanted. -/
  accessorName : Option String
  deriving DecidableEq, Repr

structure Declaration where
  shape : Shape
  first : Endpoint
  second : Endpoint
  deriving DecidableEq, Repr

namespace Declaration

def endpoint (d : Declaration) : Side → Endpoint
  | .first => d.first
  | .second => d.second

/-- The name of the relation: its fields with the arrow of its shape between them. -/
def name (d : Declaration) : String :=
  s!"{d.first.field.render} {d.shape.arrow} {d.second.field.render}"

/-- Whether the format stands on one of the ends. -/
def involves (d : Declaration) (formatName : String) : Bool :=
  d.first.field.formatName == formatName || d.second.field.formatName == formatName

/-- The field that holds the foreign key; many-to-many relations have theirs in a join table. -/
def holder? (d : Declaration) : Option FieldRef :=
  if d.shape = .manyToMany then none else some d.second.field

/-- The field that the foreign key refers to. -/
def referenced? (d : Declaration) : Option FieldRef :=
  if d.shape = .manyToMany then none else some d.first.field

/-- The sides on which the format stands. -/
def sidesOf (d : Declaration) (formatName : String) : List Side :=
  [Side.first, Side.second].filter fun s => (d.endpoint s).field.formatName == formatName

/-- The roles that the format plays, two if it stands on both ends. -/
def rolesOf (d : Declaration) (formatName : String) : List Role :=
  (d.sidesOf formatName).map fun s => ⟨d.shape, s⟩

/-- The near and the far end seen from a role, if the role is one of this shape. -/
def seenFrom? (d : Declaration) (r : Role) : Option (Endpoint × Endpoint) :=
  if r.shape = d.shape then some (d.endpoint r.side, d.endpoint r.side.other) else none

/-- The declared name of the accessor that a role's store has. -/
def override? (d : Declaration) (r : Role) : Option String :=
  (d.seenFrom? r).bind fun (_, far) => far.accessorName

/-- The name of the accessor that a role's store has: the declared one, or one made of the far
end. -/
def accessorName? (d : Declaration) (r : Role) : Option String :=
  (d.seenFrom? r).map fun (_, far) =>
    far.accessorName.getD <|
      s!"getRelated{Text.capitalize far.field.formatName}" ++
      (if r.returnsMany then "Records" else "Record") ++
      s!"On{Text.capitalize far.field.fieldName}"

end Declaration

end Schemata
