import Schemata.Relation.Basic
import Schemata.Error

/-!
The relations of a schema: relations of distinct names in order of declaration, and the selections
that stores and table definitions make among them.
-/
namespace Schemata

structure Relations where
  toList : List Relation
  nodup : (toList.map Relation.name).Nodup
  deriving DecidableEq, Repr

namespace Relations

def empty : Relations := ⟨[], List.nodup_nil⟩

def size (rs : Relations) : Nat := rs.toList.length

def names (rs : Relations) : List String := rs.toList.map (·.name)

def get? (rs : Relations) (name : String) : Option Relation := rs.toList.find? (·.name == name)

/-- Adds a relation at the end. A name that is taken is refused. -/
def insert (rs : Relations) (r : Relation) : Except SchemaError Relations :=
  if h : r.name ∈ rs.toList.map Relation.name then .error (.duplicateRelation r.name)
  else .ok ⟨rs.toList ++ [r], by
    rw [List.map_append, List.nodup_append]
    refine ⟨rs.nodup, by simp, ?_⟩
    intro a ha b hb e
    simp only [List.map_cons, List.map_nil, List.mem_singleton] at hb
    exact h (hb ▸ e ▸ ha)⟩

def ofDeclarations (ds : List Declaration) (o : SqlOptions) : Except SchemaError Relations :=
  ds.foldlM (fun rs d => rs.insert (d.relation o)) empty

theorem toList_insert {rs rs' : Relations} {r : Relation} (h : rs.insert r = .ok rs') :
    rs'.toList = rs.toList ++ [r] := by
  unfold insert at h
  split at h
  · simp at h
  · simp only [Except.ok.injEq] at h
    rw [← h]

/-- The relations in which the format stands on one of the ends. -/
def relevantTo (rs : List Relation) (formatName : String) : List Relation :=
  rs.filter (·.declaration.involves formatName)

/-- The relations that put a foreign key on the table of the format. -/
def imposingOn (rs : List Relation) (formatName : String) : List Relation :=
  rs.filter (·.imposesOn formatName)

def joinTables (rs : Relations) : List Sql.CreateTable := rs.toList.filterMap (·.joinTable?)

end Relations

end Schemata
