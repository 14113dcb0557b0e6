import Schemata.Tree
import Schemata.DataFormat
import Schemata.Relation.Declaration

/-!
Schema documents: formats and relation declarations as they are written down, before validation.
Each part has a reader from trees and a writer to trees. A writer leaves out what is absent, a
reader passes over fields it does not know.
-/
namespace Schemata

structure Document where
  formats : List DataFormat
  relations : List Declaration
  deriving DecidableEq, Repr

/-- A field of a record that is left out when it is absent. -/
def Tree.entry? (name : String) (value : Option Tree) : List (String × Tree) :=
  match value with
  | some t => [(name, t)]
  | none => []

namespace Field

def fieldNames : List String := ["name", "data_type", "max_length", "allow_null", "unique"]

def toTree (f : Field) : Tree :=
  .record <|
    [("name", .text f.name), ("data_type", .text f.dataType.name)] ++
    Tree.entry? "max_length" (f.maxLength.map fun n => .nat n.toNat) ++
    [("allow_null", .bool f.allowNull), ("unique", .bool f.unique)]

def ofTree? (t : Tree) : Option Field := do
  let fields ← t.fields? fieldNames
  let name ← Tree.require? fields "name" Tree.text?
  let dataType ← Tree.require? fields "data_type" fun t => t.word?.bind DataType.ofName?
  let maxLength ← Tree.withDefault? fields "max_length" none (Tree.optional? Tree.uint32?)
  let allowNull ← Tree.withDefault? fields "allow_null" false Tree.bool?
  let unique ← Tree.withDefault? fields "unique" false Tree.bool?
  return ⟨name, dataType, maxLength, allowNull, unique⟩

end Field

namespace DataFormat

def fieldNames : List String := ["name", "plural_name", "fields"]

def toTree (f : DataFormat) : Tree :=
  .record <|
    [("name", .text f.name)] ++ Tree.entry? "plural_name" (f.pluralName.map .text) ++
    [("fields", .list (f.fields.map Field.toTree))]

def ofTree? (t : Tree) : Option DataFormat := do
  let entries ← t.fields? fieldNames
  let name ← Tree.require? entries "name" Tree.text?
  let pluralName ← Tree.withDefault? entries "plural_name" none (Tree.optional? Tree.text?)
  let fields ← Tree.require? entries "fields" (Tree.listOf? Field.ofTree?)
  return ⟨name, pluralName, fields⟩

end DataFormat

namespace Shape

/-- The names of the two fields and of the accessors that lead to them, in this order. -/
def fieldNames : Shape → List String
  | .manyToMany =>
    ["field_ref1", "field_ref2", "get_related_field_ref1_records_name",
      "get_related_field_ref2_records_name"]
  | .oneToMany =>
    ["from_one_field", "to_many_field", "get_related_from_one_record_name",
      "get_related_to_many_records_name"]
  | .oneToOne =>
    ["from_one_field", "to_one_field", "get_related_from_one_record_name",
      "get_related_to_one_record_name"]

end Shape

namespace Declaration

/-- The key under which a declaration names its shape. -/
def shapeKey : String := "type"

def toTree (d : Declaration) : Tree :=
  let name (i : Nat) : String := d.shape.fieldNames.getD i ""
  .record <|
    [(shapeKey, .text d.shape.name), (name 0, .text d.first.field.render),
      (name 1, .text d.second.field.render)] ++
    Tree.entry? (name 2) (d.first.accessorName.map .text) ++
    Tree.entry? (name 3) (d.second.accessorName.map .text)

/-- Reads the fields of a declaration whose shape is known. -/
def ofFields? (shape : Shape) (t : Tree) : Option Declaration := do
  let name (i : Nat) : String := shape.fieldNames.getD i ""
  let entries ← t.fields? shape.fieldNames
  let ref (t : Tree) : Option FieldRef := t.text?.bind FieldRef.parse?
  let first ← Tree.require? entries (name 0) ref
  let second ← Tree.require? entries (name 1) ref
  let firstName ← Tree.withDefault? entries (name 2) none (Tree.optional? Tree.text?)
  let secondName ← Tree.withDefault? entries (name 3) none (Tree.optional? Tree.text?)
  return ⟨shape, ⟨first, firstName⟩, ⟨second, secondName⟩⟩

def isShapeKey : Tree → Bool
  | .scalar s => s.atom = some (.text shapeKey)
  | _ => false

/-- The shape a declaration names, and the rest of it as it reads without expectations. The shape
may stand anywhere among the entries of a map, and stands first in a list. -/
def shape? (t : Tree) : Option (Shape × Tree) :=
  let shapeOf (t : Tree) : Option Shape := t.text?.bind Shape.ofName?
  match t with
  | .map _ entries =>
    match entries.filter fun e => isShapeKey e.1 with
    | [(_, t)] => do
      let shape ← shapeOf t
      let rest ← Tree.settle? (.map none (entries.filter fun e => !isShapeKey e.1))
      return (shape, rest)
    | _ => none
  | .list (t :: items) => do
    let shape ← shapeOf t
    let rest ← Tree.settle? (.list items)
    return (shape, rest)
  | _ => none

def ofTree? (t : Tree) : Option Declaration := do
  let (shape, rest) ← shape? t
  ofFields? shape rest

end Declaration

namespace Document

def fieldNames : List String := ["data_formats", "relations"]

def toTree (d : Document) : Tree :=
  .record
    [("data_formats", .list (d.formats.map DataFormat.toTree)),
      ("relations", .list (d.relations.map Declaration.toTree))]

def ofTree? (t : Tree) : Option Document := do
  let entries ← t.fields? fieldNames
  let formats ← Tree.require? entries "data_formats" (Tree.listOf? DataFormat.ofTree?)
  let relations ← Tree.withDefault? entries "relations" [] (Tree.listOf? Declaration.ofTree?)
  return ⟨formats, relations⟩

end Document

end Schemata
