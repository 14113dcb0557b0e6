import Schemata.Validation
import Schemata.Ordering
import Schemata.Document

/-!
Schemas: formats and relations that have passed validation, with the options for their SQL.
-/
namespace Schemata

structure Schema where
  formats : List DataFormat
  relations : Relations
  options : SqlOptions
  deriving DecidableEq, Repr

namespace Schema

/-- Validates formats and declarations and builds the relations. -/
def create (formats : List DataFormat) (declarations : List Declaration) (options : SqlOptions) :
    Except SchemaError Schema := do
  Validation.formats [] formats
  Validation.declarations formats [] declarations
  let relations ← Relations.ofDeclarations declarations options
  return ⟨formats, relations, options⟩

def formatNames (s : Schema) : List String := s.formats.map (·.name)

def format? (s : Schema) (name : String) : Option DataFormat := DataFormat.find? s.formats name

def requireFormat (s : Schema) (name : String) : Except SchemaError DataFormat :=
  match s.format? name with
  | some f => .ok f
  | none => .error (.unknownFormat name)

def declarations (s : Schema) : List Declaration := s.relations.toList.map (·.declaration)

/-- The document that declares the schema. -/
def document (s : Schema) : Document := ⟨s.formats, s.declarations⟩

def provisioningOrder (s : Schema) : Except SchemaError (List String) :=
  Schemata.provisioningOrder s.formatNames s.relations.toList

end Schema

/-- The schema that a document declares. -/
def Document.toSchema (d : Document) (options : SqlOptions) : Except SchemaError Schema :=
  Schema.create d.formats d.relations options

end Schemata
