import Schemata.Name
import Schemata.Sql.Table

/-!
Fields of a format and their columns. A serial field numbers the rows of its table and is always
the primary key.
-/
namespace Schemata

inductive DataType where
  | serial | integer | bigInt | float | boolean | text
  /-- Text whose length a field may bound. -/
  | varchar
  | uuid | date | timestamp | timestampTz | json
  deriving DecidableEq, Repr

namespace DataType

def all : List DataType :=
  [.serial, .integer, .bigInt, .float, .boolean, .text, .varchar, .uuid, .date, .timestamp,
    .timestampTz, .json]

/-- The name of the type in a schema document. -/
def name : DataType → String
  | .serial => "serial"
  | .integer => "integer"
  | .bigInt => "big_int"
  | .float => "float"
  | .boolean => "boolean"
  | .text => "text"
  | .varchar => "varchar"
  | .uuid => "uuid"
  | .date => "date"
  | .timestamp => "timestamp"
  | .timestampTz => "timestamp_tz"
  | .json => "json"

def ofName? (s : String) : Option DataType := all.find? (·.name == s)

theorem mem_all (t : DataType) : t ∈ all := by cases t <;> decide

theorem ofName?_name (t : DataType) : ofName? t.name = some t := by cases t <;> decide

/-- The column type. Only `varchar` heeds a maximal length. -/
def sqlType (t : DataType) (maxLength : Option UInt32) : String :=
  match t with
  | .serial => "SERIAL"
  | .integer => "integer"
  | .bigInt => "bigint"
  | .float => "double precision"
  | .boolean => "boolean"
  | .text => "text"
  | .varchar =>
    match maxLength with
    | some n => s!"character varying({n.toNat})"
    | none => "character varying"
  | .uuid => "uuid"
  | .date => "date"
  | .timestamp => "timestamp without time zone"
  | .timestampTz => "timestamp with time zone"
  | .json => "jsonb"

end DataType

structure Field where
  name : String
  dataType : DataType
  maxLength : Option UInt32
  allowNull : Bool
  unique : Bool
  deriving DecidableEq, Repr

namespace Field

def columnName (f : Field) : String := Name.column f.name

def isSerial (f : Field) : Bool := f.dataType == .serial

def column (f : Field) : Sql.Column :=
  ⟨f.columnName, f.dataType.sqlType f.maxLength, f.isSerial, f.allowNull, f.unique⟩

end Field

end Schemata
