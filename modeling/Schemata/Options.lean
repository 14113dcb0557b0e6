/-!
Options of the generated SQL, of store generation and of the database connection. The defaults are
those of a fresh PostgreSQL installation.
-/
namespace Schemata

structure SqlOptions where
  /-- Whether relations carry DDL. -/
  enableSql : Bool
  /-- The schema that qualifies every table. -/
  schema : String
  tablespace : Option String
  owner : Option String
  deriving DecidableEq, Repr

namespace SqlOptions

def standard : SqlOptions := ⟨true, "public", some "pg_default", some "postgres"⟩

end SqlOptions

/-- What happens when two relations give one store two accessors of one name. -/
inductive DuplicatePolicy where
  /-- The store is refused. -/
  | fail
  /-- The later accessor replaces the earlier one. -/
  | overwrite
  deriving DecidableEq, Repr

structure ConnectionOptions where
  url : Option String
  maxConnections : UInt64
  deriving DecidableEq, Repr

def ConnectionOptions.standard : ConnectionOptions := ⟨none, 8⟩

end Schemata
