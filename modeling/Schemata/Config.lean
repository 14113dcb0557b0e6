import Schemata.Tree
import Schemata.Options

/-!
Configuration: options gathered from a document. Every field may be missing, and so may every
section.
-/
namespace Schemata

namespace SqlOptions

def fieldNames : List String := ["enable_sql", "schema", "tablespace", "owner"]

def ofTree? (t : Tree) : Option SqlOptions := do
  let fields ← t.fields? fieldNames
  let enableSql ← Tree.withDefault? fields "enable_sql" standard.enableSql Tree.bool?
  let schema ← Tree.withDefault? fields "schema" standard.schema Tree.text?
  let tablespace ←
    Tree.withDefault? fields "tablespace" standard.tablespace (Tree.optional? Tree.text?)
  let owner ← Tree.withDefault? fields "owner" standard.owner (Tree.optional? Tree.text?)
  return ⟨enableSql, schema, tablespace, owner⟩

end SqlOptions

namespace DuplicatePolicy

def name : DuplicatePolicy → String
  | .fail => "fail"
  | .overwrite => "overwrite"

def ofName? (s : String) : Option DuplicatePolicy :=
  [fail, overwrite].find? (·.name == s)

def ofTree? (t : Tree) : Option DuplicatePolicy := t.word?.bind ofName?

end DuplicatePolicy

namespace ConnectionOptions

def fieldNames : List String := ["url", "max_connections"]

def ofTree? (t : Tree) : Option ConnectionOptions := do
  let fields ← t.fields? fieldNames
  let url ← Tree.withDefault? fields "url" standard.url (Tree.optional? Tree.text?)
  let maxConnections ←
    Tree.withDefault? fields "max_connections" standard.maxConnections Tree.uint64?
  return ⟨url, maxConnections⟩

end ConnectionOptions

structure Config where
  sql : SqlOptions
  duplicatePolicy : DuplicatePolicy
  database : ConnectionOptions
  deriving DecidableEq, Repr

namespace Config

def standard : Config := ⟨.standard, .fail, .standard⟩

def storeFieldNames : List String := ["duplicate_function_names"]

def storesOfTree? (t : Tree) : Option DuplicatePolicy := do
  let fields ← t.fields? storeFieldNames
  Tree.withDefault? fields "duplicate_function_names" standard.duplicatePolicy
    DuplicatePolicy.ofTree?

def fieldNames : List String := ["sql", "stores", "database"]

def ofTree? (t : Tree) : Option Config := do
  let fields ← t.fields? fieldNames
  let sql ← Tree.withDefault? fields "sql" standard.sql SqlOptions.ofTree?
  let duplicatePolicy ←
    Tree.withDefault? fields "stores" standard.duplicatePolicy storesOfTree?
  let database ← Tree.withDefault? fields "database" standard.database ConnectionOptions.ofTree?
  return ⟨sql, duplicatePolicy, database⟩

end Config

end Schemata
