import Schemata.Sql.Table

/-!
The row statements of a store as data, and their text. Every statement but an insertion takes at
most one parameter, the value that a column is compared with.
-/
namespace Schemata.Sql

/-- How the rows related to a value are found: by a column of their own table, or by way of a join
table, whose `linkColumn` meets the row's `column` and whose `valueColumn` holds the value. -/
inductive Route where
  | direct (column : String)
  | through (joinTable : TableName) (linkColumn column valueColumn : String)
  deriving DecidableEq, Repr

inductive Query where
  | all (table : TableName) (columns : List String)
  | matching (table : TableName) (columns : List String) (column : String)
  | related (table : TableName) (columns : List String) (route : Route)
  | insert (table : TableName) (values : List String) (returning : List String)
  | delete (table : TableName) (column : String) (returning : List String)
  deriving DecidableEq, Repr

def commaList (xs : List String) : String := String.intercalate ", " xs

/-- `$1, $2, …` for `n` parameters. -/
def placeholders (n : Nat) : List String := (List.range n).map fun i => s!"${i + 1}"

/-- A column of the table whose rows are selected. -/
def aliased (column : String) : String := "r." ++ column

def Query.render : Query → String
  | .all table columns => s!"SELECT {commaList columns} FROM {table.render}"
  | .matching table columns column =>
    s!"SELECT {commaList columns} FROM {table.render} WHERE {column} = $1"
  | .related table columns route =>
    s!"SELECT {commaList (columns.map aliased)} FROM {table.render} r" ++
    match route with
    | .direct column => s!" WHERE r.{column} = $1"
    | .through joinTable linkColumn column valueColumn =>
      s!" JOIN {joinTable.render} j ON j.{linkColumn} = r.{column} WHERE j.{valueColumn} = $1"
  | .insert table values returning =>
    s!"INSERT INTO {table.render} " ++
    (match values with
      | [] => "DEFAULT VALUES"
      | _ => s!"({commaList values}) VALUES ({commaList (placeholders values.length)})") ++
    s!" RETURNING {commaList returning}"
  | .delete table column returning =>
    s!"DELETE FROM {table.render} WHERE {column} = $1 RETURNING {commaList returning}"

end Schemata.Sql
