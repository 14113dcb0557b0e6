import Schemata.Postgres.Handle

/-!
A server that follows a script: it knows a list of statements with their types and rows, and logs
what it receives.
-/
namespace Schemata.Postgres.Scripted

structure Script where
  sql : String
  prepared : Prepared
  rows : List (List Cell)
  /-- Whether the statement is refused at once. -/
  fails : Bool
  /-- Whether it is refused when it runs. -/
  failsToRun : Bool

/-- What the server receives. -/
inductive Received where
  | bound (cells : List Cell)
  | batch (sql : String)
  deriving DecidableEq, Repr

/-- The server's word for any error of its own. -/
def refusal : String := "db error"

def find? (scripts : List Script) (sql : String) : Option Script :=
  scripts.find? (·.sql == sql)

/-- The state of the connection is the log, latest entry last. A batch that no script knows
succeeds. -/
def connection (scripts : List Script) : Connection (List Received) where
  prepare sql log :=
    match find? scripts sql with
    | some s => (if s.fails then .error refusal else .ok s.prepared, log)
    | none => (.error refusal, log)
  execute sql cells log :=
    match find? scripts sql with
    | some s => (if s.failsToRun then .error refusal else .ok s.rows, log ++ [.bound cells])
    | none => (.error refusal, log)
  batch sql log :=
    (if (find? scripts sql).any (·.fails) then .error refusal else .ok (), log ++ [.batch sql])

end Schemata.Postgres.Scripted
