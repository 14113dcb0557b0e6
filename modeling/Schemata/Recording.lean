import Schemata.Database

/-!
A handle that runs nothing. It logs every statement and answers from a list of responses: the first
whose fragment occurs in the statement decides, and without one there are no rows.
-/
namespace Schemata.Recording

structure Response where
  fragment : String
  answer : Except DbError (List Record)

/-- Whether `part` occurs in `whole`. -/
def occursIn (part : List Char) : List Char → Bool
  | [] => part.isEmpty
  | c :: rest => part.isPrefixOf (c :: rest) || occursIn part rest

def answer (responses : List Response) (sql : String) : Except DbError (List Record) :=
  match responses.find? fun r => occursIn r.fragment.toList sql.toList with
  | some r => r.answer
  | none => .ok []

/-- The recording handle; its state is the log, latest statement last. -/
def database (responses : List Response) : Database (List Statement) where
  rows sql params log := (answer responses sql, log ++ [⟨.rows, sql, params⟩])
  first sql params log := ((answer responses sql).map List.head?, log ++ [⟨.first, sql, params⟩])
  batch sql log := ((answer responses sql).map fun _ => (), log ++ [⟨.batch, sql, []⟩])

end Schemata.Recording
