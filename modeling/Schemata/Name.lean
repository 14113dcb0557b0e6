import Schemata.Text.Words
import Schemata.Text.Pattern

/-!
Names. Formats and fields are declared in lower camel case; their tables and columns are called by
the snake case of those names. Names end up unquoted in SQL, so what may be declared is narrow:
`declared` accepts no consecutive capitals, which makes the way from a name to its column
reversible, and no identifier may exceed the length at which the database cuts identifiers off.
-/
namespace Schemata

open Text

namespace Name

def table (formatName : String) : String := snakeCase formatName

def column (fieldName : String) : String := snakeCase fieldName

/-- The field name given to a column that no declared field owns. -/
def ofColumn (column : String) : String := lowerCamelCase column

/-- The longest identifier, in bytes, that the database keeps whole. -/
def maxLength : Nat := 63

/-- Lower camel case: a lower case letter, then humps of a capital followed by lower case letters
or digits; one capital may stand at the end. -/
def declared : Pattern :=
  let low : Pattern := .one Char.isLower
  let lowOrDigit : Pattern := .one fun c => c.isLower || c.isDigit
  let capital : Pattern := .one Char.isUpper
  .seq low (.seq (.many lowOrDigit)
    (.seq (.many (.seq capital (.some lowOrDigit))) (.optional capital)))

/-- Letters, digits and underscores, no digit in front. -/
def function : Pattern :=
  .seq (.one fun c => c.isAlpha || c == '_') (.many (.one fun c => c.isAlphanum || c == '_'))

/-- What a checked name is the name of. -/
inductive Kind where
  | dataFormat | field | function | joinTable | joinColumn | constraint
  deriving DecidableEq, Repr

def Kind.label : Kind → String
  | .dataFormat => "Data format"
  | .field => "Field"
  | .function => "Function"
  | .joinTable => "Join table"
  | .joinColumn => "Join column"
  | .constraint => "Constraint"

/-- Why a name cannot be used. -/
inductive Fault where
  | empty (kind : Kind)
  | tooLong (kind : Kind) (name : String)
  | notLowerCamelCase (kind : Kind) (name : String)
  | invalidFunctionName (name : String)
  deriving DecidableEq, Repr

def Fault.message : Fault → String
  | .empty kind => s!"{kind.label} name cannot be empty"
  | .tooLong kind name =>
    s!"{kind.label} name '{name}' is too long " ++
      s!"(max {maxLength} characters as a column or table name)"
  | .notLowerCamelCase kind name =>
    s!"{kind.label} name '{name}' must be lower camel case (letters and digits, " ++
      "starting with a lowercase letter, no consecutive capitals)"
  | .invalidFunctionName name =>
    s!"Function name '{name}' may only contain letters, digits and underscores"

/-- Checks the name of a format or a field. -/
def checkDeclared (kind : Kind) (name : String) : Except Fault Unit :=
  if name.isEmpty then .error (.empty kind)
  else if !declared.accepts name.toList then .error (.notLowerCamelCase kind name)
  else if maxLength < (column name).utf8ByteSize then .error (.tooLong kind name)
  else .ok ()

/-- Checks an identifier built from declared names. Only its length can be at fault. -/
def checkGenerated (kind : Kind) (identifier : String) : Except Fault Unit :=
  if maxLength < identifier.utf8ByteSize then .error (.tooLong kind identifier) else .ok ()

/-- Checks an explicit accessor name. -/
def checkFunction (name : String) : Except Fault Unit :=
  if name.isEmpty then .error (.empty .function)
  else if !function.accepts name.toList then .error (.invalidFunctionName name)
  else .ok ()

end Name

end Schemata
