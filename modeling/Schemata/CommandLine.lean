import Schemata.Files
import Schemata.Entities

/-!
The commands on a schema: to print the script that creates or drops its tables, to list its
relations and the accessors of its stores, and to check that all of this can be built. A command is
a function from what can be read to what is printed.
-/
namespace Schemata

inductive CommandError where
  | invalidArgument (text : String)
  | unreadable (path reason : String)
  | config (e : ConfigError)
  | schema (e : SchemaError)
  deriving DecidableEq, Repr

namespace CommandError

/-- The message for the user, with a hint where there is one. -/
def userMessage : CommandError → String
  | .invalidArgument text => s!"Invalid argument: {text}"
  | .unreadable path reason =>
    s!"Failed to read {path}: {reason}\n\n" ++
      "Hint: Pass '-' to read the schema from stdin."
  | .config e => s!"Configuration error: {e.message}"
  | .schema e => e.userMessage

end CommandError

/-- The path that stands for standard input. -/
def stdinPath : String := "-"

/-- The document to work on, and the configuration file if there is one. -/
structure Source where
  input : String
  config : Option String
  deriving DecidableEq, Repr

namespace Source

def loadConfig (s : Source) (fs : Files) : Except CommandError Config :=
  match s.config with
  | some path => (Config.ofFile fs path).mapError .config
  | none => .ok .standard

def loadText (s : Source) (fs : Files) : Except CommandError String :=
  if s.input = stdinPath then
    fs.stdinText.mapError fun reason => .invalidArgument s!"Failed to read stdin: {reason}"
  else (fs.text s.input).mapError (.unreadable s.input)

/-- The configuration and the validated schema. -/
def load (s : Source) (fs : Files) : Except CommandError (Config × Schema) := do
  let config ← s.loadConfig fs
  let text ← s.loadText fs
  let document ← (Document.parse s.input text).mapError .schema
  let schema ← (document.toSchema config.sql).mapError .schema
  return (config, schema)

end Source

inductive Command where
  | sql (drop : Bool)
  /-- For all stores, or for that of one format. -/
  | inspect (format : Option String)
  | validate
  deriving DecidableEq, Repr

namespace Command

def relationsText (rs : Relations) : String :=
  s!"Relations ({rs.size}):\n" ++ String.join (rs.names.map fun name => s!"  {name}\n")

def accessorsText (formatName : String) (plans : List AccessorPlan) : String :=
  s!"\nStore {formatName} ({plans.length} function(s)):\n" ++
    String.join (plans.map fun p => s!"  {p.name} [{p.role.label}] {p.relation}\n")

/-- The formats to list: a given one must exist. -/
def chosenFormats (s : Schema) : Option String → Except SchemaError (List String)
  | some name => do
    let _ ← s.requireFormat name
    return [name]
  | none => .ok s.formatNames

def sqlText (s : Schema) (drop : Bool) : Except SchemaError String :=
  if drop then s.dropScript else s.createScript

def inspectText (s : Schema) (policy : DuplicatePolicy) (format : Option String) :
    Except SchemaError String := do
  let names ← chosenFormats s format
  let stores ← names.mapM fun name => do
    let plans ← s.plans policy name
    return accessorsText name plans
  return relationsText s.relations ++ String.join stores

def validateText (s : Schema) (policy : DuplicatePolicy) : Except SchemaError String := do
  let _ ← Entities.create s policy
  return s!"Validation successful: {s.formats.length} data format(s), " ++
    s!"{s.relations.size} relation(s)\n"

def text (c : Command) (config : Config) (s : Schema) : Except SchemaError String :=
  match c with
  | .sql drop => sqlText s drop
  | .inspect format => inspectText s config.duplicatePolicy format
  | .validate => validateText s config.duplicatePolicy

/-- What the command prints. -/
def run (c : Command) (source : Source) (fs : Files) : Except CommandError String := do
  let (config, schema) ← source.load fs
  (c.text config schema).mapError .schema

end Command

/-! ### Arguments -/

/-- A command with what it works on. -/
structure Invocation where
  command : Command
  source : Source
  deriving DecidableEq, Repr

namespace Invocation

/-- The arguments behind the name of a command. -/
structure Arguments where
  input : Option String
  config : Option String
  format : Option String
  drop : Bool

/-- Each option stands once at most, and one word is no option. -/
def gather? (a : Arguments) : List String → Option Arguments
  | [] => some a
  | "--drop" :: rest => if a.drop then none else gather? { a with drop := true } rest
  | word :: rest =>
    if word = "-c" ∨ word = "--config" then
      match rest with
      | value :: rest =>
        if a.config.isSome then none else gather? { a with config := some value } rest
      | [] => none
    else if word = "-f" ∨ word = "--format" then
      match rest with
      | value :: rest =>
        if a.format.isSome then none else gather? { a with format := some value } rest
      | [] => none
    else if word.startsWith "-" && word != stdinPath then none
    else if a.input.isSome then none
    else gather? { a with input := some word } rest

def parse? : List String → Option Invocation
  | [] => none
  | name :: rest => do
    let a ← gather? ⟨none, none, none, false⟩ rest
    let source : Source := ⟨← a.input, a.config⟩
    if name = "sql" ∧ a.format.isNone then some ⟨.sql a.drop, source⟩
    else if name = "inspect" ∧ !a.drop then some ⟨.inspect a.format, source⟩
    else if name = "validate" ∧ !a.drop ∧ a.format.isNone then some ⟨.validate, source⟩
    else none

def usage : String :=
  "Usage:\n" ++
    "  sql INPUT [--config FILE] [--drop]\n" ++
    "  inspect INPUT [--config FILE] [--format NAME]\n" ++
    "  validate INPUT [--config FILE]\n" ++
    "INPUT is a schema document in YAML or JSON, or '-' for standard input.\n"

end Invocation

end Schemata
