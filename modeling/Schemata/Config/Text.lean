import Schemata.Config
import Schemata.Toml.Reader

/-!
Configuration as TOML text.
-/
namespace Schemata

inductive ConfigError where
  | io (reason : String)
  | parse
  deriving DecidableEq, Repr

def ConfigError.message : ConfigError → String
  | .io reason => s!"IO error: {reason}"
  | .parse => "Invalid configuration"

namespace Config

def ofToml? (text : String) : Option Config := (Toml.parse? text).bind ofTree?

def withSql (c : Config) (o : SqlOptions) : Config := { c with sql := o }

def withDuplicatePolicy (c : Config) (p : DuplicatePolicy) : Config :=
  { c with duplicatePolicy := p }

def withUrl (c : Config) (url : String) : Config :=
  { c with database := { c.database with url := some url } }

end Config

end Schemata
