import Schemata.Document
import Schemata.Yaml.Printer

/-!
Schema documents as text, in YAML or in JSON.
-/
namespace Schemata.Document

def ofYaml? (text : String) : Option Document := (Yaml.parse? text).bind ofTree?

def ofJson? (text : String) : Option Document :=
  (Json.Node.parse? text).bind fun node => ofTree? (node.toTree Json.maxDepth)

def toYaml (d : Document) : String := Yaml.render d.toTree

end Schemata.Document
