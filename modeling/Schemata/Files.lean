import Schemata.Document.Text
import Schemata.Config.Text
import Schemata.Schema
import Schemata.Text.Scan

/-!
Documents and configuration from files. What can be read is a value: the content of each file, or
the reason why there is none, and the content of standard input.
-/
namespace Schemata

structure Files where
  content : String → Except String ByteArray
  stdin : Except String ByteArray

namespace Files

def invalidText : String := "stream did not contain valid UTF-8"

def decode (bytes : ByteArray) : Except String String :=
  match String.fromUTF8? bytes with
  | some text => .ok text
  | none => .error invalidText

def text (fs : Files) (path : String) : Except String String := (fs.content path).bind decode

def stdinText (fs : Files) : Except String String := fs.stdin.bind decode

end Files

/-! ### Paths -/

/-- The name of the file that a path leads to. An empty part between slashes and a single point lead
nowhere. -/
def fileName? (path : String) : Option (List Char) :=
  match ((Scan.splitAt '/' [] path.toList).filter fun p => p ≠ [] ∧ p ≠ ['.']).getLast? with
  | some ['.', '.'] => none
  | name => name

/-- What stands behind the last point of a file's name. A point at the beginning does not count. -/
def extension? (path : String) : Option String := do
  let name ← fileName? path
  let reversed := name.reverse
  match reversed.dropWhile (· != '.') with
  | _ :: _ :: _ => some (String.ofList (reversed.takeWhile (· != '.')).reverse)
  | _ => none

/-! ### Documents and configuration -/

namespace Document

/-- Reads JSON where the path says so, and YAML otherwise. -/
def parse (path text : String) : Except SchemaError Document :=
  match if extension? path = some "json" then ofJson? text else ofYaml? text with
  | some d => .ok d
  | none => .error .parse

def ofFile (fs : Files) (path : String) : Except SchemaError Document :=
  match fs.text path with
  | .ok text => parse path text
  | .error reason => .error (.io reason)

end Document

def Config.ofFile (fs : Files) (path : String) : Except ConfigError Config :=
  match fs.text path with
  | .ok text =>
    match ofToml? text with
    | some c => .ok c
    | none => .error .parse
  | .error reason => .error (.io reason)

end Schemata
