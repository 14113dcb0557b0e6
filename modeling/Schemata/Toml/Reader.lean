import Schemata.Toml.Strings
import Schemata.Toml.Plain
import Schemata.Toml.Table

/-!
TOML text: headers and pairs line by line, and the values behind the equality signs.
-/
namespace Schemata.Toml

namespace Reader

def skipSpace (s : List Char) : List Char := s.dropWhile isSpace

/-- Passes over the rest of a line: blanks, a comment and the line break. -/
def lineEnd? (s : List Char) : Option (List Char) :=
  let s := skipSpace s
  let s := if s.head? = some '#' then s.dropWhile isText else s
  match s with
  | [] => some []
  | '\n' :: rest => some rest
  | '\r' :: '\n' :: rest => some rest
  | _ => none

/-- Passes over blanks, line breaks and comments. -/
def skipLines? (comment : Bool) : List Char → Option (List Char)
  | [] => some []
  | '\n' :: rest => skipLines? false rest
  | '\r' :: '\n' :: rest => skipLines? false rest
  | c :: rest =>
    if comment then if isText c then skipLines? true rest else none
    else if isSpace c then skipLines? false rest
    else if c == '#' then skipLines? true rest
    else some (c :: rest)

/-! ### Keys -/

def isBare (c : Char) : Bool := c.isAlphanum || c == '_' || c == '-'

def simpleKey? (s : List Char) : Option (String × List Char) :=
  match Strings.line? s with
  | some (text, rest) => some (String.ofList text, rest)
  | none =>
    let bare := s.takeWhile isBare
    if bare.isEmpty then none else some (String.ofList bare, s.dropWhile isBare)

def keyParts? (fuel : Nat) (s : List Char) : Option (List String × List Char) :=
  match fuel with
  | 0 => none
  | fuel + 1 => do
    let (key, rest) ← simpleKey? (skipSpace s)
    match skipSpace rest with
    | '.' :: rest =>
      let (keys, rest) ← keyParts? fuel rest
      return (key :: keys, rest)
    | rest => return ([key], rest)

/-- Values are nested less deep than this, and keys have fewer parts. -/
def limit : Nat := 80

/-- A key of one or more parts, and blanks around it: the parts in front of the last, and the
last. -/
def key? (s : List Char) : Option (List String × String × List Char) := do
  let (keys, rest) ← keyParts? limit s
  if limit ≤ keys.length then none
  let last ← keys.getLast?
  return (keys.dropLast, last, rest)

/-! ### Values -/

mutual

def value? (fuel depth : Nat) (s : List Char) : Option (Value × List Char) :=
  match fuel with
  | 0 => none
  | fuel + 1 =>
    match s with
    | [] => none
    | c :: rest =>
      if c == '"' || c == '\'' then
        (Strings.any? s).map fun (text, rest) => (.string (String.ofList text), rest)
      else if c == '[' then
        if depth = 0 then none
        else (items? fuel (depth - 1) rest).map fun (vs, rest) => (.array vs, rest)
      else if c == '\x7b' then
        if depth = 0 then none
        else
          match skipSpace rest with
          | '\x7d' :: rest => some (.table [], rest)
          | rest => (pairs? fuel (depth - 1) [] rest).map fun (es, rest) =>
            (.table (entriesToValues es), rest)
      else
        let (word, rest) := Plain.word s
        (Plain.value? word).map fun v => (v, rest)

/-- The items of an array up to its closing bracket. A comma may stand behind the last one. -/
def items? (fuel depth : Nat) (s : List Char) : Option (List Value × List Char) :=
  match fuel with
  | 0 => none
  | fuel + 1 => do
    match ← skipLines? false s with
    | ']' :: rest => return ([], rest)
    | s =>
      let (v, rest) ← value? fuel depth s
      match ← skipLines? false rest with
      | ',' :: rest =>
        let (vs, rest) ← items? fuel depth rest
        return (v :: vs, rest)
      | ']' :: rest => return ([v], rest)
      | _ => none

/-- The pairs of an inline table up to its closing brace. -/
def pairs? (fuel depth : Nat) (es : Entries) (s : List Char) : Option (Entries × List Char) :=
  match fuel with
  | 0 => none
  | fuel + 1 => do
    let (path, key, rest) ← key? s
    let rest ← Scan.expect? '=' rest
    let (v, rest) ← value? fuel depth (skipSpace rest)
    let es ← es.assign? path key v
    match skipSpace rest with
    | ',' :: rest => pairs? fuel depth es rest
    | '\x7d' :: rest => return (es, rest)
    | _ => none

end

/-! ### Documents -/

/-- A document up to a place: the header that is in force, and all tables. -/
structure State where
  header : List String
  entries : Entries

def header? (st : State) (array : Bool) (s : List Char) : Option (State × List Char) := do
  let (path, key, rest) ← key? s
  let rest ← Scan.expect? ']' rest
  let rest ← if array then Scan.expect? ']' rest else some rest
  let entries ←
    if array then st.entries.openArray? path key else st.entries.openTable? path key
  return (⟨path ++ [key], entries⟩, ← lineEnd? rest)

def pair? (st : State) (s : List Char) : Option (State × List Char) := do
  let (path, key, rest) ← key? s
  let rest ← Scan.expect? '=' rest
  let (v, rest) ← value? (s.length + 1) (limit - 1) (skipSpace rest)
  let entries ← st.entries.assignIn? st.header path key v
  return (⟨st.header, entries⟩, ← lineEnd? rest)

/-- Line after line. -/
def lines? (fuel : Nat) (st : State) (s : List Char) : Option State :=
  match fuel with
  | 0 => none
  | fuel + 1 =>
    match skipSpace s with
    | [] => some st
    | '[' :: '[' :: rest => do
      let (st, rest) ← header? st true rest
      lines? fuel st rest
    | '[' :: rest => do
      let (st, rest) ← header? st false rest
      lines? fuel st rest
    | s =>
      match lineEnd? s with
      | some rest => lines? fuel st rest
      | none => do
        let (st, rest) ← pair? st s
        lines? fuel st rest

end Reader

/-- The tree of a document. A byte order mark at the beginning does not count. -/
def parse? (text : String) : Option Tree := do
  let s := match text.toList with
    | c :: rest => if c.toNat == 0xFEFF then rest else c :: rest
    | [] => []
  let st ← Reader.lines? (s.length + 1) ⟨[], []⟩ s
  return (Value.table (entriesToValues st.entries)).toTree

end Schemata.Toml
