import Schemata.Text.Character
import Schemata.Text.Scan
import Schemata.Text.Hex
import Schemata.Options
import Schemata.Error

/-!
Database addresses: a URL, or words of the form `key=value`. Both give a list of settings. An
address is usable if every setting is known and well formed and a database is named.
-/
namespace Schemata.Postgres

abbrev Settings := List (String × String)

namespace Address

/-! ### Values of settings -/

/-- A number below the limit; a plus sign may stand in front. -/
def isNatural (limit : Nat) (s : String) : Bool :=
  let digits := match s.toList with
    | '+' :: rest => rest
    | rest => rest
  digits.all Char.isDigit && (Literal.natOfDigits? 10 digits).any (· < limit)

/-- A signed number of 64 bits. -/
def isInteger (s : String) : Bool :=
  match s.toList with
  | '-' :: rest =>
    rest.all Char.isDigit && (Literal.natOfDigits? 10 rest).any (· ≤ Nat.pow 2 63)
  | _ => isNatural (Nat.pow 2 63) s

/-- A part of an address of version 4: up to 255, without a zero in front. -/
def isOctet (s : List Char) : Bool :=
  s.all Char.isDigit && s.length ≤ 3 && (s.head? != some '0' || s.length == 1) &&
    (Literal.natOfDigits? 10 s).any (· < 256)

def isVersion4 (s : List Char) : Bool :=
  let parts := Scan.splitAt '.' [] s
  parts.length == 4 && parts.all isOctet

def isHexGroup (s : List Char) : Bool :=
  !s.isEmpty && s.length ≤ 4 && s.all fun c => (Hex.value? c).isSome

/-- How many groups of an address of version 6 a text spells. The last two can be an address of
version 4 where that is allowed. -/
def groups? (version4 : Bool) (s : List Char) : Option Nat :=
  if s.isEmpty then some 0
  else
    let parts := Scan.splitAt ':' [] s
    if parts.all isHexGroup then some parts.length
    else if version4 && parts.dropLast.all isHexGroup && parts.getLast?.any isVersion4 then
      some (parts.length + 1)
    else none

/-- What stands before and behind the first double colon. -/
def atDoubleColon? (before : List Char) : List Char → Option (List Char × List Char)
  | ':' :: ':' :: rest => some (before, rest)
  | c :: rest => atDoubleColon? (before ++ [c]) rest
  | [] => none

/-- Eight groups, of which a double colon leaves out one or more. -/
def isVersion6 (s : List Char) : Bool :=
  match atDoubleColon? [] s with
  | none => groups? true s == some 8
  | some (before, behind) =>
    match groups? false before, groups? true behind with
    | some m, some n => m + n ≤ 7
    | _, _ => false

def isHostAddress (s : List Char) : Bool := isVersion4 s || isVersion6 s

def isSocket (s : List Char) : Bool := s.isEmpty || isNatural (Nat.pow 2 16) (String.ofList s)

/-- Whether the setting exists and can have the value. -/
def accepts (key value : String) : Bool :=
  match key with
  | "user" | "password" | "dbname" | "options" | "application_name" | "host" => true
  | "sslmode" => ["disable", "prefer", "require"].contains value
  | "sslnegotiation" => ["postgres", "direct"].contains value
  | "hostaddr" => (Scan.splitAt ',' [] value.toList).all isHostAddress
  | "port" => (Scan.splitAt ',' [] value.toList).all isSocket
  | "connect_timeout" | "tcp_user_timeout" | "keepalives_idle" | "keepalives_interval" =>
    isInteger value
  | "keepalives" => isNatural (Nat.pow 2 64) value
  | "keepalives_retries" => isNatural (Nat.pow 2 32) value
  | "target_session_attrs" => ["any", "read-write", "read-only"].contains value
  | "channel_binding" => ["disable", "prefer", "require"].contains value
  | "load_balance_hosts" => ["disable", "random"].contains value
  | _ => false

/-! ### URLs -/

/-- The bytes of a text in which `%` introduces bytes in hexadecimal digits; elsewhere it stands for
itself. -/
def percentBytes : List Char → List UInt8
  | [] => []
  | '%' :: a :: b :: rest =>
    match Hex.bytes? [a, b] with
    | some bytes => bytes ++ percentBytes rest
    | none => 0x25 :: percentBytes (a :: b :: rest)
  | c :: rest => (String.singleton c).toUTF8.data.toList ++ percentBytes rest

def decode? (s : List Char) : Option String := String.fromUTF8? ⟨(percentBytes s).toArray⟩

/-- What stands before and behind the first character that satisfies `p`; that character stays with
the rest. -/
def cut? (p : Char → Bool) (s : List Char) : Option (List Char × List Char) :=
  match s.dropWhile (!p ·) with
  | [] => none
  | rest => some (s.takeWhile (!p ·), rest)

/-- A host; a path that begins with a slash may hold any bytes. -/
def host? (s : List Char) : Option Settings :=
  if (percentBytes s).head? = some 0x2F then some [("host", String.ofList s)]
  else (decode? s).map fun h => [("host", h)]

/-- A host and, behind a colon, the number of its socket. A host in brackets may contain colons. -/
def hostAndSocket? (s : List Char) : Option Settings := do
  let (host, socket) ← match s with
    | '[' :: rest => do
      let (host, rest) ← cut? (· == ']') rest
      match rest.drop 1 with
      | [] => pure (host, none)
      | ':' :: socket => pure (host, some socket)
      | _ => none
    | s =>
      match cut? (· == ':') s with
      | some (host, socket) => pure (host, some (socket.drop 1))
      | none => pure (s, none)
  let host ← host? host
  let socket ← decode? (socket.getD "5432".toList)
  return host ++ [("port", socket)]

/-- The settings behind the question mark. -/
def urlParams? (fuel : Nat) (s : List Char) : Option Settings :=
  match fuel with
  | 0 => none
  | fuel + 1 =>
    if s.isEmpty then some []
    else do
      let (key, rest) ← cut? (· == '=') s
      let key ← decode? key
      let (value, rest) := (cut? (· == '&') (rest.drop 1)).getD (rest.drop 1, [])
      let these ← if key = "host" then host? value else (decode? value).map fun v => [(key, v)]
      let others ← urlParams? fuel (rest.drop 1)
      return these ++ others

/-- The settings of a URL behind its scheme: a user with a password, hosts with sockets, a database
and further settings. -/
def urlSettings? (s : List Char) : Option Settings := do
  let (user, s) ← match cut? (· == '@') s with
    | none => pure ([], s)
    | some (credentials, rest) => do
      let name ← decode? (credentials.takeWhile (· != ':'))
      pure ([("user", name)], rest.drop 1)
  let (hosts, s) := (cut? (fun c => c == '/' || c == '?') s).getD (s, [])
  let hosts ← if hosts.isEmpty then pure [] else (Scan.splitAt ',' [] hosts).mapM hostAndSocket?
  let (database, s) ← match s with
    | '/' :: rest => do
      let (name, rest) := (cut? (· == '?') rest).getD (rest, [])
      if name.isEmpty then pure ([], rest)
      else
        let name ← decode? name
        pure ([("dbname", name)], rest)
    | s => pure ([], s)
  let params ← match s with
    | '?' :: rest => urlParams? (rest.length + 1) rest
    | _ => pure []
  return user ++ hosts.flatten ++ database ++ params

/-! ### Words -/

/-- The characters of a value up to its end; a backslash takes the next character as it is. -/
def wordValue (isEnd : Char → Bool) : List Char → List Char × List Char
  | [] => ([], [])
  | ['\\'] => ([], [])
  | '\\' :: c :: rest =>
    let (value, rest) := wordValue isEnd rest
    (c :: value, rest)
  | c :: rest =>
    if isEnd c then ([], c :: rest)
    else
      let (value, rest) := wordValue isEnd rest
      (c :: value, rest)

/-- A value, in single quotes or up to white space. -/
def value? (s : List Char) : Option (List Char × List Char) :=
  match s with
  | '\'' :: rest =>
    match wordValue (· == '\'') rest with
    | (value, '\'' :: rest) => some (value, rest)
    | _ => none
  | s =>
    match wordValue Text.isBlank s with
    | ([], _) => none
    | r => some r

/-- Settings as words. They end where no key begins. -/
def wordSettings? (fuel : Nat) (s : List Char) : Option Settings :=
  match fuel with
  | 0 => none
  | fuel + 1 =>
    let s := s.dropWhile Text.isBlank
    let isKey (c : Char) : Bool := !Text.isBlank c && c != '='
    let key := s.takeWhile isKey
    if key.isEmpty then some []
    else do
      let rest ← Scan.expect? '=' ((s.dropWhile isKey).dropWhile Text.isBlank)
      let (value, rest) ← value? (rest.dropWhile Text.isBlank)
      let others ← wordSettings? fuel rest
      return (String.ofList key, String.ofList value) :: others

/-! ### Addresses -/

def schemes : List String := ["postgres://", "postgresql://"]

def settings? (s : String) : Option Settings :=
  let cs := s.toList
  match schemes.find? fun scheme => scheme.toList.isPrefixOf cs with
  | some scheme => urlSettings? (cs.drop scheme.length)
  | none => wordSettings? (cs.length + 1) cs

/-- The settings of a usable address. -/
def parse? (s : String) : Option Settings := do
  let settings ← settings? s
  let database ← (settings.filter (·.1 = "dbname")).getLast?
  if settings.all (fun p => accepts p.1 p.2) && !database.2.isEmpty then some settings else none

end Address

/-- Why no connection can be set up. -/
inductive ConnectError where
  | noUrl
  | invalidUrl
  deriving DecidableEq, Repr

def ConnectError.toDbError : ConnectError → DbError
  | .noUrl => .connection "No database URL configured"
  | .invalidUrl => .connection "Invalid database URL"

/-- The settings for connecting to the configured database. -/
def connectSettings (o : ConnectionOptions) : Except ConnectError Settings :=
  match o.url with
  | none => .error .noUrl
  | some url =>
    match Address.parse? url with
    | some settings => .ok settings
    | none => .error .invalidUrl

end Schemata.Postgres
