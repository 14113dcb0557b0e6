import Schemata.Json.Printer
import Schemata.Json.Reader
import Schemata.Text.Uuid
import Schemata.Calendar
import Schemata.Error

/-!
Values of PostgreSQL between JSON and the wire. A parameter is converted to what its type holds and
then to bytes, a cell goes the opposite way. A missing cell is SQL's null.
-/
namespace Schemata.Postgres

inductive SqlType where
  | bool | int2 | int4 | int8 | float4 | float8 | json | jsonb | uuid
  | timestamptz | timestamp | date
  | varchar | bpchar | name | text
  | numeric | bytea
  deriving DecidableEq, Repr

namespace SqlType

def label : SqlType → String
  | .bool => "bool"
  | .int2 => "int2"
  | .int4 => "int4"
  | .int8 => "int8"
  | .float4 => "float4"
  | .float8 => "float8"
  | .json => "json"
  | .jsonb => "jsonb"
  | .uuid => "uuid"
  | .timestamptz => "timestamptz"
  | .timestamp => "timestamp"
  | .date => "date"
  | .varchar => "varchar"
  | .bpchar => "bpchar"
  | .name => "name"
  | .text => "text"
  | .numeric => "numeric"
  | .bytea => "bytea"

def all : List SqlType :=
  [bool, int2, int4, int8, float4, float8, json, jsonb, uuid, timestamptz, timestamp, date,
    varchar, bpchar, name, text, numeric, bytea]

def ofLabel? (s : String) : Option SqlType := all.find? (·.label == s)

def isJson (t : SqlType) : Bool := t == .json || t == .jsonb

/-- Whether values of the type can be sent and received. They cannot for types that are treated as
text but have another form on the wire. -/
def isTransferable (t : SqlType) : Bool := t != .numeric && t != .bytea

end SqlType

abbrev Bytes := List UInt8

abbrev Cell := Option Bytes

/-! ### Numbers on the wire -/

namespace Bytes

/-- The number that the bytes spell, the most significant one first. -/
def toNat (bytes : Bytes) : Nat := bytes.foldl (fun n b => n * 256 + b.toNat) 0

/-- The last `width` bytes of a number. -/
def ofNat (width n : Nat) : Bytes :=
  match width with
  | 0 => []
  | width + 1 => ofNat width (n / 256) ++ [UInt8.ofNat n]

/-- The bytes of an integer in two's complement. -/
def ofInt (width : Nat) (n : Int) : Bytes := ofNat width (n % Nat.pow 256 width).toNat

/-- An integer of exactly `width` bytes. -/
def toInt? (width : Nat) (bytes : Bytes) : Option Int :=
  if bytes.length = width then
    let n := toNat bytes
    some (if 2 * n < Nat.pow 256 width then (n : Int) else (n : Int) - Nat.pow 256 width)
  else none

def toText? (bytes : Bytes) : Option String := String.fromUTF8? ⟨bytes.toArray⟩

def ofText (s : String) : Bytes := s.toUTF8.data.toList

end Bytes

/-! ### Values -/

/-- What a type holds. -/
inductive Datum where
  | bool (b : Bool)
  | int (n : Int)
  /-- A bit pattern of single precision. -/
  | single (bits : Nat)
  | double (x : Double)
  | json (j : Json)
  | uuid (bytes : Bytes)
  /-- Microseconds since the beginning of the year 2000. -/
  | moment (micros : Int)
  /-- Days since the first of January 2000. -/
  | date (days : Int)
  | text (s : String)
  deriving Repr

namespace Datum

/-- An integer that fits the number of bits. -/
def int? (bits : Nat) (j : Json) : Option Datum :=
  j.int64?.bind fun n =>
    if -Nat.pow 2 (bits - 1) ≤ n ∧ n < Nat.pow 2 (bits - 1) then some (.int n) else none

/-- The value for which a JSON value other than null stands where the type is expected. -/
def ofJson? (t : SqlType) (j : Json) : Option Datum :=
  match t with
  | .bool => j.bool?.map .bool
  | .int2 => int? 16 j
  | .int4 => int? 32 j
  | .int8 => int? 64 j
  | .float4 => j.double?.map fun x => .single (Floating.single.ofValue x.value)
  | .float8 => j.double?.map .double
  | .json => some (.json j)
  | .jsonb => some (.json j)
  | .uuid => (j.string?.bind Uuid.parse?).map .uuid
  | .timestamptz => (j.string?.bind Calendar.universalMoment?).map .moment
  | .timestamp => (j.string?.bind Calendar.localMoment?).map .moment
  | .date => (j.string?.bind Calendar.date?).map .date
  | _ =>
    match j with
    | .string s => some (.text s)
    | j => some (.text j.render)

/-- A value as JSON; none for a moment or a date beyond the calendar. -/
def toJson? (t : SqlType) : Datum → Option Json
  | .bool b => some (.bool b)
  | .int n => some (.int n)
  | .single bits => some (Json.ofDouble (Double.ofValue (Floating.single.value bits)))
  | .double x => some (Json.ofDouble x)
  | .json j => some j
  | .uuid bytes => some (.string (Uuid.render bytes))
  | .moment micros =>
    (Calendar.momentText? micros).map fun s =>
      .string (if t = .timestamptz then s ++ "+00:00" else s)
  | .date days => (Date.ofDays? days).map fun d => .string (Calendar.dateText d)
  | .text s => some (.string s)

/-- The wire form. Before the text of `jsonb` stands the number of its format. -/
def toBytes (t : SqlType) : Datum → Bytes
  | .bool b => [if b then 1 else 0]
  | .int n => Bytes.ofInt (if t = .int2 then 2 else if t = .int4 then 4 else 8) n
  | .single bits => Bytes.ofNat 4 bits
  | .double x => Bytes.ofNat 8 x.bits.toNat
  | .json j => if t = .jsonb then 1 :: Bytes.ofText j.render else Bytes.ofText j.render
  | .uuid bytes => bytes
  | .moment micros => Bytes.ofInt 8 micros
  | .date days => Bytes.ofInt 4 days
  | .text s => Bytes.ofText s

def jsonOfBytes? (bytes : Bytes) : Option Datum :=
  ((Bytes.toText? bytes).bind Json.parse?).map .json

/-- Reads the wire form. -/
def ofBytes? (t : SqlType) (bytes : Bytes) : Option Datum :=
  match t with
  | .bool =>
    match bytes with
    | [b] => some (.bool (b != 0))
    | _ => none
  | .int2 => (Bytes.toInt? 2 bytes).map .int
  | .int4 => (Bytes.toInt? 4 bytes).map .int
  | .int8 => (Bytes.toInt? 8 bytes).map .int
  | .float4 => if bytes.length = 4 then some (.single (Bytes.toNat bytes)) else none
  | .float8 =>
    if bytes.length = 8 then some (.double (Double.ofPattern (Bytes.toNat bytes))) else none
  | .json => jsonOfBytes? bytes
  | .jsonb =>
    match bytes with
    | 1 :: rest => jsonOfBytes? rest
    | _ => none
  | .uuid => if bytes.length = 16 then some (.uuid bytes) else none
  | .timestamptz => (Bytes.toInt? 8 bytes).map .moment
  | .timestamp => (Bytes.toInt? 8 bytes).map .moment
  | .date => (Bytes.toInt? 4 bytes).map .date
  | _ => (Bytes.toText? bytes).map .text

end Datum

/-! ### Parameters and cells -/

/-- Converts a parameter. JSON's null is SQL's null, except where JSON itself is expected. -/
def param (t : SqlType) (j : Json) : Except DbError (Option Datum) :=
  if t.isJson then .ok (some (.json j))
  else if j.isNull then .ok none
  else match Datum.ofJson? t j with
    | some d => .ok (some d)
    | none => .error (.conversion s!"Cannot bind {j.render} as {t.label}")

/-- The cell that is sent for a parameter; the outer option is none if it cannot be sent. -/
def cellOf? (t : SqlType) (d : Option Datum) : Option Cell :=
  if t.isTransferable then some (d.map (·.toBytes t)) else none

/-- The JSON value of a cell; none if it cannot be read. -/
def valueOf? (t : SqlType) (c : Cell) : Option Json :=
  if !t.isTransferable then none
  else match c with
    | none => some .null
    | some bytes => (Datum.ofBytes? t bytes).bind (·.toJson? t)

end Schemata.Postgres
