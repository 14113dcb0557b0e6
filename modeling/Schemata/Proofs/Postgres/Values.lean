import Schemata.Proofs.Calendar.Texts
import Schemata.Proofs.Json.Texts
import Schemata.Proofs.Number.Rounding
import Schemata.Proofs.Postgres.Wire

/-!
Values that go back to where they came from. What has been read from a cell is bound again as the
value that the cell holds, for all types. JSON has no infinities and no nans, and its own null does
not tell itself from SQL's, so these come back as the nulls of their types. Into a column of JSON
goes the text of the value, which is read as the same value.
-/
namespace Schemata.Postgres

open Floating

/-- What a cell holds. SQL's null holds nothing. -/
def contentOf? (t : SqlType) : Cell → Option (Option Datum)
  | none => some none
  | some bytes => (Datum.ofBytes? t bytes).map some

/-- A float that is an infinity or no number. -/
def Datum.Nonfinite : Datum → Prop
  | .single bits => ∀ s m e, Floating.single.value bits ≠ .finite s m e
  | .double x => ¬ x.isFinite
  | _ => False

/-- The content has a form of its own in JSON and a text that the type's reader takes: a year of a
moment with an offset has to have four digits. -/
def Returns (t : SqlType) : Option Datum → Prop
  | none => t.isJson = false
  | some (.moment micros) =>
    t = .timestamptz →
      0 ≤ (Calendar.dateOf micros).year ∧ (Calendar.dateOf micros).year ≤ 9999
  | some d => ¬ d.Nonfinite

variable {t : SqlType} {bytes : Bytes} {d : Datum} {v : Json}

theorem param_of_ofJson? (hj : t.isJson = false) (hn : v.isNull = false)
    (h : Datum.ofJson? t v = some d) : param t v = .ok (some d) := by
  simp only [param, hj, hn, h, Bool.false_eq_true, if_false]

theorem param_null (hj : t.isJson = false) : param t .null = .ok none := by
  simp only [param, hj, Json.isNull, Bool.false_eq_true, if_false, if_true]

theorem param_json (hj : t.isJson) (v : Json) : param t v = .ok (some (.json v)) := by
  simp only [param, hj, if_true]

namespace Datum

/-- Where an integer of so many bits is expected, only one that has them is taken, as it is. -/
theorem int?_eq_some_iff {bits : Nat} (h64 : bits ≤ 64) :
    int? bits v = some d ↔
      ∃ n : Int, v = .int n ∧ -(2 ^ (bits - 1) : Nat) ≤ n ∧ n < (2 ^ (bits - 1) : Nat) ∧
        d = .int n := by
  have hmost : 2 ^ (bits - 1) ≤ 2 ^ 63 := Nat.pow_le_pow_right (by decide) (by omega)
  cases v with
  | int n =>
    simp only [int?, Json.int64?, Option.bind_eq_some_iff, Option.ite_none_right_eq_some,
      Option.some.injEq, Nat.pow_eq, Json.int.injEq]
    constructor
    · rintro ⟨_, ⟨-, rfl⟩, ⟨hlow, hhigh⟩, rfl⟩
      exact ⟨_, rfl, hlow, hhigh, rfl⟩
    · rintro ⟨_, rfl, hlow, hhigh, rfl⟩
      exact ⟨n, ⟨⟨by omega, by omega⟩, rfl⟩, ⟨hlow, hhigh⟩, rfl⟩
  | _ => simp [int?, Json.int64?]

/-- An integer has no more bits than its type. -/
theorem int?_of_toInt? {width : Nat} {n : Int} (hw : 0 < width) (hw8 : width ≤ 8)
    (h : Bytes.toInt? width bytes = some n) : int? (8 * width) (.int n) = some (.int n) := by
  obtain ⟨hlow, hhigh, -⟩ := Bytes.of_toInt?_eq_some h
  have hbound : 256 ^ width = 2 * 2 ^ (8 * width - 1) := by
    rw [show (256 : Nat) = 2 ^ 8 by rfl, ← Nat.pow_mul, ← Nat.pow_succ']
    congr 1
    omega
  exact (int?_eq_some_iff (by omega)).mpr ⟨n, rfl, by omega, by omega, rfl⟩

/-- A finite number of single precision, as JSON and back. -/
theorem single_returns {bits : Nat} (hb : bits < 2 ^ 32) (hr : ¬ (single bits).Nonfinite) :
    (single bits).toJson? .float4 = some (.float (Double.ofValue (Floating.single.value bits))) ∧
      ofJson? .float4 (.float (Double.ofValue (Floating.single.value bits))) =
        some (.single bits) := by
  simp only [Nonfinite, not_forall, not_not] at hr
  obtain ⟨s, m, e, hf⟩ := hr
  obtain ⟨hfinite, hbits⟩ := Double.single_ofValue_ofValue hb hf
  constructor
  · rw [toJson?, Json.ofDouble, if_pos hfinite]
  · rw [ofJson?, Json.double?, Option.map_some, hbits]

theorem of_ofBytes?_json (hj : t.isJson) (hd : ofBytes? t bytes = some d) : ∃ j, d = .json j := by
  cases t with
  | json =>
    obtain ⟨j, -, rfl⟩ := Option.map_eq_some_iff.mp hd
    exact ⟨j, rfl⟩
  | jsonb =>
    simp only [ofBytes?] at hd
    split at hd
    · obtain ⟨j, -, rfl⟩ := Option.map_eq_some_iff.mp hd
      exact ⟨j, rfl⟩
    · cases hd
  | _ => cases hj

/-- A cell of JSON holds the value of a text. -/
theorem exists_parse?_of_ofBytes? {j : Json} (hj : t.isJson)
    (hd : ofBytes? t bytes = some (.json j)) : ∃ s, Json.parse? s = some j := by
  have hread : ∀ {bytes : Bytes}, jsonOfBytes? bytes = some (.json j) →
      ∃ s, Json.parse? s = some j := by
    intro bytes h
    obtain ⟨j', hparse, he⟩ := Option.map_eq_some_iff.mp h
    obtain ⟨s, -, hs⟩ := Option.bind_eq_some_iff.mp hparse
    cases he
    exact ⟨s, hs⟩
  cases t with
  | json => exact hread hd
  | jsonb =>
    simp only [ofBytes?] at hd
    split at hd
    · exact hread hd
    · cases hd
  | _ => cases hj

theorem toBytes_json (j : Json) :
    (json j).toBytes t = (if t = .jsonb then [1] else []) ++ Bytes.ofText j.render := by
  rw [toBytes]
  split <;> rfl

/-- A value of JSON that is read from its own text is read from the bytes sent for it. -/
theorem ofBytes?_toBytes_json {j : Json} (hj : t.isJson) (hp : Json.parse? j.render = some j) :
    ofBytes? t ((json j).toBytes t) = some (.json j) := by
  have hread : jsonOfBytes? (Bytes.ofText j.render) = some (.json j) := by
    rw [jsonOfBytes?, Bytes.toText?_ofText, Option.bind_some, hp, Option.map_some]
  cases t with
  | json => exact hread
  | jsonb => exact hread
  | _ => cases hj

/-- A truth value is one byte. -/
theorem of_ofBytes?_bool (hd : ofBytes? .bool bytes = some d) :
    ∃ b, bytes = [b] ∧ d = .bool (b != 0) := by
  simp only [ofBytes?] at hd
  split at hd
  · exact ⟨_, rfl, (Option.some.inj hd).symm⟩
  · cases hd

/-- A value that has been read from bytes is bound again. -/
theorem param_of_toJson? (hd : ofBytes? t bytes = some d) (hv : d.toJson? t = some v)
    (hr : Returns t (some d)) : param t v = .ok (some d) := by
  cases t with
  | bool =>
    obtain ⟨b, -, rfl⟩ := of_ofBytes?_bool hd
    obtain rfl := Option.some.inj hv
    exact param_of_ofJson? rfl rfl rfl
  | int2 | int4 | int8 =>
    obtain ⟨n, hn, rfl⟩ := Option.map_eq_some_iff.mp hd
    obtain rfl := Option.some.inj hv
    have hp := int?_of_toInt? (by decide) (by decide) hn
    exact param_of_ofJson? rfl rfl hp
  | float4 =>
    obtain ⟨hl, hd⟩ := Option.ite_none_right_eq_some.mp hd
    obtain rfl := Option.some.inj hd
    have hlt := Bytes.toNat_lt bytes
    rw [hl] at hlt
    obtain ⟨hj, hp⟩ := single_returns hlt hr
    obtain rfl := Option.some.inj (hj.symm.trans hv)
    exact param_of_ofJson? rfl rfl hp
  | float8 =>
    obtain ⟨hl, hd⟩ := Option.ite_none_right_eq_some.mp hd
    obtain rfl := Option.some.inj hd
    have hfinite := not_not.mp hr
    rw [toJson?, Json.ofDouble, if_pos hfinite] at hv
    obtain rfl := Option.some.inj hv
    exact param_of_ofJson? rfl rfl rfl
  | json | jsonb =>
    obtain ⟨j, rfl⟩ := of_ofBytes?_json rfl hd
    obtain rfl := Option.some.inj hv
    exact param_json rfl _
  | uuid =>
    obtain ⟨hl, hd⟩ := Option.ite_none_right_eq_some.mp hd
    obtain rfl := Option.some.inj hd
    obtain rfl := Option.some.inj hv
    refine param_of_ofJson? rfl rfl ?_
    rw [ofJson?, Json.string?, Option.bind_some, Uuid.parse?_render hl, Option.map_some]
  | timestamptz =>
    obtain ⟨n, -, rfl⟩ := Option.map_eq_some_iff.mp hd
    obtain ⟨s, hs, rfl⟩ := Option.map_eq_some_iff.mp hv
    refine param_of_ofJson? rfl rfl ?_
    rw [ofJson?, Json.string?, Option.bind_some, if_pos rfl,
      Calendar.universalMoment?_momentText hs (hr rfl), Option.map_some]
  | timestamp =>
    obtain ⟨n, -, rfl⟩ := Option.map_eq_some_iff.mp hd
    obtain ⟨s, hs, rfl⟩ := Option.map_eq_some_iff.mp hv
    refine param_of_ofJson? rfl rfl ?_
    rw [if_neg (by decide), ofJson?, Json.string?, Option.bind_some,
      Calendar.localMoment?_momentText hs, Option.map_some]
  | date =>
    obtain ⟨n, -, rfl⟩ := Option.map_eq_some_iff.mp hd
    obtain ⟨s, hs, rfl⟩ := Option.map_eq_some_iff.mp hv
    refine param_of_ofJson? rfl rfl ?_
    rw [ofJson?, Json.string?, Option.bind_some, Calendar.date?_dateText hs, Option.map_some]
  | varchar | bpchar | name | text | numeric | bytea =>
    obtain ⟨s, -, rfl⟩ := Option.map_eq_some_iff.mp hd
    obtain rfl := Option.some.inj hv
    exact param_of_ofJson? rfl rfl rfl

/-- A float that JSON has no number for is read as null. -/
theorem null_of_toJson? (hn : d.Nonfinite) (hv : d.toJson? t = some v) : v = .null := by
  have hinfinite : ∀ s, (Double.ofValue (.infinite s)).isFinite = false := by decide
  have hnan : (Double.ofValue .nan).isFinite = false := by decide
  cases d with
  | single bits =>
    rw [toJson?, Json.ofDouble] at hv
    cases hf : Floating.single.value bits with
    | finite s m e => exact absurd hf (hn s m e)
    | infinite s =>
      rw [hf, hinfinite] at hv
      exact (Option.some.inj hv).symm
    | nan =>
      rw [hf, hnan] at hv
      exact (Option.some.inj hv).symm
  | double x =>
    rw [toJson?, Json.ofDouble, if_neg hn] at hv
    exact (Option.some.inj hv).symm
  | bool | int | json | uuid | moment | date | text => exact hn.elim

/-- What has been read is written with the same bytes, apart from JSON, whose texts have many forms.
A byte that stands for true is one. -/
theorem toBytes_of_ofBytes? (hb : t = .bool → bytes = [0] ∨ bytes = [1]) (hj : t.isJson = false)
    (hd : ofBytes? t bytes = some d) : d.toBytes t = bytes := by
  cases t with
  | bool =>
    rcases hb rfl with rfl | rfl
    · obtain rfl := Option.some.inj hd
      rfl
    · obtain rfl := Option.some.inj hd
      rfl
  | json | jsonb => cases hj
  | int2 | int4 | int8 | timestamptz | timestamp | date =>
    obtain ⟨n, hn, rfl⟩ := Option.map_eq_some_iff.mp hd
    exact (Bytes.of_toInt?_eq_some hn).2.2
  | float4 =>
    obtain ⟨hl, hd⟩ := Option.ite_none_right_eq_some.mp hd
    obtain rfl := Option.some.inj hd
    rw [toBytes, ← hl, Bytes.ofNat_toNat]
  | float8 =>
    obtain ⟨hl, hd⟩ := Option.ite_none_right_eq_some.mp hd
    obtain rfl := Option.some.inj hd
    have hlt := Bytes.toNat_lt bytes
    rw [hl] at hlt
    rw [toBytes, Double.toNat_ofPattern hlt, ← hl, Bytes.ofNat_toNat]
  | uuid =>
    obtain ⟨-, hd⟩ := Option.ite_none_right_eq_some.mp hd
    obtain rfl := Option.some.inj hd
    rfl
  | varchar | bpchar | name | text | numeric | bytea =>
    obtain ⟨s, hs, rfl⟩ := Option.map_eq_some_iff.mp hd
    exact Bytes.ofText_of_toText? hs

end Datum

theorem of_valueOf?_eq_some {c : Cell} (h : valueOf? t c = some v) :
    t.isTransferable ∧ ((c = none ∧ v = .null) ∨
      ∃ bytes d, c = some bytes ∧ Datum.ofBytes? t bytes = some d ∧ d.toJson? t = some v) := by
  unfold valueOf? at h
  by_cases ht : t.isTransferable
  · simp only [ht, Bool.not_true, Bool.false_eq_true, if_false] at h
    refine ⟨ht, ?_⟩
    cases c with
    | none => exact .inl ⟨rfl, (Option.some.inj h).symm⟩
    | some bytes =>
      obtain ⟨d, hd, hv⟩ := Option.bind_eq_some_iff.mp h
      exact .inr ⟨bytes, d, rfl, hd, hv⟩
  · simp [ht] at h

theorem valueOf?_toBytes_json {j : Json} (hj : t.isJson) (hp : Json.parse? j.render = some j) :
    valueOf? t (some ((Datum.json j).toBytes t)) = some j := by
  have ht : t.isTransferable := by
    cases t with
    | json | jsonb => rfl
    | _ => cases hj
  rw [valueOf?, ht, Bool.not_true, if_neg Bool.false_ne_true]
  simp only [Datum.ofBytes?_toBytes_json hj hp, Option.bind_some, Datum.toJson?]

/-- A value that has been read from a cell is bound again as what the cell holds, and except in
JSON, whose texts have many forms, sent with the same bytes. In a column of JSON the text of the
value is sent, and it is read as the value, if the doubles in it are read from their texts as they
are. A nan or an infinity is read as null and bound as SQL's null; SQL's null in a column of JSON is
read as null and bound as JSON's. -/
theorem param_valueOf (t : SqlType) (c : Cell) (v : Json) (h : valueOf? t c = some v) :
    ∃ d, contentOf? t c = some d ∧ (Returns t d → param t v = .ok d) ∧
      (t.isJson = false → (t = .bool → ∀ bytes ∈ c, bytes = [0] ∨ bytes = [1]) →
        cellOf? t d = some c) ∧
      (t.isJson → c ≠ none → d = some (.json v) ∧
        ∃ sent, cellOf? t d = some (some sent) ∧
          sent = (if t = .jsonb then [1] else []) ++ Bytes.ofText v.render ∧
          (v.Exact → valueOf? t (some sent) = some v)) ∧
      (∀ x ∈ d, x.Nonfinite → v = .null ∧ param t v = .ok none) ∧
      (d = none → t.isJson → v = .null ∧ param t v = .ok (some (.json .null))) := by
  obtain ⟨ht, ⟨rfl, rfl⟩ | ⟨bytes, d, rfl, hd, hv⟩⟩ := of_valueOf?_eq_some h
  · refine ⟨none, rfl, param_null, ?_, fun _ hc => absurd rfl hc, by simp, ?_⟩
    · intro _ _
      rw [cellOf?, if_pos ht]
      rfl
    · exact fun _ hj => ⟨rfl, param_json hj _⟩
  · refine ⟨some d, by rw [contentOf?, hd]; rfl, Datum.param_of_toJson? hd hv, ?_, ?_, ?_, nofun⟩
    · intro hj hb
      have hbytes : t = .bool → bytes = [0] ∨ bytes = [1] := fun he => hb he bytes rfl
      rw [cellOf?, if_pos ht, Option.map_some, Datum.toBytes_of_ofBytes? hbytes hj hd]
    · intro hj _
      obtain ⟨j, rfl⟩ := Datum.of_ofBytes?_json hj hd
      obtain rfl := Option.some.inj hv
      obtain ⟨s, hs⟩ := Datum.exists_parse?_of_ofBytes? hj hd
      refine ⟨rfl, _, by rw [cellOf?, if_pos ht, Option.map_some], Datum.toBytes_json _, ?_⟩
      intro hx
      exact valueOf?_toBytes_json hj (Json.parse?_render (Json.shaped_of_parse? hs) hx)
    · intro x hx hn
      obtain rfl := Option.some.inj hx
      obtain rfl := Datum.null_of_toJson? hn hv
      cases hj : t.isJson with
      | false => exact ⟨rfl, param_null hj⟩
      | true =>
        obtain ⟨j, rfl⟩ := Datum.of_ofBytes?_json hj hd
        exact hn.elim

/-- An object with a list of two numbers. -/
def numbers : Json := .object [("a", .array [.int 1, .float Json.half])]

theorem shaped_numbers : numbers.Shaped Json.maxDepth := by
  refine .object (by simp [Dict.keys]) ?_
  simp only [List.mem_singleton, forall_eq]
  refine .array ?_
  simp only [List.forall_mem_cons]
  exact ⟨.int _ (by decide) (by decide), .float _ _, List.forall_mem_nil _⟩

theorem render_numbers : numbers.render = "\x7b\"a\":[1,0.5]\x7d" := by
  have hitems : Json.render (.array [.int 1, .float Json.half]) = "[1,0.5]" := by
    rw [Json.render, Json.renderItems, Json.renderItems, Json.renderItems, Json.render_half]
    decide
  rw [numbers, Json.render, Json.renderMembers, Json.renderMembers, hitems]
  decide

theorem exact_numbers : numbers.Exact := by
  intro x hx
  obtain _ | _ | ⟨hp, hx⟩ := hx
  obtain rfl := List.mem_singleton.mp hp
  obtain _ | ⟨hv, hx⟩ := hx
  obtain rfl | hv := List.mem_cons.mp hv
  · cases hx
  · obtain rfl := List.mem_singleton.mp hv
    cases hx
    exact Json.parse?_render_half

theorem parse?_numbers : Json.parse? " \x7b\"a\":[1,0.5]\x7d\n" = some numbers := by
  have htext : String.ofList ([' '] ++ numbers.render.toList ++ ['\n']) =
      " \x7b\"a\":[1,0.5]\x7d\n" := by
    rw [render_numbers]
    decide
  exact htext ▸ Json.parse?_spaced shaped_numbers exact_numbers (by decide) (by decide)

/-- The number nearest to 0.1 in single precision, and an object in a column of JSON, whose text
loses the white space around it. -/
theorem param_valueOf_single_numbers :
    (valueOf? .float4 (some [0x3d, 0xcc, 0xcc, 0xcd]) = some (.float ⟨0x3fb99999a0000000⟩) ∧
      param .float4 (.float ⟨0x3fb99999a0000000⟩) = .ok (some (.single 0x3dcccccd)) ∧
      cellOf? .float4 (some (.single 0x3dcccccd)) = some (some [0x3d, 0xcc, 0xcc, 0xcd])) ∧
    valueOf? .jsonb (some (1 :: Bytes.ofText " \x7b\"a\":[1,0.5]\x7d\n")) = some numbers ∧
      param .jsonb numbers = .ok (some (.json numbers)) ∧
      cellOf? .jsonb (some (.json numbers)) =
        some (some (1 :: Bytes.ofText "\x7b\"a\":[1,0.5]\x7d")) ∧
      valueOf? .jsonb (some (1 :: Bytes.ofText "\x7b\"a\":[1,0.5]\x7d")) = some numbers := by
  constructor
  · have hfinite : Floating.single.value 0x3dcccccd = .finite false 0xcccccd (-27) := by decide
    have hr : ¬ (Datum.single 0x3dcccccd).Nonfinite := fun hn => hn _ _ _ hfinite
    have h : valueOf? .float4 (some [0x3d, 0xcc, 0xcc, 0xcd]) =
        some (.float ⟨0x3fb99999a0000000⟩) :=
      Double.ofValue_tenth ▸ (Datum.single_returns (by decide) hr).1
    obtain ⟨d, hd, hp, hc, -, -, -⟩ := param_valueOf .float4 _ _ h
    obtain rfl := Option.some.inj hd
    exact ⟨h, hp hr, hc rfl nofun⟩
  · have h : valueOf? .jsonb (some (1 :: Bytes.ofText " \x7b\"a\":[1,0.5]\x7d\n")) =
        some numbers := by
      rw [valueOf?, if_neg (by decide)]
      simp only [Datum.ofBytes?, Datum.jsonOfBytes?, Bytes.toText?_ofText, parse?_numbers,
        Option.bind_some, Option.map_some, Datum.toJson?]
    obtain ⟨d, -, hp, -, hj, -, -⟩ := param_valueOf .jsonb _ _ h
    obtain ⟨rfl, sent, hsent, hbytes, hread⟩ := hj rfl nofun
    rw [render_numbers] at hbytes
    obtain rfl : sent = 1 :: Bytes.ofText "\x7b\"a\":[1,0.5]\x7d" := hbytes
    exact ⟨h, hp id, hsent, hread exact_numbers⟩

/-- The first moment of the year 10000. -/
def laterMoment : Bytes := [0x03, 0x80, 0xe7, 0x0b, 0x91, 0x3b, 0x80, 0x00]

theorem valueOf?_laterMoment :
    valueOf? .timestamptz (some laterMoment) = some (.string "+10000-01-01T00:00:00+00:00") := by
  have hread : Bytes.toInt? 8 laterMoment = some 252455616000000000 := by decide
  rw [valueOf?, if_neg (by decide)]
  simp only [Datum.ofBytes?, hread, Option.map_some, Option.bind_some, Datum.toJson?,
    Calendar.not_universalMoment?_momentText.1]
  rfl

/-- Not every value is bound again as what its cell holds: a nan comes back as SQL's null, SQL's
null as JSON's, and the first moment of the year 10000 not at all. -/
theorem not_param_valueOf :
    (valueOf? .float8 (some [0x7f, 0xf8, 0, 0, 0, 0, 0, 0]) = some .null ∧
      ¬ ∃ d, contentOf? .float8 (some [0x7f, 0xf8, 0, 0, 0, 0, 0, 0]) = some d ∧
        param .float8 .null = .ok d) ∧
    (valueOf? .jsonb none = some .null ∧
      ¬ ∃ d, contentOf? .jsonb none = some d ∧ param .jsonb .null = .ok d) ∧
    valueOf? .timestamptz (some laterMoment) = some (.string "+10000-01-01T00:00:00+00:00") ∧
      ¬ ∃ d, contentOf? .timestamptz (some laterMoment) = some d ∧
        param .timestamptz (.string "+10000-01-01T00:00:00+00:00") = .ok d := by
  refine ⟨⟨by rfl, ?_⟩, ⟨by rfl, ?_⟩, valueOf?_laterMoment, ?_⟩
  · rintro ⟨d, hd, hp⟩
    rw [param_null rfl] at hp
    obtain rfl := Except.ok.inj hp
    cases hd
  · rintro ⟨d, hd, hp⟩
    rw [param_json rfl] at hp
    obtain rfl := Except.ok.inj hp
    cases hd
  · rintro ⟨d, -, hp⟩
    rw [param, if_neg (by decide), if_neg (by decide), Datum.ofJson?, Json.string?,
      Option.bind_some, Calendar.not_universalMoment?_momentText.2] at hp
    cases hp

end Schemata.Postgres
