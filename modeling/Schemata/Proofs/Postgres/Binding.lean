import Schemata.Postgres.Scripted
import Schemata.Proofs.Failure
import Schemata.Proofs.Postgres.Values

/-!
Parameters bound by place. A statement that has been prepared is executed only when every one of its
parameters has a value that converts to the type at its place; otherwise nothing is executed, and
the error names the first value that does not convert. Integers are never wrapped, truncated or
rounded on the way.
-/
namespace Schemata.Postgres

/-! ### Integers -/

namespace SqlType

/-- The least and the greatest number of an integer type. -/
def range? : SqlType → Option (Int × Int)
  | .int2 => some (-32768, 32767)
  | .int4 => some (-2147483648, 2147483647)
  | .int8 => some (-9223372036854775808, 9223372036854775807)
  | _ => none

end SqlType

variable {t : SqlType} {v : Json} {d : Option Datum} {c : Cell} {low high : Int}

/-- Integers are not JSON for PostgreSQL, and they can be sent. -/
theorem of_range?_eq_some (ht : t.range? = some (low, high)) :
    t.isJson = false ∧ t.isTransferable := by
  cases t <;> first | exact ⟨rfl, rfl⟩ | cases ht

/-- The integers of the type stand for themselves, and no other JSON value stands for any. -/
theorem Datum.ofJson?_integer_iff (ht : t.range? = some (low, high)) {x : Datum} :
    ofJson? t v = some x ↔ ∃ n : Int, v = .int n ∧ low ≤ n ∧ n ≤ high ∧ x = .int n := by
  cases t with
  | int2 | int4 | int8 =>
    obtain ⟨rfl, rfl⟩ := Prod.mk.inj (Option.some.inj ht)
    refine (int?_eq_some_iff (by decide)).trans ?_
    refine exists_congr fun n => and_congr_right fun _ => ?_
    rw [← and_assoc, ← and_assoc]
    refine and_congr_left fun _ => ?_
    norm_num
    omega
  | _ => cases ht

theorem param_eq_ok_iff (hj : t.isJson = false) :
    param t v = .ok d ↔
      (v = .null ∧ d = none) ∨ v ≠ .null ∧ ∃ x, Datum.ofJson? t v = some x ∧ d = some x := by
  have hnull : v.isNull = true ↔ v = .null := by cases v <;> simp [Json.isNull]
  by_cases hn : v = .null
  · subst hn
    simp [param_null hj, eq_comm]
  · have hv : v.isNull = false := Bool.eq_false_iff.mpr (mt hnull.mp hn)
    cases hx : Datum.ofJson? t v with
    | none => simp [param, hj, hv, hx, hn]
    | some x => simp [param_of_ofJson? hj hv hx, hn, eq_comm]

/-- Null and the integers of the type convert, and nothing else; an integer converts to itself. -/
theorem param_integer_iff (ht : t.range? = some (low, high)) :
    param t v = .ok d ↔
      (v = .null ∧ d = none) ∨ ∃ n : Int, v = .int n ∧ low ≤ n ∧ n ≤ high ∧ d = some (.int n) := by
  rw [param_eq_ok_iff (of_range?_eq_some ht).1]
  simp only [Datum.ofJson?_integer_iff ht]
  constructor
  · rintro (hnull | ⟨-, _, ⟨n, hv, hlow, hhigh, rfl⟩, hd⟩)
    · exact .inl hnull
    · exact .inr ⟨n, hv, hlow, hhigh, hd⟩
  · rintro (hnull | ⟨n, rfl, hlow, hhigh, hd⟩)
    · exact .inl hnull
    · exact .inr ⟨nofun, _, ⟨n, rfl, hlow, hhigh, rfl⟩, hd⟩

/-- An integer of the type is sent as bytes that are read as the same integer. -/
theorem exists_cellOf?_int (ht : t.range? = some (low, high)) {n : Int} (hlow : low ≤ n)
    (hhigh : n ≤ high) :
    ∃ bytes, cellOf? t (some (.int n)) = some (some bytes) ∧
      Datum.ofBytes? t bytes = some (.int n) := by
  cases t with
  | int2 | int4 | int8 =>
    obtain ⟨rfl, rfl⟩ := Prod.mk.inj (Option.some.inj ht)
    refine ⟨_, rfl, ?_⟩
    simp only [Datum.toBytes, Datum.ofBytes?, reduceCtorEq, if_true, if_false]
    rw [Bytes.toInt?_ofInt (by norm_num; omega) (by norm_num; omega), Option.map_some]
  | _ => cases ht

/-- The conversion error names the value and the type. -/
theorem param_eq_error (h : ∀ d, param t v ≠ .ok d) :
    param t v = .error (.conversion s!"Cannot bind {v.render} as {t.label}") := by
  unfold param at h ⊢
  split_ifs with hj hn
  · exact absurd (if_pos hj) (h _)
  · rw [if_neg hj, if_pos hn] at h
    exact absurd rfl (h _)
  · rw [if_neg hj, if_neg hn] at h
    split
    · rename_i x hx
      rw [hx] at h
      exact absurd rfl (h _)
    · rfl

/-! ### All parameters -/

/-- The value converts to what the cell holds for the type. -/
def Binds (t : SqlType) (v : Json) (c : Cell) : Prop :=
  ∃ d, param t v = .ok d ∧ cellOf? t d = some c

theorem bindAll_eq_mapM (ts : List SqlType) (vs : List Json) :
    bindAll ts vs = (ts.zip vs).mapM fun b => param b.1 b.2 := by
  induction ts generalizing vs with
  | nil => rfl
  | cons t ts ih =>
    cases vs with
    | nil => rfl
    | cons v vs => rw [bindAll, ih, List.zip_cons_cons, List.mapM_cons]

/-- All parameters have cells exactly when each has one at its place. -/
theorem exists_sendAll_iff {ts : List SqlType} {vs : List Json} (hl : ts.length = vs.length)
    (index : Nat) {cells : List Cell} :
    (∃ data, bindAll ts vs = .ok data ∧ sendAll index ts data = .ok cells) ↔
      List.Forall₂ (fun b c => Binds b.1 b.2 c) (ts.zip vs) cells := by
  induction ts generalizing vs index cells with
  | nil => cases cells <;> simp [bindAll, sendAll]
  | cons t ts ih =>
    obtain ⟨v, vs, rfl⟩ := List.exists_cons_of_length_eq_add_one hl.symm
    have hl : ts.length = vs.length := Nat.succ.inj hl
    rw [List.zip_cons_cons, List.forall₂_cons_left_iff]
    simp only [← ih hl (index + 1), bindAll, bind_eq_ok_iff, pure, Except.pure,
      Except.ok.injEq]
    constructor
    · rintro ⟨_, ⟨d, hd, ds, hds, rfl⟩, hs⟩
      rw [sendAll] at hs
      split at hs
      · rename_i c hc
        obtain ⟨cs, hcs, rfl⟩ := map_eq_ok_iff.mp hs
        exact ⟨c, cs, ⟨d, hd, hc⟩, ⟨ds, hds, hcs⟩, rfl⟩
      · cases hs
    · rintro ⟨c, cs, ⟨d, hd, hc⟩, ⟨ds, hds, hcs⟩, rfl⟩
      refine ⟨_, ⟨d, hd, ds, hds, rfl⟩, ?_⟩
      rw [sendAll, hc]
      exact map_eq_ok_iff.mpr ⟨cs, hcs, rfl⟩

/-- Sending stops at the first type whose values cannot be sent. -/
theorem sendAll_eq_error {before after : List SqlType} {data : List (Option Datum)}
    (hl : (before ++ t :: after).length = data.length) (hb : ∀ u ∈ before, u.isTransferable)
    (ht : t.isTransferable = false) (index : Nat) :
    sendAll index (before ++ t :: after) data = .error (index + before.length) := by
  induction before generalizing data index with
  | nil =>
    obtain ⟨d, ds, rfl⟩ := List.exists_cons_of_length_eq_add_one hl.symm
    simp [sendAll, cellOf?, ht]
  | cons u before ih =>
    obtain ⟨d, ds, rfl⟩ := List.exists_cons_of_length_eq_add_one hl.symm
    obtain ⟨hu, hb⟩ := List.forall_mem_cons.mp hb
    rw [List.cons_append, sendAll, cellOf?, if_pos hu, ih (Nat.succ.inj hl) hb,
      List.length_cons, Nat.add_right_comm, Nat.add_assoc]
    rfl

variable {p : Prepared} {vs : List Json}

theorem cellsFor_of_miscounted (hl : p.params.length ≠ vs.length) :
    cellsFor p vs =
      .error (.query s!"Statement expects {p.params.length} parameters, got {vs.length}") := by
  rw [cellsFor, if_pos hl]
  rfl

theorem cellsFor_eq_ok_iff {cells : List Cell} :
    cellsFor p vs = .ok cells ↔
      p.params.length = vs.length ∧
        List.Forall₂ (fun b c => Binds b.1 b.2 c) (p.params.zip vs) cells := by
  by_cases hl : p.params.length = vs.length
  · rw [← exists_sendAll_iff hl 0, cellsFor, if_neg (not_not.mpr hl)]
    simp only [hl, true_and, bind_eq_ok_iff]
    refine exists_congr fun data => and_congr_right fun _ => ?_
    split <;> simp [*, pure, Except.pure]
  · simp [cellsFor_of_miscounted hl, hl]

theorem cellsFor_of_unconverted {before after : List (SqlType × Json)}
    (hl : p.params.length = vs.length) (hz : p.params.zip vs = before ++ (t, v) :: after)
    (hb : ∀ b ∈ before, ∃ d, param b.1 b.2 = .ok d) (hv : ∀ d, param t v ≠ .ok d) :
    cellsFor p vs = .error (.conversion s!"Cannot bind {v.render} as {t.label}") := by
  have hfirst := mapM_eq_error_iff.mpr ⟨before, (t, v), after, hz, hb, param_eq_error hv⟩
  rw [cellsFor, if_neg (not_not.mpr hl), bindAll_eq_mapM, hfirst]
  rfl

theorem cellsFor_of_unsendable {before after : List SqlType} (hl : p.params.length = vs.length)
    (hall : ∀ b ∈ p.params.zip vs, ∃ d, param b.1 b.2 = .ok d)
    (hp : p.params = before ++ t :: after) (hb : ∀ u ∈ before, u.isTransferable)
    (ht : t.isTransferable = false) :
    cellsFor p vs = .error (.query s!"error serializing parameter {before.length}") := by
  obtain ⟨data, hdata⟩ := exists_mapM_eq_ok hall
  have hlen : p.params.length = data.length := by
    have hzip := (mapM_eq_ok_iff.mp hdata).length_eq
    rwa [List.length_zip, ← hl, Nat.min_self] at hzip
  rw [← bindAll_eq_mapM] at hdata
  rw [cellsFor, if_neg (not_not.mpr hl), hdata]
  rw [hp] at hlen ⊢
  simp only [ok_bind]
  rw [sendAll_eq_error hlen hb ht, Nat.zero_add]
  rfl

/-! ### Statements -/

/-- A statement that has been executed, with the cells it was given. -/
abbrev Execution := String × List Cell

namespace Connection

variable {σ : Type}

/-- The connection with a log of what it executes, latest execution last. -/
def logged (c : Connection σ) : Connection (σ × List Execution) where
  prepare sql s := ((c.prepare sql s.1).1, (c.prepare sql s.1).2, s.2)
  execute sql cells s :=
    ((c.execute sql cells s.1).1, (c.execute sql cells s.1).2, s.2 ++ [(sql, cells)])
  batch sql s := ((c.batch sql s.1).1, (c.batch sql s.1).2, s.2)

/-- What comes of running a prepared statement in a state, for a connection with a log. -/
structure Runs (c : Connection σ) (sql : String) (p : Prepared) (vs : List Json) (s : σ)
    (log : List Execution)
    (outcome : Except DbError (List (String × SqlType) × List (List Cell)) × σ × List Execution) :
    Prop where
  miscounted : p.params.length ≠ vs.length →
    outcome = (.error (.query s!"Statement expects {p.params.length} parameters, got {vs.length}"),
      s, log)
  /-- The first value that does not convert is the one that the error names. -/
  unconverted : p.params.length = vs.length → ∀ before t v after,
    p.params.zip vs = before ++ (t, v) :: after →
      (∀ b ∈ before, ∃ d, param b.1 b.2 = .ok d) → (∀ d, param t v ≠ .ok d) →
        outcome = (.error (.conversion s!"Cannot bind {v.render} as {t.label}"), s, log)
  /-- Some types are converted to but cannot be sent. -/
  unsendable : p.params.length = vs.length →
    (∀ b ∈ p.params.zip vs, ∃ d, param b.1 b.2 = .ok d) → ∀ before t after,
      p.params = before ++ t :: after → (∀ u ∈ before, u.isTransferable) →
        t.isTransferable = false →
          outcome = (.error (.query s!"error serializing parameter {before.length}"), s, log)
  executed : p.params.length = vs.length → ∀ cells,
    List.Forall₂ (fun b c => Binds b.1 b.2 c) (p.params.zip vs) cells →
      outcome = (((c.execute sql cells s).1.map fun rows => (p.columns, rows)).mapError .query,
        (c.execute sql cells s).2, log ++ [(sql, cells)])
  /-- Nothing is executed otherwise. -/
  only : outcome.2.2 ≠ log → p.params.length = vs.length ∧ ∃ cells,
    List.Forall₂ (fun b c => Binds b.1 b.2 c) (p.params.zip vs) cells ∧
      outcome.2.2 = log ++ [(sql, cells)]

variable {c : Connection σ} {sql : String} {s s' : σ}

theorem query_of_refused (h : c.prepare sql s = (.ok p, s')) {e : DbError}
    (he : cellsFor p vs = .error e) : c.query sql vs s = (.error e, s') := by
  simp only [query, h, he]

theorem query_of_bound (h : c.prepare sql s = (.ok p, s')) {cells : List Cell}
    (hc : cellsFor p vs = .ok cells) :
    c.query sql vs s =
      (((c.execute sql cells s').1.map fun rows => (p.columns, rows)).mapError .query,
        (c.execute sql cells s').2) := by
  simp only [query, h, hc]
  split <;> simp [*, Except.map, Except.mapError]

theorem prepare_logged (h : c.prepare sql s = (.ok p, s')) (log : List Execution) :
    c.logged.prepare sql (s, log) = (.ok p, s', log) := by
  simp only [logged, h]

/-- The log changes nothing else. -/
theorem query_logged (c : Connection σ) (sql : String) (vs : List Json) (s : σ)
    (log : List Execution) :
    c.query sql vs s =
      ((c.logged.query sql vs (s, log)).1, (c.logged.query sql vs (s, log)).2.1) := by
  match h : c.prepare sql s with
  | (.error reason, s') => simp only [query, logged, h]
  | (.ok p, s') =>
    have hl := prepare_logged h log
    cases hc : cellsFor p vs with
    | error e => rw [query_of_refused h hc, query_of_refused hl hc]
    | ok cells =>
      rw [query_of_bound h hc, query_of_bound hl hc]
      rfl

theorem runs_query (h : c.prepare sql s = (.ok p, s')) (vs : List Json) (log : List Execution) :
    c.Runs sql p vs s' log (c.logged.query sql vs (s, log)) where
  miscounted hl := query_of_refused (prepare_logged h log) (cellsFor_of_miscounted hl)
  unconverted hl _ _ _ _ hz hb hv :=
    query_of_refused (prepare_logged h log) (cellsFor_of_unconverted hl hz hb hv)
  unsendable hl hall _ _ _ hp hb ht :=
    query_of_refused (prepare_logged h log) (cellsFor_of_unsendable hl hall hp hb ht)
  executed hl _ hc := query_of_bound (prepare_logged h log) (cellsFor_eq_ok_iff.mpr ⟨hl, hc⟩)
  only hlog := by
    cases hc : cellsFor p vs with
    | error e =>
      rw [query_of_refused (prepare_logged h log) hc] at hlog
      exact absurd rfl hlog
    | ok cells =>
      obtain ⟨hl, hb⟩ := cellsFor_eq_ok_iff.mp hc
      refine ⟨hl, cells, hb, ?_⟩
      rw [query_of_bound (prepare_logged h log) hc]
      rfl

end Connection

/-- Null is sent as SQL's null, an integer of the type as the bytes that hold it, and nothing else
is sent. -/
theorem binds_integer_iff (ht : t.range? = some (low, high)) :
    Binds t v c ↔
      (v = .null ∧ c = none) ∨ ∃ (n : Int) (bytes : Bytes), v = .int n ∧ low ≤ n ∧ n ≤ high ∧
        c = some bytes ∧ Datum.ofBytes? t bytes = some (.int n) := by
  obtain ⟨hj, hsend⟩ := of_range?_eq_some ht
  simp only [Binds, param_integer_iff ht]
  constructor
  · rintro ⟨_, ⟨rfl, rfl⟩ | ⟨n, rfl, hlow, hhigh, rfl⟩, hc⟩
    · rw [cellOf?, if_pos hsend] at hc
      exact .inl ⟨rfl, (Option.some.inj hc).symm⟩
    · obtain ⟨bytes, hb, hread⟩ := exists_cellOf?_int ht hlow hhigh
      exact .inr ⟨n, bytes, rfl, hlow, hhigh, Option.some.inj (hc.symm.trans hb), hread⟩
  · rintro (⟨rfl, rfl⟩ | ⟨n, bytes, rfl, hlow, hhigh, rfl, hread⟩)
    · exact ⟨none, .inl ⟨rfl, rfl⟩, if_pos hsend⟩
    · refine ⟨_, .inr ⟨n, rfl, hlow, hhigh, rfl⟩, ?_⟩
      have hwritten : (Datum.int n).toBytes t = bytes := by
        refine Datum.toBytes_of_ofBytes? ?_ hj hread
        rintro rfl
        cases ht
      rw [cellOf?, if_pos hsend, Option.map_some, hwritten]

/-- A statement that a connection has prepared is executed only when its parameters are as many as
the values and every value converts; each cell is then made of the value and the type at its place.
Otherwise the error counts the values or names the first that does not convert, and nothing is
executed. Of JSON values, null and the integers in its range convert to an integer type, an integer
to itself and to bytes that are read as the same integer. -/
theorem query_binds_by_place {σ : Type} (c : Connection σ) (sql : String) (p : Prepared)
    (vs : List Json) (s s' : σ) (log : List Execution) (h : c.prepare sql s = (.ok p, s')) :
    c.Runs sql p vs s' log (c.logged.query sql vs (s, log)) ∧
      c.query sql vs s =
        ((c.logged.query sql vs (s, log)).1, (c.logged.query sql vs (s, log)).2.1) ∧
      ∀ t low high, t.range? = some (low, high) → ∀ v,
        (∀ d, param t v = .ok d ↔
          (v = .null ∧ d = none) ∨
            ∃ n : Int, v = .int n ∧ low ≤ n ∧ n ≤ high ∧ d = some (.int n)) ∧
        ∀ cell, Binds t v cell ↔
          (v = .null ∧ cell = none) ∨ ∃ (n : Int) (bytes : Bytes), v = .int n ∧ low ≤ n ∧
            n ≤ high ∧ cell = some bytes ∧ Datum.ofBytes? t bytes = some (.int n) :=
  ⟨Connection.runs_query h vs log, Connection.query_logged c sql vs s log,
    fun _ _ _ ht _ => ⟨fun _ => param_integer_iff ht, fun _ => binds_integer_iff ht⟩⟩

def starredSql : String := "SELECT id FROM review WHERE stars = $1 AND title = $2"

/-- A server that knows one statement, for reviews with so many stars and a title. -/
def starredScripts : List Scripted.Script :=
  [⟨starredSql, ⟨[.int2, .varchar], [("id", .int4)]⟩, [[some [0, 0, 0, 7]]], false, false⟩]

/-- What comes of the statement on a new connection to that server. -/
def starredOutcome (vs : List Json) :=
  (Scripted.connection starredScripts).logged.query starredSql vs ([], [])

/-- Two bytes hold minus two, but not 32768. -/
theorem query_binds_starred :
    starredOutcome [.int (-2), .string "x"] =
        (.ok ([("id", .int4)], [[some [0, 0, 0, 7]]]), [.bound [some [0xff, 0xfe], some [0x78]]],
          [(starredSql, [some [0xff, 0xfe], some [0x78]])]) ∧
      starredOutcome [.int 32768, .string "x"] =
        (.error (.conversion "Cannot bind 32768 as int2"), [], []) ∧
      starredOutcome [.int 1] =
        (.error (.query "Statement expects 2 parameters, got 1"), [], []) := by
  have hruns vs :=
    query_binds_by_place (Scripted.connection starredScripts) starredSql _ vs [] [] [] rfl
  have hint := (hruns []).2.2 .int2 _ _ rfl
  refine ⟨?_, ?_, ?_⟩
  · have hread : Bytes.toInt? 2 [0xff, 0xfe] = some (-2) := by decide
    have hstars : Binds .int2 (.int (-2)) (some [0xff, 0xfe]) :=
      ((hint _).2 _).mpr (.inr ⟨-2, _, rfl, by decide, by decide, rfl,
        congrArg (Option.map Datum.int) hread⟩)
    have htitle : Binds .varchar (.string "x") (some [0x78]) := ⟨_, rfl, rfl⟩
    exact (hruns _).1.executed rfl _ (.cons hstars (.cons htitle .nil))
  · refine (hruns _).1.unconverted rfl [] .int2 (.int 32768) _ rfl (by simp) fun d hd => ?_
    obtain ⟨hnull, -⟩ | ⟨n, hn, -, hhigh, -⟩ := ((hint _).1 d).mp hd
    · cases hnull
    · obtain rfl := Json.int.inj hn
      revert hhigh
      decide
  · exact (hruns _).1.miscounted (by decide)

end Schemata.Postgres
