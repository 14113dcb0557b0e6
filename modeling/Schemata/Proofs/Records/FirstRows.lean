import Schemata.Postgres.Scripted
import Schemata.Proofs.Failure
import Schemata.Proofs.Records.Insertion
import Schemata.Recording

/-!
The first of many rows. A handle that is asked for the first row answers with the first of the rows
it would give if it were asked for all, and where it fails for the first it fails for all with the
same error. It may still fail for all where it does not for the first, since a later row need not
convert. Records made of rows inherit this.
-/
namespace Schemata

variable {ε ε' α β : Type} {all : Except ε (List α)} {one : Except ε (Option α)}

/-- Where all are given, one is the first of them, and where one is refused, so are all. -/
structure FirstOf (all : Except ε (List α)) (one : Except ε (Option α)) : Prop where
  head : ∀ rows, all = .ok rows → one = .ok rows.head?
  error : ∀ e, one = .error e → all = .error e

namespace FirstOf

theorem refused (e : ε) : FirstOf (.error e : Except ε (List α)) (.error e) :=
  ⟨nofun, fun _ h => by rw [Except.error.inj h]⟩

theorem map_head? (all : Except ε (List α)) : FirstOf all (all.map List.head?) where
  head rows h := by rw [h]; rfl
  error _ h := map_eq_error_iff.mp h

/-- One row is converted in place of all. -/
theorem mapM (f : α → Except ε β) (row : α) (rows : List α) :
    FirstOf ((row :: rows).mapM f) ((f row).map some) where
  head records h := by
    obtain ⟨record, records, hr, -, rfl⟩ := List.forall₂_cons_left_iff.mp (mapM_eq_ok_iff.mp h)
    rw [hr]
    rfl
  error e h := mapM_eq_error_iff.mpr ⟨[], row, rows, rfl, by simp, map_eq_error_iff.mp h⟩

theorem map (h : FirstOf all one) (f : α → β) :
    FirstOf (all.map (List.map f)) (one.map (Option.map f)) where
  head records hr := by
    obtain ⟨rows, hrows, rfl⟩ := map_eq_ok_iff.mp hr
    rw [h.head rows hrows, List.head?_map]
    rfl
  error e he := map_eq_error_iff.mpr (h.error e (map_eq_error_iff.mp he))

theorem mapError (h : FirstOf all one) (f : ε → ε') :
    FirstOf (all.mapError f) (one.mapError f) where
  head rows hr := mapError_eq_ok_iff.mpr (h.head rows (mapError_eq_ok_iff.mp hr))
  error e he := by
    obtain ⟨e', he', rfl⟩ := mapError_eq_error_iff.mp he
    exact mapError_eq_error_iff.mpr ⟨e', h.error e' he', rfl⟩

end FirstOf

/-! ### Handles -/

variable {σ : Type} {sql : String} {params : List Json} {s s' : σ}

theorem Recording.firstOf (responses : List Response) (sql : String) (params : List Json)
    (log log' : List Statement) :
    FirstOf ((database responses).rows sql params log).1
      ((database responses).first sql params log').1 :=
  .map_head? _

/-- A connection that gives the same answer. -/
theorem Postgres.Connection.firstOf {c : Connection σ}
    (h : (c.query sql params s).1 = (c.query sql params s').1) :
    FirstOf (c.database.rows sql params s).1 (c.database.first sql params s').1 := by
  simp only [database]
  match hs : c.query sql params s, hs' : c.query sql params s' with
  | (answer, _), (answer', _) =>
    rw [hs, hs'] at h
    obtain rfl : answer = answer' := h
    match answer with
    | .error e => exact .refused e
    | .ok (_, []) => exact .map_head? (.ok [])
    | .ok (columns, row :: rows) => exact .mapM _ row rows

/-! ### Stores -/

namespace Store

/-- Records are first among records as rows among rows. -/
theorem firstOf_getBy (t : Store) (db : Database σ) (field : String) (value : Json)
    (h : ∀ st, t.issued (.getManyBy field value) = .ok st →
      FirstOf (db.rows st.sql st.params s).1 (db.first st.sql st.params s').1) :
    FirstOf (Request.sendIfMade db (t.getManyBy field value) s).1
      (Request.sendIfMade db (t.getBy field value) s').1 := by
  cases hc : t.column field with
  | error e =>
    simp only [getBy, getManyBy, hc, error_bind]
    exact .refused e
  | ok column =>
    have hmany : t.getManyBy field value = _ := bind_eq_ok_iff.mpr ⟨column, hc, rfl⟩
    have hone : t.getBy field value = _ := bind_eq_ok_iff.mpr ⟨column, hc, rfl⟩
    have hdb := h _ (map_eq_ok_iff.mpr ⟨_, hmany, rfl⟩)
    rw [hmany, hone]
    exact (hdb.map t.format.recordOfRow).mapError StoreError.database

theorem issued_of_column {t : Store} {field column : String} (h : t.column field = .ok column)
    (value : Json) :
    ∃ sql, t.issued (.getManyBy field value) = .ok ⟨.rows, sql, [value]⟩ ∧
      t.issued (.getBy field value) = .ok ⟨.first, sql, [value]⟩ := by
  refine ⟨(Sql.Query.matching t.table t.columns column).render, ?_, ?_⟩
  · exact map_eq_ok_iff.mpr ⟨_, bind_eq_ok_iff.mpr ⟨column, h, rfl⟩, rfl⟩
  · exact map_eq_ok_iff.mpr ⟨_, bind_eq_ok_iff.mpr ⟨column, h, rfl⟩, rfl⟩

/-- For a field of the format both operations ask the same, with the value as the only parameter. -/
theorem issued_getBy (t : Store) (field : String) (value : Json) :
    (t.format.hasField field → ∃ sql,
        t.issued (.getManyBy field value) = .ok ⟨.rows, sql, [value]⟩ ∧
          t.issued (.getBy field value) = .ok ⟨.first, sql, [value]⟩) ∧
      (¬ t.format.hasField field →
        t.issued (.getManyBy field value) = .error (.unknownField t.format.name field) ∧
          t.issued (.getBy field value) = .error (.unknownField t.format.name field)) := by
  cases hc : t.column field with
  | ok column =>
    refine ⟨fun _ => issued_of_column hc value, fun hno => ?_⟩
    exact absurd (hc.symm.trans (column_eq_error_iff.mpr ⟨hno, rfl⟩)) (by simp)
  | error e =>
    obtain ⟨hno, rfl⟩ := column_eq_error_iff.mp hc
    refine ⟨fun h => absurd h hno, fun _ => ?_⟩
    simp only [issued, getBy, getManyBy, hc, error_bind]
    exact ⟨rfl, rfl⟩

end Store

/-- A recording handle that is asked for the first row gives the first of the rows it would give,
and so does a connection with the same answer from the server, whatever becomes of later rows; where
one of them fails for the first row, it fails for all rows with the same error. So where all records
whose field has a value are found, the first of them is what is found when one is asked for. Both
operations issue the same text with the same parameter, or are refused with the same error. -/
theorem first_row_of_rows :
    (∀ responses sql params log log',
        FirstOf ((Recording.database responses).rows sql params log).1
          ((Recording.database responses).first sql params log').1) ∧
      (∀ (σ : Type) (c : Postgres.Connection σ) sql params s s',
        (c.query sql params s).1 = (c.query sql params s').1 →
          FirstOf (c.database.rows sql params s).1 (c.database.first sql params s').1) ∧
      ∀ (t : Store) field value,
        (t.format.hasField field → ∃ sql,
            t.issued (.getManyBy field value) = .ok ⟨.rows, sql, [value]⟩ ∧
              t.issued (.getBy field value) = .ok ⟨.first, sql, [value]⟩) ∧
          (¬ t.format.hasField field →
            t.issued (.getManyBy field value) = .error (.unknownField t.format.name field) ∧
              t.issued (.getBy field value) = .error (.unknownField t.format.name field)) ∧
          (∀ responses log log',
            FirstOf
              (Request.sendIfMade (Recording.database responses) (t.getManyBy field value) log).1
              (Request.sendIfMade (Recording.database responses) (t.getBy field value) log').1) ∧
          ∀ (σ : Type) (c : Postgres.Connection σ) s s',
            (∀ st, t.issued (.getManyBy field value) = .ok st →
              (c.query st.sql st.params s).1 = (c.query st.sql st.params s').1) →
              FirstOf (Request.sendIfMade c.database (t.getManyBy field value) s).1
                (Request.sendIfMade c.database (t.getBy field value) s').1 := by
  refine ⟨Recording.firstOf, fun _ _ _ _ _ _ => Postgres.Connection.firstOf, ?_⟩
  intro t field value
  obtain ⟨hsame, hrefused⟩ := t.issued_getBy field value
  refine ⟨hsame, hrefused, fun responses log log' => ?_, fun σ c s s' h => ?_⟩
  · exact t.firstOf_getBy _ field value fun st _ => Recording.firstOf responses _ _ log log'
  · exact t.firstOf_getBy _ field value fun st hst => Postgres.Connection.firstOf (h st hst)

/-- A server with reviews of the third user. -/
def reviewServer (rows : List (List Postgres.Cell)) :
    Postgres.Connection (List Postgres.Scripted.Received) :=
  Postgres.Scripted.connection
    [⟨"SELECT id, user_id FROM public.review WHERE user_id = $1",
      ⟨[.int4], [("id", .int4), ("user_id", .int4)]⟩, rows, false, false⟩]

set_option maxRecDepth 2000 in
/-- Of two reviews the first is found. Where a cell of the first is too short, none is. -/
theorem first_row_of_rows_reviews :
    (Request.sendIfMade
        (reviewServer [[some [0, 0, 0, 7], some [0, 0, 0, 3]],
          [some [0, 0, 0, 9], some [0, 0, 0, 3]]]).database
        (reviews.getBy "userId" (.int 3)) []).1 =
      .ok (some [("id", .int 7), ("userId", .int 3)]) ∧
    (Request.sendIfMade (reviewServer [[some [0, 7], none], [none, none]]).database
        (reviews.getManyBy "userId" (.int 3)) []).1 =
      .error (.database (.conversion "error deserializing column 0")) := by
  have hstore := first_row_of_rows.2.2 reviews "userId" (.int 3)
  have hfirst rows := hstore.2.2.2 _ (reviewServer rows) [] [] fun _ _ => rfl
  refine ⟨(hfirst _).head [[("id", .int 7), ("userId", .int 3)],
    [("id", .int 9), ("userId", .int 3)]] ?_, (hfirst _).error _ ?_⟩
  · rfl
  · rfl

end Schemata
