import Schemata.Proofs.Acceptance
import Schemata.Proofs.Sessions

/-!
Records stored. A record with a key that is no field is refused before anything is sent, and of
several such keys the first is named. Any other record is a single insertion: the columns that it
fills, in field order, as many placeholders, and the values as parameters. Columns and parameters
are the two sides of one list, so a value cannot get into another column than its own.
-/
namespace Schemata

/-- Whether an insertion gives the field the value, if there is one. A serial field leaves null to
the database. -/
def Field.takes (x : Field) : Option Json → Bool
  | none => false
  | some .null => x.dataType ≠ .serial
  | some _ => true

theorem Field.takes_some (x : Field) (v : Json) :
    x.takes (some v) = !(x.isSerial && v.isNull) := by
  cases v <;> simp [takes, isSerial, Json.isNull, beq_eq_decide]

namespace DataFormat

variable {f : DataFormat} {record : Record} {key : String}

/-- The key is the first of the record's that names no field. -/
def FirstUnknown (f : DataFormat) (record : Record) (key : String) : Prop :=
  ∃ front rest, Dict.keys record = front ++ key :: rest ∧
    (∀ k ∈ front, k ∈ f.fields.map (·.name)) ∧ key ∉ f.fields.map (·.name)

/-- Columns with their values, for the fields that take what they are given, in field order. -/
def Fills (f : DataFormat) (value : Field → Option Json) (values : List (String × Json)) : Prop :=
  List.Forall₂ (fun x p => p.1 = x.columnName ∧ value x = some p.2)
    (f.fields.filter fun x => x.takes (value x)) values

theorem hasField_iff_mem : f.hasField key = true ↔ key ∈ f.fields.map (·.name) :=
  (f.hasField_iff key).trans List.mem_map.symm

theorem firstUnknown_iff :
    f.FirstUnknown record key ↔
      (Dict.keys record).find? (fun key => !f.hasField key) = some key := by
  simp only [List.find?_eq_some_iff_append, FirstUnknown, Bool.not_eq_true', Bool.not_not,
    ← Bool.not_eq_true, hasField_iff_mem]
  constructor
  · rintro ⟨front, rest, hk, hfront, hkey⟩
    exact ⟨hkey, front, rest, hk, hfront⟩
  · rintro ⟨hkey, front, rest, hk, hfront⟩
    exact ⟨front, rest, hk, hfront, hkey⟩

/-- Either all keys name fields or one is the first that does not. -/
theorem find?_unknown_eq_none_iff :
    (Dict.keys record).find? (fun key => !f.hasField key) = none ↔
      ∀ key ∈ Dict.keys record, key ∈ f.fields.map (·.name) := by
  simp only [List.find?_eq_none, Bool.not_eq_true', Bool.not_eq_false, hasField_iff_mem]

theorem declared_or_firstUnknown (f : DataFormat) (record : Record) :
    (∀ key ∈ Dict.keys record, key ∈ f.fields.map (·.name)) ∨ ∃ key, f.FirstUnknown record key := by
  cases hu : (Dict.keys record).find? fun key => !f.hasField key with
  | none => exact .inl (find?_unknown_eq_none_iff.mp hu)
  | some key => exact .inr ⟨key, firstUnknown_iff.mpr hu⟩

/-- The columns are those of the fields, with gaps. -/
theorem Fills.sublist {value : Field → Option Json} {values : List (String × Json)}
    (h : f.Fills value values) : (values.map (·.1)).Sublist f.columnNames := by
  have hc : List.Forall₂ (· = ·) (values.map (·.1))
      ((f.fields.filter fun x => x.takes (value x)).map (·.columnName)) := by
    rw [List.forall₂_map_left_iff, List.forall₂_map_right_iff]
    exact h.flip.imp fun _ _ hp => hp.1
  rw [List.forall₂_eq_eq_eq] at hc
  rw [hc]
  exact List.filter_sublist.map _

end DataFormat

namespace Store

variable {t : Store} {record : Record}

/-! ### The insertion of values -/

/-- The statement is the insertion of the values: they are its parameters in order, each has a
placeholder with its number, and where there are none the row is made of defaults. It asks for the
stored row. -/
structure Inserts (t : Store) (values : List (String × Json)) (st : Statement) : Prop where
  kind : st.kind = .first
  params : st.params = values.map (·.2)
  sql : ∃ placeholders : List String, placeholders.length = values.length ∧
    (∀ i < values.length, placeholders[i]? = some ("$" ++ toString (i + 1))) ∧
    st.sql = "INSERT INTO " ++ t.options.schema ++ "." ++ t.format.tableName ++ " " ++
      (if values = [] then "DEFAULT VALUES"
        else "(" ++ String.intercalate ", " (values.map (·.1)) ++ ") VALUES (" ++
          String.intercalate ", " placeholders ++ ")") ++
      " RETURNING " ++ String.intercalate ", " (t.format.fields.map (·.columnName))

/-- Sends the statement and reads the stored row. -/
def insert {σ : Type} (t : Store) (db : Database σ) (st : Statement) (s : σ) :
    Except StoreError Outcome × σ :=
  let (answer, s) := db.first st.sql st.params s
  ((answer.map fun row => .record (row.map t.format.recordOfRow)).mapError .database, s)

/-- The insertion of values as a store issues it. -/
def insertion (t : Store) (values : List (String × Json)) : Statement :=
  ⟨.first, (Sql.Query.insert t.table (values.map (·.1)) t.columns).render, values.map (·.2)⟩

theorem length_placeholders (n : Nat) : (Sql.placeholders n).length = n := by
  simp [Sql.placeholders]

theorem getElem?_placeholders {n i : Nat} (h : i < n) :
    (Sql.placeholders n)[i]? = some ("$" ++ toString (i + 1)) := by
  rw [Sql.placeholders, List.getElem?_map, List.getElem?_range h, Option.map_some]
  rfl

theorem inserts_insertion (t : Store) (values : List (String × Json)) :
    t.Inserts values (t.insertion values) where
  kind := rfl
  params := rfl
  sql := by
    refine ⟨Sql.placeholders values.length, length_placeholders _,
      fun i hi => getElem?_placeholders hi, ?_⟩
    dsimp only [insertion, Sql.Query.render, Sql.TableName.render, Sql.commaList, table, columns,
      DataFormat.columnNames, SqlOptions.qualify]
    cases values <;>
      simp only [List.map_nil, List.map_cons, List.length_cons, List.length_map, if_true,
        reduceCtorEq, if_false, toString, String.append_assoc]

theorem insert_ne_unknownField {σ : Type} (t : Store) (db : Database σ) (st : Statement) (s : σ)
    (format key : String) : (t.insert db st s).1 ≠ .error (.unknownField format key) := by
  have hd : ∀ x : Except DbError Outcome,
      x.mapError StoreError.database ≠ .error (.unknownField format key) := by
    rintro (e | out) <;> simp [Except.mapError]
  exact hd _

/-! ### What is done with a record -/

theorem add_of_firstUnknown {key : String} (h : t.format.FirstUnknown record key) :
    t.add record = .error (.unknownField t.format.name key) := by
  rw [add, DataFormat.firstUnknown_iff.mp h]

theorem add_of_declared (h : ∀ key ∈ Dict.keys record, key ∈ t.format.fields.map (·.name)) :
    t.add record = .ok (.first (t.insertion (t.assignments record)).sql
      (t.insertion (t.assignments record)).params t.readRow) := by
  simp only [add, DataFormat.find?_unknown_eq_none_iff.mpr h, insertion]

/-- What is assigned is what the record has for the fields. -/
theorem fills_assignments {value : Field → Option Json}
    (h : ∀ x ∈ t.format.fields, Dict.find? record x.name = value x) :
    t.format.Fills value (t.assignments record) := by
  unfold DataFormat.Fills assignments
  generalize t.format.fields = xs at h ⊢
  induction xs with
  | nil => exact .nil
  | cons x xs ih =>
    obtain ⟨hx, hxs⟩ := List.forall_mem_cons.mp h
    have ih := ih hxs
    cases hv : value x with
    | none => simpa [Field.takes, hx, hv] using ih
    | some v =>
      cases hs : x.isSerial <;> cases hnull : v.isNull <;>
        simpa [Field.takes_some, hx, hv, hs, hnull] using ih

theorem issued_add_of_declared
    (h : ∀ key ∈ Dict.keys record, key ∈ t.format.fields.map (·.name)) :
    t.issued (.add record) = .ok (t.insertion (t.assignments record)) := by
  rw [issued, add_of_declared h]
  rfl

/-- What is sent for a record does not depend on the order of its keys. -/
theorem issued_add_of_perm {other : Record} (hn : (Dict.keys record).Nodup)
    (hp : record.Perm other) :
    (t.issued (.add other)).toOption = (t.issued (.add record)).toOption := by
  have hk : ∀ key, key ∈ Dict.keys record ↔ key ∈ Dict.keys other := fun _ => (hp.map _).mem_iff
  obtain hd | ⟨key, hu⟩ := t.format.declared_or_firstUnknown record
  · have ha : t.assignments record = t.assignments other := by
      simp only [assignments, Dict.find?_of_perm hp hn]
    rw [issued_add_of_declared hd, issued_add_of_declared fun key h => hd key ((hk key).mpr h), ha]
  · obtain hd | ⟨key', hu'⟩ := t.format.declared_or_firstUnknown other
    · obtain ⟨front, rest, he, -, hno⟩ := hu
      exact absurd (hd key ((hk key).mp (by simp [he]))) hno
    · rw [issued, issued, add_of_firstUnknown hu, add_of_firstUnknown hu']
      rfl

theorem perform_add_of_firstUnknown {σ : Type} {key : String}
    (h : t.format.FirstUnknown record key) (db : Database σ) (s : σ) :
    t.perform db (.add record) s = (.error (.unknownField t.format.name key), s) := by
  rw [perform, add_of_firstUnknown h]
  rfl

theorem perform_add_of_declared {σ : Type}
    (h : ∀ key ∈ Dict.keys record, key ∈ t.format.fields.map (·.name)) (db : Database σ) (s : σ) :
    t.perform db (.add record) s = t.insert db (t.insertion (t.assignments record)) s := by
  rw [perform, add_of_declared h]
  simp only [Request.sendIfMade, Request.send, insert]
  cases (db.first (t.insertion (t.assignments record)).sql
    (t.insertion (t.assignments record)).params s).1 <;> rfl

end Store

/-- A record with a key that is no field is refused, with its first such key, and nothing is sent.
Any other is one insertion, whatever the handle makes of it: the columns of the fields that the
record has, but for serial fields that are null, are listed once each in field order, their values
are the parameters in the same order, and without any the statement asks for the defaults. The order
of the record's keys does not show in what is sent. -/
theorem add_inserts (fs : List DataFormat) (hv : Validation.formats [] fs = .ok ()) (t : Store)
    (ht : t.format ∈ fs) (record : Record) :
    (∀ (σ : Type) (db : Database σ) (s : σ) (format key : String),
        (t.perform db (.add record) s).1 = .error (.unknownField format key) ↔
          format = t.format.name ∧ t.format.FirstUnknown record key) ∧
      (∀ key, t.format.FirstUnknown record key → ∀ (σ : Type) (db : Database σ) (s : σ),
        t.perform db (.add record) s = (.error (.unknownField t.format.name key), s)) ∧
      ((∀ key ∈ Dict.keys record, key ∈ t.format.fields.map (·.name)) →
        ∃ values st, t.format.Fills (fun x => Dict.find? record x.name) values ∧
          (values.map (·.1)).Nodup ∧ t.Inserts values st ∧ t.issued (.add record) = .ok st ∧
          ∀ (σ : Type) (db : Database σ) (s : σ),
            t.perform db (.add record) s = t.insert db st s) ∧
      ∀ other : Record, (Dict.keys record).Nodup → record.Perm other →
        (t.issued (.add other)).toOption = (t.issued (.add record)).toOption := by
  have hc := Validation.nodup_columnNames hv ht
  refine ⟨fun σ db s format key => ⟨fun h => ?_, ?_⟩, ?_, fun hd => ?_, fun other hn hp => ?_⟩
  · obtain hd | ⟨unknown, hu⟩ := t.format.declared_or_firstUnknown record
    · rw [Store.perform_add_of_declared hd] at h
      exact absurd h (t.insert_ne_unknownField db _ s format key)
    · rw [Store.perform_add_of_firstUnknown hu] at h
      obtain ⟨rfl, rfl⟩ := StoreError.unknownField.inj (Except.error.inj h)
      exact ⟨rfl, hu⟩
  · rintro ⟨rfl, hu⟩
    rw [Store.perform_add_of_firstUnknown hu]
  · exact fun key hu σ db s => Store.perform_add_of_firstUnknown hu db s
  · have hf : t.format.Fills (fun x => Dict.find? record x.name) (t.assignments record) :=
      Store.fills_assignments fun _ _ => rfl
    exact ⟨_, _, hf, hc.sublist hf.sublist, t.inserts_insertion _,
      Store.issued_add_of_declared hd, fun σ db s => Store.perform_add_of_declared hd db s⟩
  · exact Store.issued_add_of_perm hn hp

/-- The store of reviews, without accessors. -/
def reviews : Store :=
  let format : DataFormat := ⟨"review", none,
    [⟨"id", .serial, none, false, false⟩, ⟨"userId", .integer, none, false, false⟩]⟩
  ⟨format, .standard, [], format.createTable [] .standard⟩

/-- The order of keys does not matter, and an identity that is null is left out. -/
theorem add_inserts_reviews :
    Validation.formats [] reviewSchema.formats = .ok () ∧ reviews.format ∈ reviewSchema.formats ∧
      (∃ values st,
        reviews.format.Fills (fun x => Dict.find? [("userId", .int 3), ("id", .int 1)] x.name)
            values ∧
          reviews.Inserts values st ∧
          st.sql = "INSERT INTO public.review (id, user_id) VALUES ($1, $2) RETURNING id, user_id" ∧
          st.params = [.int 1, .int 3] ∧
          reviews.issued (.add [("userId", .int 3), ("id", .int 1)]) = .ok st) ∧
      (reviews.issued (.add [("userId", .int 3), ("id", .null)])).toOption =
        some ⟨.first, "INSERT INTO public.review (user_id) VALUES ($1) RETURNING id, user_id",
          [.int 3]⟩ ∧
      ∀ (σ : Type) (db : Database σ) (s : σ),
        reviews.perform db (.add [("userId", .int 3), ("stars", .int 5)]) s =
          (.error (.unknownField "review" "stars"), s) := by
  have hv : Validation.formats [] reviewSchema.formats = .ok () := by rfl
  have ht : reviews.format ∈ reviewSchema.formats := .head _
  have hn : (Dict.keys [("id", Json.null), ("userId", .int 3)]).Nodup := by decide
  obtain ⟨-, -, hadd, -⟩ := add_inserts _ hv reviews ht [("userId", .int 3), ("id", .int 1)]
  obtain ⟨values, st, hfills, -, hst, hi, -⟩ := hadd (by decide)
  obtain ⟨-, -, -, hperm⟩ :=
    add_inserts _ hv reviews ht [("id", .null), ("userId", .int 3)]
  obtain ⟨-, hrefused, -⟩ := add_inserts _ hv reviews ht [("userId", .int 3), ("stars", .int 5)]
  have hu : reviews.format.FirstUnknown [("userId", .int 3), ("stars", .int 5)] "stars" :=
    ⟨["userId"], [], rfl, by decide, by decide⟩
  obtain rfl := Except.ok.inj hi
  exact ⟨hv, ht, ⟨values, _, hfills, hst, by rfl, rfl, hi⟩,
    (hperm _ hn (.swap _ _ [])).trans rfl, hrefused "stars" hu⟩

end Schemata
