import Schemata.Proofs.Accessors.Plans
import Schemata.Proofs.Records.Insertion
import Schemata.Proofs.Records.Rekeying

/-!
Records given back. Whatever the operation, the statement asks for the columns of one format, and
each row of the answer becomes a record of that format. So where a handle answers with the columns
that it is asked for, records have the fields of their format in order. Such a record can be stored
again, and the insertion gives each column what the row had in it.
-/
namespace Schemata

variable {α : Type}

/-- The columns of the rows that a statement gives. -/
def Sql.Query.selectList : Sql.Query → List String
  | .all _ columns | .matching _ columns _ | .related _ columns _ => columns
  | .insert _ _ returning | .delete _ _ returning => returning

/-- The text asks for the columns: those of the table it selects from, those of the rows `r` that it
relates to others, or those of the rows it has stored or deleted. -/
def AsksFor (sql : String) (columns : List String) : Prop :=
  (∃ rest, sql = "SELECT " ++ String.intercalate ", " columns ++ " FROM " ++ rest) ∨
    (∃ rest,
      sql = "SELECT " ++ String.intercalate ", " (columns.map ("r." ++ ·)) ++ " FROM " ++ rest) ∨
    ∃ front, sql = front ++ " RETURNING " ++ String.intercalate ", " columns

theorem Sql.Query.asksFor (q : Sql.Query) : AsksFor q.render q.selectList := by
  cases q with
  | all table columns => exact .inl ⟨table.render, rfl⟩
  | matching table columns column =>
    refine .inl ⟨table.render ++ " WHERE " ++ column ++ " = $1", ?_⟩
    dsimp only [render, selectList, commaList]
    simp only [toString, String.append_assoc]
  | related table columns route =>
    obtain ⟨rest, hr⟩ : ∃ rest, (related table columns route).render =
        s!"SELECT {commaList (columns.map aliased)} FROM {table.render} r" ++ rest := ⟨_, rfl⟩
    refine .inr (.inl ⟨table.render ++ " r" ++ rest, ?_⟩)
    rw [hr]
    dsimp only [selectList, commaList, aliased]
    simp only [toString, String.append_assoc]
    rfl
  | insert table values returning =>
    obtain ⟨front, hf⟩ : ∃ front, (insert table values returning).render =
        front ++ s!" RETURNING {commaList returning}" := ⟨_, rfl⟩
    exact .inr (.inr ⟨front, by rw [hf, String.append_assoc]; rfl⟩)
  | delete table column returning =>
    have hcut : " = $1 RETURNING " = " = $1" ++ " RETURNING " := rfl
    refine .inr (.inr ⟨"DELETE FROM " ++ table.render ++ " WHERE " ++ column ++ " = $1", ?_⟩)
    dsimp only [render, selectList, commaList]
    simp only [toString, hcut, String.append_assoc]

/-- The rows with which a handle answers a statement. -/
def Database.answer {σ : Type} (db : Database σ) (st : Statement) (s : σ) :
    Except DbError (List Record) :=
  match st.kind with
  | .rows => (db.rows st.sql st.params s).1
  | .first => (db.first st.sql st.params s).1.map Option.toList
  | .batch => .ok []

def Outcome.toList : Outcome → List Record
  | .record r => r.toList
  | .records rs => rs
  | .related r => r.toList
  | .done => []

/-! ### Requests -/

/-- The request asks for the columns of a format and makes its records of the rows. -/
structure Request.Selects (f : DataFormat) (list : α → List Record) (r : Request α) : Prop where
  sql : ∃ q : Sql.Query, r.statement.sql = q.render ∧ q.selectList = f.columnNames
  read : ∀ {σ : Type} (db : Database σ) (s : σ) (rows : List Record),
    db.answer r.statement s = .ok rows →
      ∃ a, (r.send db s).1 = .ok a ∧ list a = rows.map f.recordOfRow

namespace Request

variable {f : DataFormat} {list : α → List Record} {q : Sql.Query}

theorem selects_rows (hq : q.selectList = f.columnNames) (params : List Json)
    {read : List Record → α} (hr : ∀ rows, list (read rows) = rows.map f.recordOfRow) :
    (rows q.render params read).Selects f list := by
  refine ⟨⟨q, rfl, hq⟩, fun db s rows h => ⟨read rows, ?_, hr rows⟩⟩
  have hrows : (db.rows q.render params s).1 = .ok rows := h
  simp only [send, hrows]
  rfl

theorem selects_first (hq : q.selectList = f.columnNames) (params : List Json)
    {read : Option Record → α} (hr : ∀ row, list (read row) = row.toList.map f.recordOfRow) :
    (first q.render params read).Selects f list := by
  refine ⟨⟨q, rfl, hq⟩, fun db s rows h => ?_⟩
  have hrows : (db.first q.render params s).1.map Option.toList = .ok rows := h
  obtain ⟨row, hrow, rfl⟩ := map_eq_ok_iff.mp hrows
  refine ⟨read row, ?_, hr row⟩
  simp only [send, hrow]
  rfl

end Request

theorem Accessor.selects_call {a : Accessor}
    (h : a.plan.query.selectList = a.target.columnNames) (value : Json) :
    (a.call value).Selects a.target Related.toList := by
  unfold call
  split
  · exact Request.selects_rows h _ fun _ => rfl
  · exact Request.selects_first h _ fun row => by cases row <;> rfl

/-! ### Operations -/

namespace Store

variable {t : Store} {f : DataFormat}

/-- The format of the records that an operation gives. -/
def subject? (t : Store) : Operation → Option DataFormat
  | .getAll | .getBy .. | .getManyBy .. | .add _ | .deleteBy .. => some t.format
  | .call accessor _ => (t.accessor? accessor).map (·.target)
  | .provision | .unprovision => none

/-- The operation issues the statement, which asks for the columns of the format, and makes records
of the rows. -/
structure Retrieves (t : Store) (op : Operation) (st : Statement) (f : DataFormat) : Prop where
  sql : ∃ q : Sql.Query, st.sql = q.render ∧ q.selectList = f.columnNames
  outcome : ∀ {σ : Type} (db : Database σ) (s : σ) (rows : List Record),
    db.answer st s = .ok rows →
      ∃ out, (t.perform db op s).1 = .ok out ∧ out.toList = rows.map f.recordOfRow

/-- An operation that does nothing but send its request retrieves what the request selects. -/
theorem retrieves_of_selects {op : Operation} {r : Except StoreError (Request α)} {q : Request α}
    {g : α → Outcome}
    (hp : ∀ {σ : Type} (db : Database σ) (s : σ),
      t.perform db op s = (Request.sendIfMade db r s).map (·.map g) id)
    (hr : r = .ok q) (hs : q.Selects f fun a => (g a).toList) :
    t.Retrieves op q.statement f := by
  refine ⟨hs.sql, fun db s rows h => ?_⟩
  obtain ⟨a, ha, hl⟩ := hs.read db s rows h
  refine ⟨g a, ?_, hl⟩
  rw [hp, hr, Request.sendIfMade, Prod.map_fst, ha]
  rfl

theorem toList_readRow (t : Store) (row : Option Record) :
    (Outcome.record (t.readRow row)).toList = row.toList.map t.format.recordOfRow := by
  cases row <;> rfl

/-- Whatever is asked for rows is asked for the columns of its subject. -/
theorem retrieves_of_issued (ha : ∀ a ∈ t.accessors, a.plan.query.selectList = a.target.columnNames)
    {op : Operation} {st : Statement} (hf : t.subject? op = some f) (h : t.issued op = .ok st) :
    t.Retrieves op st f := by
  cases op with
  | getAll =>
    obtain rfl := Option.some.inj hf
    obtain rfl := Except.ok.inj h
    exact retrieves_of_selects (r := .ok t.getAll) (fun _ _ => rfl) rfl
      (Request.selects_rows rfl _ fun _ => rfl)
  | getBy field value =>
    obtain rfl := Option.some.inj hf
    obtain ⟨q, hq, rfl⟩ := map_eq_ok_iff.mp h
    refine retrieves_of_selects (fun _ _ => rfl) hq ?_
    obtain ⟨c, -, hq⟩ := bind_eq_ok_iff.mp hq
    obtain rfl := Except.ok.inj hq
    exact Request.selects_first rfl _ t.toList_readRow
  | getManyBy field value | deleteBy field value =>
    obtain rfl := Option.some.inj hf
    obtain ⟨q, hq, rfl⟩ := map_eq_ok_iff.mp h
    refine retrieves_of_selects (fun _ _ => rfl) hq ?_
    obtain ⟨c, -, hq⟩ := bind_eq_ok_iff.mp hq
    obtain rfl := Except.ok.inj hq
    exact Request.selects_rows rfl _ fun _ => rfl
  | add record =>
    obtain rfl := Option.some.inj hf
    obtain ⟨q, hq, rfl⟩ := map_eq_ok_iff.mp h
    refine retrieves_of_selects (fun _ _ => rfl) hq ?_
    unfold add at hq
    split at hq
    · cases hq
    · obtain rfl := Except.ok.inj hq
      exact Request.selects_first rfl _ t.toList_readRow
  | call accessor value =>
    obtain ⟨q, hq, rfl⟩ := map_eq_ok_iff.mp h
    obtain ⟨a, hfound, rfl⟩ := of_call_eq_ok hq
    obtain rfl : a.target = f := by simpa [subject?, hfound] using hf
    refine retrieves_of_selects (fun _ _ => rfl) hq ?_
    exact a.selects_call (ha a (List.mem_of_find?_eq_some hfound)) value
  | provision | unprovision => cases hf

/-- The accessors of a store ask for the columns of one of the formats that it was created from. -/
theorem selectList_of_create {fs : List DataFormat} {rs : List Relation} {o : SqlOptions}
    {policy : DuplicatePolicy} {name : String} (h : Store.create fs rs o policy name = .ok t) :
    t.format ∈ fs ∧ ∀ a ∈ t.accessors,
      a.target ∈ fs ∧ a.plan.query.selectList = a.target.columnNames := by
  obtain ⟨hf, -, hp, ht, -⟩ := of_create_eq_ok h
  refine ⟨(DataFormat.of_find?_eq_some hf).1, fun a ha => ?_⟩
  obtain ⟨r, -, side, -, hl⟩ := AccessorPlan.leads_of_mem_planAll hp (List.mem_map_of_mem ha)
  obtain ⟨target, htarget, hq⟩ := hl.query
  obtain rfl := Option.some.inj ((ht a ha).symm.trans htarget)
  exact ⟨(DataFormat.of_find?_eq_some (ht a ha)).1, by rw [hq, Sql.Query.selectList]⟩

theorem subject_mem {fs : List DataFormat} (hf : t.format ∈ fs)
    (ha : ∀ a ∈ t.accessors, a.target ∈ fs) {op : Operation} (h : t.subject? op = some f) :
    f ∈ fs := by
  cases op with
  | getAll | getBy | getManyBy | add | deleteBy => exact Option.some.inj h ▸ hf
  | call accessor value =>
    obtain ⟨a, hfound, rfl⟩ := Option.map_eq_some_iff.mp h
    exact ha a (List.mem_of_find?_eq_some hfound)
  | provision | unprovision => cases h

/-- A record made of a row can be stored, and each column gets what the row has in it. -/
theorem perform_add_recordOfRow (hc : t.format.columnNames.Nodup) {row : Record}
    (hn : (Dict.keys row).Nodup) (hd : ∀ c ∈ Dict.keys row, c ∈ t.format.columnNames) :
    ∃ values st, t.format.Fills (fun x => Dict.find? row x.columnName) values ∧
      t.Inserts values st ∧ t.issued (.add (t.format.recordOfRow row)) = .ok st ∧
      ∀ (σ : Type) (db : Database σ) (s : σ),
        t.perform db (.add (t.format.recordOfRow row)) s = t.insert db st s := by
  have hk : ∀ key ∈ Dict.keys (t.format.recordOfRow row), key ∈ t.format.fields.map (·.name) := by
    intro key hkey
    obtain ⟨e', he', rfl⟩ := List.mem_map.mp hkey
    obtain ⟨e, -, x, hx, -, rfl⟩ :=
      exists_match (DataFormat.forall₂_recordOfRow hc hn hd).flip he'
    exact List.mem_map_of_mem hx
  refine ⟨t.assignments (t.format.recordOfRow row), _, fills_assignments fun x hx => ?_,
    t.inserts_insertion _, issued_add_of_declared hk,
    fun σ db s => perform_add_of_declared hk db s⟩
  exact DataFormat.find?_recordOfRow_of_declared hc hn hd hx

end Store

/-- Rows of distinct declared columns become records entry by entry, each under the name of the
field that owns its column. Such a record is never refused by a store of its format, and the
insertion gives each column what the row had in it, but for serial columns that were null. Whatever
operation of a store over accepted formats asks for rows, it asks for the columns of its subject,
and where the handle answers with these, the records have exactly the fields of the subject, in
order, and the values of the rows. -/
theorem rows_returned_as_records (fs : List DataFormat)
    (hv : Validation.formats [] fs = .ok ()) :
    (∀ f ∈ fs, ∀ row : Record, (Dict.keys row).Nodup → (∀ c ∈ Dict.keys row, c ∈ f.columnNames) →
        List.Forall₂ (fun e e' => ∃ x ∈ f.fields, x.columnName = e.1 ∧ e' = (x.name, e.2)) row
            (f.recordOfRow row) ∧
          ∀ t : Store, t.format = f →
            ∃ values st, f.Fills (fun x => Dict.find? row x.columnName) values ∧
              t.Inserts values st ∧ t.issued (.add (f.recordOfRow row)) = .ok st ∧
              ∀ (σ : Type) (db : Database σ) (s : σ),
                t.perform db (.add (f.recordOfRow row)) s = t.insert db st s ∧
                  ∀ format key, (t.perform db (.add (f.recordOfRow row)) s).1 ≠
                    .error (.unknownField format key)) ∧
      ∀ rs o policy name t, Store.create fs rs o policy name = .ok t →
        ∀ op st f, t.subject? op = some f → t.issued op = .ok st →
          f ∈ fs ∧ AsksFor st.sql f.columnNames ∧
            (∃ q : Sql.Query, st.sql = q.render ∧ q.selectList = f.columnNames) ∧
            ∀ (σ : Type) (db : Database σ) (s : σ) rows, db.answer st s = .ok rows →
              (∀ row ∈ rows, Dict.keys row = f.columnNames) →
                ∃ out, (t.perform db op s).1 = .ok out ∧
                  List.Forall₂ (fun row record => Dict.keys record = f.fields.map (·.name) ∧
                    record.map (·.2) = row.map (·.2)) rows out.toList := by
  have hc : ∀ f ∈ fs, f.columnNames.Nodup := fun f hf => Validation.nodup_columnNames hv hf
  refine ⟨fun f hf row hn hd => ⟨DataFormat.forall₂_recordOfRow (hc f hf) hn hd, ?_⟩, ?_⟩
  · rintro t rfl
    obtain ⟨values, st, hfills, hst, hi, hp⟩ := Store.perform_add_recordOfRow (hc _ hf) hn hd
    refine ⟨values, st, hfills, hst, hi, fun σ db s => ⟨hp σ db s, fun format key => ?_⟩⟩
    rw [hp σ db s]
    exact t.insert_ne_unknownField db st s format key
  · intro rs o policy name t ht op st f hs hi
    obtain ⟨hf, ha⟩ := Store.selectList_of_create ht
    have hf : f ∈ fs := Store.subject_mem hf (fun a h => (ha a h).1) hs
    have hr : t.Retrieves op st f := Store.retrieves_of_issued (fun a h => (ha a h).2) hs hi
    obtain ⟨q, hq, hl⟩ := hr.sql
    have hasks : AsksFor st.sql f.columnNames := by
      rw [hq, ← hl]
      exact q.asksFor
    refine ⟨hf, hasks, ⟨q, hq, hl⟩, fun σ db s rows hrows hk => ?_⟩
    obtain ⟨out, hout, hlist⟩ := hr.outcome db s rows hrows
    refine ⟨out, hout, ?_⟩
    rw [hlist, List.forall₂_map_right_iff, List.forall₂_same]
    exact fun row hrow => DataFormat.keys_recordOfRow (hc f hf) (hk row hrow)

/-- A review can be stored as it was read, and the user who wrote it is found under field names. -/
theorem rows_returned_reviews :
    Validation.formats [] reviewSchema.formats = .ok () ∧
      (∃ values st,
        reviews.format.Fills
            (fun x => Dict.find? [("user_id", .int 3), ("id", .int 1)] x.columnName) values ∧
          reviews.Inserts values st ∧
          st.sql = "INSERT INTO public.review (id, user_id) VALUES ($1, $2) RETURNING id, user_id" ∧
          st.params = [.int 1, .int 3] ∧
          reviews.issued (.add [("userId", .int 3), ("id", .int 1)]) = .ok st) ∧
      ∃ t, Store.create reviewSchema.formats reviewSchema.relations.toList .standard .fail
          "review" = .ok t ∧
        AsksFor "SELECT r.id, r.inviter_id FROM public.user r WHERE r.id = $1"
          ["id", "inviter_id"] ∧
        ∃ out, (t.perform
            (Recording.database [⟨"SELECT", .ok [[("id", .int 1), ("inviter_id", .null)]]⟩])
            (.call "getRelatedUserRecordOnId" (.int 1)) []).1 = .ok out ∧
          List.Forall₂ (fun row record => Dict.keys record = ["id", "inviterId"] ∧
            record.map (·.2) = row.map (·.2)) [[("id", .int 1), ("inviter_id", .null)]]
            out.toList := by
  have hv : Validation.formats [] reviewSchema.formats = .ok () := by rfl
  obtain ⟨hrow, hreturned⟩ := rows_returned_as_records _ hv
  refine ⟨hv, ?_, ?_⟩
  · obtain ⟨-, hadd⟩ := hrow reviews.format (.head _) [("user_id", .int 3), ("id", .int 1)]
      (by decide) (by decide)
    obtain ⟨values, st, hfills, hst, hi, -⟩ := hadd reviews rfl
    obtain rfl := Except.ok.inj hi
    exact ⟨values, _, hfills, hst, by rfl, rfl, hi⟩
  · refine ⟨_, rfl, ?_⟩
    obtain ⟨-, hasks, -, hread⟩ := hreturned reviewSchema.relations.toList .standard .fail "review"
      _ rfl (.call "getRelatedUserRecordOnId" (.int 1)) _ _ rfl rfl
    exact ⟨hasks, hread _ _ [] _ rfl (List.forall_mem_singleton.mpr rfl)⟩

end Schemata
