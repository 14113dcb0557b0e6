import Schemata.Entities
import Schemata.Recording
import Schemata.Proofs.Accessors.Plans
import Schemata.Proofs.Tables.Statements

/-!
Provisioning runs the scripts. The stores of a schema issue, one batch for each table, the same
statements that the scripts list, in the same order, and what is dropped is what was created, in the
opposite order.
-/
namespace Schemata

namespace Recording

variable {responses : List Response}

/-- No response is an error. -/
def NeverFails (responses : List Response) : Prop :=
  ∀ r ∈ responses, ∃ rows, r.answer = .ok rows

theorem NeverFails.answer (h : NeverFails responses) (sql : String) :
    ∃ rows, answer responses sql = .ok rows := by
  unfold Recording.answer
  split
  · exact h _ (List.mem_of_find?_eq_some ‹_›)
  · exact ⟨[], rfl⟩

/-- Batches that are all answered are run and logged in order. -/
theorem batches_of_answered {sqls : List String}
    (h : ∀ sql ∈ sqls, ∃ rows, answer responses sql = .ok rows) (log : List Statement) :
    (database responses).batches sqls log =
      (.ok (), log ++ sqls.map fun sql => ⟨.batch, sql, []⟩) := by
  induction sqls generalizing log with
  | nil => simp
  | cons sql sqls ih =>
    obtain ⟨⟨rows, hrows⟩, htail⟩ := List.forall_mem_cons.mp h
    have hsql : (database responses).batch sql log = (.ok (), log ++ [⟨.batch, sql, []⟩]) := by
      simp [database, hrows, Except.map]
    rw [Database.batches, hsql]
    simp [ih htail]

theorem NeverFails.batches (h : NeverFails responses) (sqls : List String) (log : List Statement) :
    (database responses).batches sqls log =
      (.ok (), log ++ sqls.map fun sql => ⟨.batch, sql, []⟩) :=
  batches_of_answered (fun sql _ => h.answer sql) log

end Recording

/-- A store has the format of its name and the table that the scripts create. -/
structure Store.Of (s : Schema) (t : Store) : Prop where
  format : s.format? t.format.name = some t.format
  createTable : t.createTable = s.createTable t.format
  table : t.table = (s.createTable t.format).name

namespace Entities

variable {s : Schema} {policy : DuplicatePolicy} {e : Entities}

theorem of_store_create {name : String} {t : Store}
    (h : Store.create s.formats s.relations.toList s.options policy name = .ok t) :
    t.Of s ∧ t.format.name = name := by
  obtain ⟨hf, ho, -, -, ht⟩ := Store.of_create_eq_ok h
  obtain ⟨-, hn⟩ := DataFormat.of_find?_eq_some hf
  refine ⟨⟨?_, ht, ?_⟩, hn⟩
  · rw [Schema.format?, hn, hf]
  · rw [Store.table, ho]
    rfl

/-- What the entities of a schema are made of. -/
theorem create_eq_ok_iff (s : Schema) (policy : DuplicatePolicy) (e : Entities) :
    create s policy = .ok e ↔
      e.schema = s ∧ s.provisioningOrder = .ok e.provisioningOrder ∧
        List.Forall₂ (fun name t =>
            Store.create s.formats s.relations.toList s.options policy name = .ok t)
          s.formatNames e.stores := by
  simp only [create, bind_eq_ok_iff, mapM_eq_ok_iff, pure, Except.pure, Except.ok.injEq]
  constructor
  · rintro ⟨order, ho, stores, hs, rfl⟩
    exact ⟨rfl, ho, hs⟩
  · rintro ⟨rfl, ho, hs⟩
    exact ⟨_, ho, _, hs, rfl⟩

/-- Each format has its store. -/
theorem stores_spec (h : create s policy = .ok e) :
    e.stores.map (·.format.name) = s.formatNames ∧ ∀ t ∈ e.stores, t.Of s := by
  obtain ⟨-, -, hs⟩ := (create_eq_ok_iff s policy e).mp h
  exact map_eq_of_forall₂ (P := (·.Of s)) (fun _ _ ht => (of_store_create ht).symm) hs

/-- No store is lost: looked up by name it has the format of the name. -/
theorem map_format_store? (h : create s policy = .ok e) (name : String) :
    (e.store? name).map (·.format) = s.format? name := by
  obtain ⟨hnames, hof⟩ := stores_spec h
  cases ht : e.store? name with
  | some t =>
    have hn : t.format.name = name := by simpa using List.find?_some ht
    rw [← hn, (hof t (List.mem_of_find?_eq_some ht)).format, Option.map_some]
  | none =>
    have hnone : name ∉ s.formatNames := by
      rw [← hnames, List.mem_map]
      rintro ⟨t, hm, hn⟩
      exact absurd hn (by simpa using List.find?_eq_none.mp ht t hm)
    symm
    rw [Option.map_none, Schema.format?, DataFormat.find?, List.find?_eq_none]
    intro f hf hn
    exact hnone (List.mem_map.mpr ⟨f, hf, by simpa using hn⟩)

/-- The stores in order are those of the formats in order. -/
theorem map_format_orderedStores (h : create s policy = .ok e) {gs : List DataFormat}
    (hg : s.orderedFormats = .ok gs) : e.orderedStores.map (·.format) = gs := by
  obtain ⟨-, ho, -⟩ := (create_eq_ok_iff s policy e).mp h
  rw [orderedStores, List.map_filterMap]
  simp only [map_format_store? h]
  exact filterMap_eq_of_forall₂ ((Schema.orderedFormats_eq_ok_iff ho).mp hg)

theorem of_mem_orderedStores (h : create s policy = .ok e) {t : Store}
    (ht : t ∈ e.orderedStores) : t.Of s := by
  obtain ⟨name, -, hn⟩ := List.mem_filterMap.mp ht
  exact (stores_spec h).2 t (List.mem_of_find?_eq_some hn)

variable {ts : List Sql.CreateTable}

/-- The stores have the tables of the scripts. -/
theorem createStatements_eq (h : create s policy = .ok e) (ht : s.tables = .ok ts) :
    e.createStatements = ts.map (·.render) := by
  obtain ⟨gs, hg, rfl⟩ := (s.tables_eq_ok_iff ts).mp ht
  obtain ⟨rfl, -, -⟩ := (create_eq_ok_iff s policy e).mp h
  rw [createStatements, Schema.tablesOf, List.map_append, ← map_format_orderedStores h hg,
    List.map_map, List.map_map]
  congr 1
  refine List.map_congr_left fun t ht => ?_
  rw [Store.createStatement, (of_mem_orderedStores h ht).createTable, Function.comp_apply,
    Function.comp_apply]

theorem dropStatements_eq (h : create s policy = .ok e) (ht : s.tables = .ok ts) :
    e.dropStatements = (ts.map (·.name)).reverse.map (·.renderDrop) := by
  obtain ⟨gs, hg, rfl⟩ := (s.tables_eq_ok_iff ts).mp ht
  obtain ⟨rfl, -, -⟩ := (create_eq_ok_iff s policy e).mp h
  rw [dropStatements, Schema.tablesOf, List.map_append, List.reverse_append, List.map_append,
    ← map_format_orderedStores h hg]
  simp only [List.map_map, ← List.map_reverse]
  congr 1
  refine List.map_congr_left fun t ht => ?_
  rw [Store.dropStatement, (of_mem_orderedStores h (List.mem_reverse.mp ht)).table]
  rfl

end Entities

/-- Over a database that records and never fails, provisioning runs the statements of the creating
script and its reversal those of the dropping script, table after table in the opposite order. -/
theorem provision_runs_scripts (s : Schema) (policy : DuplicatePolicy) (e : Entities)
    (h : Entities.create s policy = .ok e) (responses : List Recording.Response)
    (hr : Recording.NeverFails responses) (log : List Statement) :
    ∃ (ts : List Sql.CreateTable) (created dropped : List String),
      s.tables = .ok ts ∧ created = ts.map (·.render) ∧
      dropped = (ts.map (·.name)).reverse.map (·.renderDrop) ∧
      e.provision (Recording.database responses) log =
        (.ok (), log ++ created.map fun sql => ⟨.batch, sql, []⟩) ∧
      e.unprovision (Recording.database responses) log =
        (.ok (), log ++ dropped.map fun sql => ⟨.batch, sql, []⟩) ∧
      s.createScript =
        .ok (if created = [] then "" else String.intercalate "\n\n" created ++ "\n") ∧
      s.dropScript =
        .ok (if dropped = [] then "" else String.intercalate "\n\n" dropped ++ "\n") := by
  obtain ⟨-, ho, -⟩ := (Entities.create_eq_ok_iff s policy e).mp h
  obtain ⟨gs, hg⟩ := Schema.exists_orderedFormats ho
  have ht := (s.tables_eq_ok_iff _).mpr ⟨gs, hg, rfl⟩
  refine ⟨_, _, _, ht, rfl, rfl, ?_, ?_, ?_, ?_⟩
  · simp only [Entities.provision, hr.batches, Entities.createStatements_eq h ht, Except.mapError]
  · simp only [Entities.unprovision, hr.batches, Entities.dropStatements_eq h ht, Except.mapError]
  · rw [Schema.createScript_of_tables ht, scriptOf_eq]
  · rw [Schema.dropScript_of_tables ht, scriptOf_eq]

theorem provision_reviewSchema :
    ∃ (e : Entities) (users reviews likes : Sql.CreateTable),
      Entities.create reviewSchema .fail = .ok e ∧
      Recording.NeverFails [⟨"user", .ok []⟩] ∧
      reviewSchema.tables = .ok [users, reviews, likes] ∧
      likes.render =
        String.intercalate "\n"
          ["CREATE TABLE IF NOT EXISTS public.review_to_user",
            "(",
            "    id SERIAL PRIMARY KEY,",
            "    review_id integer NOT NULL,",
            "    user_id integer NOT NULL,",
            "    CONSTRAINT review_to_user_review_id_fkey FOREIGN KEY (review_id)",
            "        REFERENCES public.review (id) MATCH SIMPLE",
            "        ON UPDATE NO ACTION",
            "        ON DELETE NO ACTION,",
            "    CONSTRAINT review_to_user_user_id_fkey FOREIGN KEY (user_id)",
            "        REFERENCES public.user (id) MATCH SIMPLE",
            "        ON UPDATE NO ACTION",
            "        ON DELETE NO ACTION",
            ")",
            "",
            "TABLESPACE pg_default;",
            "",
            "ALTER TABLE IF EXISTS public.review_to_user",
            "    OWNER to postgres;"] ∧
      e.provision (Recording.database [⟨"user", .ok []⟩]) [] =
        (.ok (),
          [⟨.batch, users.render, []⟩, ⟨.batch, reviews.render, []⟩, ⟨.batch, likes.render, []⟩]) ∧
      e.unprovision (Recording.database [⟨"user", .ok []⟩]) [] =
        (.ok (),
          [⟨.batch, "drop table if exists public.review_to_user;", []⟩,
            ⟨.batch, "drop table if exists public.review;", []⟩,
            ⟨.batch, "drop table if exists public.user;", []⟩]) := by
  obtain ⟨e, he⟩ : ∃ e, Entities.create reviewSchema .fail = .ok e := ⟨_, rfl⟩
  have hr : Recording.NeverFails [⟨"user", .ok []⟩] := by simp [Recording.NeverFails]
  obtain ⟨ts, _, _, ht, rfl, rfl, hp, hu, -, -⟩ := provision_runs_scripts _ _ e he _ hr []
  obtain rfl := Except.ok.inj (ht.symm.trans (rfl : reviewSchema.tables = .ok [_, _, _]))
  exact ⟨e, _, _, _, he, hr, ht, by decide +kernel, hp, hu⟩

end Schemata
