import Schemata.Proofs.Refusals
import Schemata.Store.Session

/-!
What the switch for the SQL of relations decides. Leaving out that SQL turns everything made with it
into what is made without it: schemas, accessors and stores come out with the same verdicts and the
same statements. Only the tables differ, for they lose their foreign keys, and with them what orders
them, and the join tables go.
-/
namespace Schemata

def SqlOptions.withSql (o : SqlOptions) (enableSql : Bool) : SqlOptions :=
  { o with enableSql }

def Sql.CreateTable.withoutForeignKeys (t : Sql.CreateTable) : Sql.CreateTable :=
  { t with foreignKeys := [] }

/-! ### Relations -/

def Relation.withoutSql (r : Relation) : Relation := { r with sql := none }

namespace Relation

@[simp] theorem declaration_withoutSql (r : Relation) :
    r.withoutSql.declaration = r.declaration := rfl

@[simp] theorem name_withoutSql (r : Relation) : r.withoutSql.name = r.name := rfl

@[simp] theorem foreignKey?_withoutSql (r : Relation) : r.withoutSql.foreignKey? = none := rfl

@[simp] theorem joinTable?_withoutSql (r : Relation) : r.withoutSql.joinTable? = none := rfl

@[simp] theorem imposesOn_withoutSql (r : Relation) (formatName : String) :
    r.withoutSql.imposesOn formatName = r.imposesOn formatName := rfl

theorem relation_withSql_false (d : Declaration) (o : SqlOptions) :
    d.relation (o.withSql false) = (d.relation (o.withSql true)).withoutSql := rfl

end Relation

namespace Relations

def withoutSql (rs : Relations) : Relations :=
  ⟨rs.toList.map (·.withoutSql), by simpa [Function.comp_def] using rs.nodup⟩

theorem insert_withoutSql (rs : Relations) (r : Relation) :
    rs.withoutSql.insert r.withoutSql = (rs.insert r).map withoutSql := by
  have hn : rs.withoutSql.toList.map Relation.name = rs.toList.map Relation.name := by
    simp [withoutSql, Function.comp_def]
  unfold insert
  by_cases h : r.name ∈ rs.toList.map Relation.name
  · have h' : r.withoutSql.name ∈ rs.withoutSql.toList.map Relation.name := hn ▸ h
    rw [dif_pos h, dif_pos h']
    rfl
  · have h' : r.withoutSql.name ∉ rs.withoutSql.toList.map Relation.name := hn ▸ h
    rw [dif_neg h, dif_neg h']
    simp [Except.map, withoutSql]

theorem ofDeclarations_withSql_false (ds : List Declaration) (o : SqlOptions) :
    ofDeclarations ds (o.withSql false) = (ofDeclarations ds (o.withSql true)).map withoutSql := by
  suffices ∀ rs : Relations,
      ds.foldlM (fun rs d => insert rs (d.relation (o.withSql false))) rs.withoutSql =
        (ds.foldlM (fun rs d => insert rs (d.relation (o.withSql true))) rs).map withoutSql from
    this empty
  induction ds with
  | nil => exact fun _ => rfl
  | cons d ds ih =>
    intro rs
    simp only [List.foldlM_cons, Relation.relation_withSql_false, insert_withoutSql]
    cases rs.insert (d.relation (o.withSql true)) with
    | error e => rfl
    | ok rs => exact ih rs

theorem joinTables_withoutSql (rs : Relations) : rs.withoutSql.joinTables = [] := by
  simp [joinTables, withoutSql, List.filterMap_map, Function.comp_def]

theorem relevantTo_withoutSql (rs : List Relation) (formatName : String) :
    relevantTo (rs.map (·.withoutSql)) formatName =
      (relevantTo rs formatName).map (·.withoutSql) := by
  simp [relevantTo, List.filter_map, Function.comp_def]

theorem imposingOn_withoutSql (rs : List Relation) (formatName : String) :
    imposingOn (rs.map (·.withoutSql)) formatName =
      (imposingOn rs formatName).map (·.withoutSql) := by
  simp [imposingOn, List.filter_map, Function.comp_def]

end Relations

theorem DataFormat.createTable_withoutSql (f : DataFormat) (rs : List Relation) (o : SqlOptions) :
    f.createTable (rs.map (·.withoutSql)) (o.withSql false) =
      (f.createTable rs o).withoutForeignKeys := by
  simp [createTable, Sql.CreateTable.withoutForeignKeys, List.filterMap_map, Function.comp_def,
    SqlOptions.qualify, SqlOptions.withSql]

/-! ### Accessors and stores -/

namespace AccessorPlan

theorem occasions_withoutSql (rs : List Relation) (formatName : String) :
    occasions (rs.map (·.withoutSql)) formatName =
      (occasions rs formatName).map fun x => (x.1, x.2.withoutSql) := by
  unfold occasions
  rw [List.map_flatMap, Relations.relevantTo_withoutSql]
  congr 1
  funext role
  rw [List.filter_map, List.map_map, List.map_map]
  rfl

theorem plan?_withSql (d : Declaration) (formats : List DataFormat) (o : SqlOptions)
    (enableSql : Bool) (r : Role) :
    d.plan? formats (o.withSql enableSql) r = d.plan? formats o r := rfl

variable (formats : List DataFormat) (o : SqlOptions) (policy : DuplicatePolicy)
  (formatName : String)

theorem collect_withoutSql (plans : List AccessorPlan) (occs : List (Role × Relation)) :
    collect formats (o.withSql false) policy formatName plans
        (occs.map fun x => (x.1, x.2.withoutSql)) =
      collect formats o policy formatName plans occs := by
  induction occs generalizing plans with
  | nil => rfl
  | cons x occs ih =>
    obtain ⟨role, r⟩ := x
    simp only [List.map_cons, collect, Relation.declaration_withoutSql, plan?_withSql, ih]

theorem planAll_withoutSql (rs : List Relation) :
    planAll formats (rs.map (·.withoutSql)) (o.withSql false) policy formatName =
      planAll formats rs o policy formatName := by
  simp only [planAll, occasions_withoutSql, collect_withoutSql]

end AccessorPlan

namespace Store

def withoutSql (t : Store) : Store :=
  { t with
    options := t.options.withSql false
    createTable := t.createTable.withoutForeignKeys }

/-- All that is said to the database is the same, apart from the table's creation. -/
theorem issued_withoutSql (t : Store) {op : Operation} (h : op ≠ .provision) :
    t.withoutSql.issued op = t.issued op := by
  cases op with
  | provision => exact absurd rfl h
  | getAll | getBy | getManyBy | add | deleteBy | call | unprovision => rfl

theorem create_withoutSql (formats : List DataFormat) (rs : List Relation) (o : SqlOptions)
    (policy : DuplicatePolicy) (formatName : String) :
    Store.create formats (rs.map (·.withoutSql)) (o.withSql false) policy formatName =
      (Store.create formats rs o policy formatName).map withoutSql := by
  unfold Store.create
  rw [AccessorPlan.planAll_withoutSql]
  cases DataFormat.find? formats formatName with
  | none => rfl
  | some f =>
    simp only [pure_bind]
    cases AccessorPlan.planAll formats rs o policy formatName with
    | error e => rfl
    | ok plans =>
      simp only [ok_bind, Relations.imposingOn_withoutSql, DataFormat.createTable_withoutSql]
      generalize (List.mapM _ plans : Except SchemaError (List Accessor)) = found
      cases found with
      | error e => rfl
      | ok accessors => rfl

end Store

/-! ### Schemas -/

namespace Schema

def withoutSql (s : Schema) : Schema :=
  ⟨s.formats, s.relations.withoutSql, s.options.withSql false⟩

/-- The store of a format. -/
def store (s : Schema) (policy : DuplicatePolicy) (formatName : String) :
    Except SchemaError Store :=
  Store.create s.formats s.relations.toList s.options policy formatName

theorem create_withSql_false (fs : List DataFormat) (ds : List Declaration) (o : SqlOptions) :
    Schema.create fs ds (o.withSql false) =
      (Schema.create fs ds (o.withSql true)).map withoutSql := by
  unfold Schema.create
  rw [Relations.ofDeclarations_withSql_false]
  cases Validation.formats [] fs with
  | error e => rfl
  | ok _ =>
    cases Validation.declarations fs [] ds with
    | error e => rfl
    | ok _ => cases Relations.ofDeclarations ds (o.withSql true) <;> rfl

theorem plans_withoutSql (s : Schema) (policy : DuplicatePolicy) (formatName : String) :
    s.withoutSql.plans policy formatName = s.plans policy formatName :=
  AccessorPlan.planAll_withoutSql _ _ _ _ _

theorem store_withoutSql (s : Schema) (policy : DuplicatePolicy) (formatName : String) :
    s.withoutSql.store policy formatName = (s.store policy formatName).map Store.withoutSql :=
  Store.create_withoutSql _ _ _ _ _

theorem createTable_withoutSql (s : Schema) (f : DataFormat) :
    s.withoutSql.createTable f = (s.createTable f).withoutForeignKeys := by
  simp only [createTable, withoutSql, Relations.withoutSql, Relations.imposingOn_withoutSql,
    DataFormat.createTable_withoutSql]

variable {s : Schema}

theorem not_precedes_withoutSql (s : Schema) (a b : String) :
    ¬ Precedes s.withoutSql.relations.toList a b := by
  simp [Precedes, withoutSql, Relations.withoutSql, Relation.Orders]

theorem provisioningOrder_withoutSql (hn : s.formatNames.Nodup) :
    s.withoutSql.provisioningOrder = .ok s.formatNames :=
  provisioningOrder_of_unordered hn s.not_precedes_withoutSql

theorem orderedFormats_withoutSql (hn : s.formatNames.Nodup) :
    s.withoutSql.orderedFormats = .ok s.formats := by
  rw [orderedFormats_eq_ok_iff (provisioningOrder_withoutSql hn), formatNames,
    List.forall₂_map_left_iff, List.forall₂_same]
  exact fun f hf => find?_key hn hf

theorem tables_withoutSql (hn : s.formatNames.Nodup) :
    s.withoutSql.tables = .ok (s.formats.map fun f => (s.createTable f).withoutForeignKeys) := by
  refine (tables_eq_ok_iff _ _).mpr ⟨_, orderedFormats_withoutSql hn, ?_⟩
  have hj : s.withoutSql.relations.joinTables = [] := s.relations.joinTables_withoutSql
  have hc : s.withoutSql.createTable = fun f => (s.createTable f).withoutForeignKeys :=
    funext s.createTable_withoutSql
  rw [tablesOf, hj, hc, List.append_nil]

theorem createScript_withoutSql (hn : s.formatNames.Nodup) :
    s.withoutSql.createScript =
      .ok (if s.formats = [] then ""
        else String.intercalate "\n\n"
          (s.formats.map fun f => (s.createTable f).withoutForeignKeys.text) ++ "\n") := by
  rw [createScript_text (tables_withoutSql hn)]
  simp only [List.map_eq_nil_iff, List.map_map]
  rfl

/-- The formats of an accepted schema each have their table in the creating script, in some order,
and the join tables come after them. -/
theorem createScript_eq_ok (hn : s.formatNames.Nodup) {script : String}
    (h : s.createScript = .ok script) :
    ∃ (gs : List DataFormat) (ts : List Sql.CreateTable), gs.Perm s.formats ∧
      ts = gs.map s.createTable ++ s.relations.joinTables ∧
      script = if ts = [] then "" else String.intercalate "\n\n" (ts.map (·.text)) ++ "\n" := by
  obtain ⟨ts, ht, -⟩ := bind_eq_ok_iff.mp h
  obtain ⟨gs, hg, rfl⟩ := (s.tables_eq_ok_iff ts).mp ht
  obtain ⟨order, ho, -⟩ := bind_eq_ok_iff.mp hg
  refine ⟨gs, _, orderedFormats_perm hn ho hg, rfl, ?_⟩
  exact Except.ok.inj (h.symm.trans (createScript_text ht))

end Schema

/-- Without the SQL of relations a schema is accepted or refused as with it, and has the same
accessors and stores that say the same to the database. Its formats are provisioned as they are
declared, each with the table that it has otherwise less the foreign keys, and there are no join
tables. With that SQL a script, if there is one, has besides the foreign keys and the join tables
the same tables in some order. -/
theorem create_withSql (fs : List DataFormat) (ds : List Declaration) (o : SqlOptions) :
    Schema.create fs ds (o.withSql false) =
        (Schema.create fs ds (o.withSql true)).map Schema.withoutSql ∧
      (∀ (t : Store) (op : Operation), op ≠ .provision → t.withoutSql.issued op = t.issued op) ∧
      ∀ s, Schema.create fs ds (o.withSql true) = .ok s →
        (∀ policy name, s.withoutSql.plans policy name = s.plans policy name) ∧
        (∀ policy name,
          s.withoutSql.store policy name = (s.store policy name).map Store.withoutSql) ∧
        s.withoutSql.provisioningOrder = .ok (fs.map (·.name)) ∧
        s.withoutSql.tables = .ok (fs.map fun f => (s.createTable f).withoutForeignKeys) ∧
        s.withoutSql.createScript =
          .ok (if fs = [] then ""
            else String.intercalate "\n\n"
              (fs.map fun f => (s.createTable f).withoutForeignKeys.text) ++ "\n") ∧
        ∀ script, s.createScript = .ok script →
          ∃ (gs : List DataFormat) (ts : List Sql.CreateTable), gs.Perm fs ∧
            ts = gs.map s.createTable ++ s.relations.joinTables ∧
            script =
              if ts = [] then "" else String.intercalate "\n\n" (ts.map (·.text)) ++ "\n" := by
  refine ⟨Schema.create_withSql_false fs ds o, fun t op => t.issued_withoutSql, fun s h => ?_⟩
  obtain ⟨ha, rfl, -, -⟩ := (Schema.create_eq_ok_iff _ _ _ _).mp h
  exact ⟨s.plans_withoutSql, s.store_withoutSql,
    Schema.provisioningOrder_withoutSql ha.formatNames, Schema.tables_withoutSql ha.formatNames,
    Schema.createScript_withoutSql ha.formatNames,
    fun script => Schema.createScript_eq_ok ha.formatNames⟩

theorem create_withSql_reviewSchema :
    Schema.create reviewSchema.formats reviewing (SqlOptions.standard.withSql true) =
        .ok reviewSchema ∧
      reviewSchema.provisioningOrder = .ok ["user", "review"] ∧
      reviewSchema.withoutSql.provisioningOrder = .ok ["review", "user"] ∧
      (∃ ts, reviewSchema.tables = .ok ts ∧ ts.map (·.foreignKeys.length) = [1, 1, 2]) ∧
      (∃ ts, reviewSchema.withoutSql.tables = .ok ts ∧ ts.map (·.foreignKeys.length) = [0, 0]) ∧
      reviewSchema.withoutSql.createScript =
        .ok (String.intercalate "\n"
          ["CREATE TABLE IF NOT EXISTS public.review",
            "(",
            "    id SERIAL PRIMARY KEY,",
            "    user_id integer NOT NULL",
            ")",
            "",
            "TABLESPACE pg_default;",
            "",
            "ALTER TABLE IF EXISTS public.review",
            "    OWNER to postgres;",
            "",
            "CREATE TABLE IF NOT EXISTS public.user",
            "(",
            "    id SERIAL PRIMARY KEY,",
            "    inviter_id integer",
            ")",
            "",
            "TABLESPACE pg_default;",
            "",
            "ALTER TABLE IF EXISTS public.user",
            "    OWNER to postgres;",
            ""]) := by
  obtain ⟨-, -, h⟩ := create_withSql reviewSchema.formats reviewing .standard
  obtain ⟨-, -, ho, ht, hscript, -⟩ := h reviewSchema create_reviewSchema
  exact ⟨create_reviewSchema, by rfl, ho, ⟨_, rfl, by rfl⟩, ⟨_, ht, by rfl⟩,
    hscript.trans (by decide +kernel)⟩

end Schemata
