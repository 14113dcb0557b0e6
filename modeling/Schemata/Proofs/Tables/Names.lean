import Schemata.Proofs.Tables.Sequence

/-!
The names of tables. Formats have different tables, and so have many-to-many relations, but nothing
keeps the two apart: the tables of an accepted schema have distinct names exactly when no format is
called like a join table.
-/
namespace Schemata

namespace Schema

/-- The names of all tables, those of the formats first. -/
def tableNames (s : Schema) : List Sql.TableName :=
  s.formats.map (fun f => s.options.qualify f.tableName) ++ s.relations.joinTables.map (·.name)

end Schema

@[simp] theorem SqlOptions.qualify_inj (o : SqlOptions) (t u : String) :
    o.qualify t = o.qualify u ↔ t = u := by
  simp [qualify]

/-- With SQL enabled each many-to-many relation has its join table. -/
theorem Relations.joinTables_eq {rs : Relations} {ds : List Declaration} {o : SqlOptions}
    (ho : o.enableSql = true) (h : rs.toList = ds.map (·.relation o)) :
    rs.joinTables = (ds.filter (·.shape = .manyToMany)).map (·.joinTable o) := by
  rw [joinTables, h, List.filterMap_map, ← List.filterMap_eq_map', List.filterMap_filter]
  refine List.filterMap_congr fun d _ => ?_
  by_cases hm : d.shape = .manyToMany <;>
    simp [Declaration.relation, Relation.joinTable?, ho, hm]

theorem Relations.map_name_joinTables {rs : Relations} {ds : List Declaration} {o : SqlOptions}
    (ho : o.enableSql = true) (h : rs.toList = ds.map (·.relation o)) :
    rs.joinTables.map (·.name) =
      (ds.filter (·.shape = .manyToMany)).map fun d => o.qualify d.joinTableName := by
  rw [joinTables_eq ho h, List.map_map]
  rfl

namespace Accepted

variable {fs : List DataFormat} {ds : List Declaration}

theorem nodup_tables (h : Accepted fs ds) (o : SqlOptions) :
    (fs.map fun f => o.qualify f.tableName).Nodup := by
  have hq : (fs.map (·.tableName)).map o.qualify = fs.map fun f => o.qualify f.tableName := by
    simp
  rw [← hq]
  exact h.tables.map fun t u => (o.qualify_inj t u).mp

/-- Relations of one join table would have different names, which is refused. -/
theorem nodup_joinTables (h : Accepted fs ds) (o : SqlOptions) :
    ((ds.filter (·.shape = .manyToMany)).map fun d => o.qualify d.joinTableName).Nodup := by
  rw [List.Nodup, List.pairwise_map, List.pairwise_filter]
  have hp : ds.Pairwise fun d e => ¬ d.Clash e ∧ d.name ≠ e.name :=
    h.joinTables.and (List.pairwise_map.mp h.names)
  refine hp.imp ?_
  rintro d e ⟨hc, hn⟩ hd he hj
  rw [decide_eq_true_eq] at hd he
  exact hc ⟨hd, he, (o.qualify_inj _ _).mp hj, hn⟩

/-- What could be called alike are a format's table and a join table. -/
theorem nodup_append_iff (h : Accepted fs ds) (o : SqlOptions) :
    ((fs.map fun f => o.qualify f.tableName) ++
        (ds.filter (·.shape = .manyToMany)).map fun d => o.qualify d.joinTableName).Nodup ↔
      ∀ f ∈ fs, ∀ d ∈ ds, d.shape = .manyToMany → f.tableName ≠ d.joinTableName := by
  rw [List.nodup_append]
  constructor
  · rintro ⟨-, -, hs⟩ f hf d hd hm he
    have hdm : d ∈ ds.filter (·.shape = .manyToMany) := by simp [hd, hm]
    exact hs _ (List.mem_map_of_mem hf) _ (List.mem_map_of_mem hdm) (by rw [he])
  · intro hs
    refine ⟨h.nodup_tables o, h.nodup_joinTables o, ?_⟩
    intro t ht u hu he
    obtain ⟨f, hf, rfl⟩ := List.mem_map.mp ht
    obtain ⟨d, hdm, rfl⟩ := List.mem_map.mp hu
    obtain ⟨hd, hm⟩ := List.mem_filter.mp hdm
    exact hs f hf d hd (by simpa using hm) ((o.qualify_inj _ _).mp he)

end Accepted

/-- What is created has the names of all tables, in another order. -/
theorem Schema.perm_tableNames {s : Schema} (hn : (s.formats.map (·.name)).Nodup)
    {ts : List Sql.CreateTable} (ht : s.tables = .ok ts) :
    (ts.map (·.name)).Perm s.tableNames := by
  obtain ⟨gs, hgs, rfl⟩ := (s.tables_eq_ok_iff ts).mp ht
  obtain ⟨order, horder, -⟩ := bind_eq_ok_iff.mp hgs
  have hp := orderedFormats_perm hn horder hgs
  rw [tablesOf, List.map_append, List.map_map]
  exact (hp.map fun f => s.options.qualify f.tableName).append_right _

/-- Formats have different tables and join tables have different names. All tables together have
distinct names exactly when no format is called like the join table of a relation. -/
theorem nodup_tableNames_iff (fs : List DataFormat) (ds : List Declaration) (o : SqlOptions)
    (s : Schema) (h : Schema.create fs ds o = .ok s) (ho : o.enableSql = true) :
    (s.formats.map fun f => o.qualify f.tableName).Nodup ∧
      (s.relations.joinTables.map (·.name)).Nodup ∧
      (s.tableNames.Nodup ↔
        ∀ f ∈ fs, ∀ d ∈ ds, d.shape = .manyToMany → f.tableName ≠ d.joinTableName) ∧
      ∀ ts, s.tables = .ok ts → (ts.map (·.name)).Perm s.tableNames := by
  obtain ⟨ha, rfl, hr, rfl⟩ := (Schema.create_eq_ok_iff fs ds o s).mp h
  have hj := Relations.map_name_joinTables ho hr
  refine ⟨ha.nodup_tables _, ?_, ?_, fun ts ht => Schema.perm_tableNames ha.formatNames ht⟩
  · rw [hj]
    exact ha.nodup_joinTables _
  · rw [Schema.tableNames, hj]
    exact ha.nodup_append_iff _

/-- The recipes that users have saved. -/
def savedRecipes : Declaration := ⟨.manyToMany, ⟨⟨"user", "id"⟩, none⟩, ⟨⟨"recipe", "id"⟩, none⟩⟩

/-- Users, the recipes they have saved, and one more format of the given name. -/
def recipesAnd (name : String) : Schema where
  formats :=
    [⟨"user", none, [⟨"id", .serial, none, false, false⟩]⟩,
      ⟨"recipe", none, [⟨"id", .serial, none, false, false⟩]⟩,
      ⟨name, none, [⟨"note", .text, none, false, false⟩]⟩]
  relations := ⟨[savedRecipes.relation .standard], by simp⟩
  options := .standard

theorem nodup_tableNames_userToRecipes :
    Schema.create (recipesAnd "userToRecipes").formats [savedRecipes] .standard =
        .ok (recipesAnd "userToRecipes") ∧
      (recipesAnd "userToRecipes").tableNames.Nodup := by
  have hs : Schema.create (recipesAnd "userToRecipes").formats [savedRecipes] .standard =
      .ok (recipesAnd "userToRecipes") := by rfl
  obtain ⟨-, -, hn, -⟩ := nodup_tableNames_iff _ _ _ _ hs rfl
  refine ⟨hs, hn.mpr fun f hf d hd _ => ?_⟩
  obtain rfl := List.mem_singleton.mp hd
  revert f
  decide +kernel

/-- The format `userToRecipe` has the table that joins users and recipes. -/
theorem not_nodup_tableNames_userToRecipe :
    Schema.create (recipesAnd "userToRecipe").formats [savedRecipes] .standard =
        .ok (recipesAnd "userToRecipe") ∧
      ((recipesAnd "userToRecipe").tables.map fun ts => ts.map (·.name.render)) =
        .ok ["public.user", "public.recipe", "public.user_to_recipe", "public.user_to_recipe"] ∧
      ¬ (recipesAnd "userToRecipe").tableNames.Nodup :=
  ⟨by rfl, by rfl, by decide +kernel⟩

end Schemata
