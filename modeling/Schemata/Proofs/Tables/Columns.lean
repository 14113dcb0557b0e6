import Schemata.Proofs.Accessors.Reads
import Schemata.Proofs.Tables.Names

/-!
Names of columns within one table. The columns of a format's table differ because its fields are
checked for it. A join table has a column for its row numbers and one for each end of the relation.
The latter two are checked against each other only, but both hold an underscore, which the first
does not.
-/
namespace Schemata

/-- The column for an end is not that of the row numbers. -/
theorem FieldRef.joinColumn_ne_id (r : FieldRef) : r.joinColumn ≠ "id" := by
  have hj : '_' ∈ r.joinColumn.toList := by simp [joinColumn]
  have hid : '_' ∉ "id".toList := by decide
  intro h
  exact hid (h ▸ hj)

namespace Declaration

theorem columnNames_joinTable (d : Declaration) (o : SqlOptions) :
    (d.joinTable o).columnNames =
      ["id", d.first.field.joinColumn, d.second.field.joinColumn] := rfl

/-- That the columns for the two ends differ is all that has to be checked. -/
theorem nodup_columnNames_joinTable (d : Declaration) (o : SqlOptions) :
    (d.joinTable o).columnNames.Nodup ↔
      d.first.field.joinColumn ≠ d.second.field.joinColumn := by
  have hfirst : "id" ≠ d.first.field.joinColumn := d.first.field.joinColumn_ne_id.symm
  have hsecond : "id" ≠ d.second.field.joinColumn := d.second.field.joinColumn_ne_id.symm
  simp [columnNames_joinTable, hfirst, hsecond]

end Declaration

/-- All tables of an accepted schema have columns of different names: those of the formats, those of
the relations, with one column for the row number and one for each end, and so all that the scripts
create. -/
theorem nodup_columnNames_tables (fs : List DataFormat) (ds : List Declaration) (o : SqlOptions)
    (s : Schema) (h : Schema.create fs ds o = .ok s) (ho : o.enableSql = true) :
    (∀ f ∈ s.formats, (s.createTable f).columnNames = f.columnNames ∧ f.columnNames.Nodup) ∧
      s.relations.joinTables.map (·.columnNames) =
        (ds.filter (·.shape = .manyToMany)).map (fun d =>
          ["id", d.first.field.joinColumn, d.second.field.joinColumn]) ∧
      (∀ t ∈ s.relations.joinTables, t.columnNames.Nodup) ∧
      ∀ ts, s.tables = .ok ts → ∀ t ∈ ts, t.columnNames.Nodup := by
  obtain ⟨ha, rfl, hr, rfl⟩ := (Schema.create_eq_ok_iff fs ds o s).mp h
  have hjoin := Relations.joinTables_eq ho hr
  have hformats : ∀ f ∈ s.formats, f.columnNames.Nodup := fun f hf => (ha.formats f hf).columns
  have hjoins : ∀ t ∈ s.relations.joinTables, t.columnNames.Nodup := by
    intro t ht
    rw [hjoin] at ht
    obtain ⟨d, hd, rfl⟩ := List.mem_map.mp ht
    obtain ⟨hd, hm⟩ := List.mem_filter.mp hd
    rw [d.nodup_columnNames_joinTable]
    exact (ha.declarations d hd).joinColumns (by simpa using hm)
  refine ⟨fun f hf => ⟨s.columnNames_createTable f, hformats f hf⟩, ?_, hjoins, ?_⟩
  · rw [hjoin, List.map_map]
    rfl
  · intro ts ht t hm
    obtain ⟨f, hf, rfl⟩ | hj := (Schema.mem_tables_iff ha.formatNames ht t).mp hm
    · rw [s.columnNames_createTable]
      exact hformats f hf
    · exact hjoins t hj

/-- The users that a user follows. -/
def following : Declaration :=
  ⟨.manyToMany, ⟨⟨"user", "id"⟩, none⟩, ⟨⟨"user", "handle"⟩, none⟩⟩

def followSchema : Schema where
  formats :=
    [⟨"user", none,
      [⟨"id", .serial, none, false, false⟩, ⟨"handle", .integer, none, false, true⟩]⟩]
  relations := ⟨[following.relation .standard], by simp⟩
  options := .standard

theorem nodup_columnNames_followSchema :
    Schema.create followSchema.formats [following] .standard = .ok followSchema ∧
      SqlOptions.standard.enableSql = true ∧
      ∃ ts, followSchema.tables = .ok ts ∧
        ts.map (·.columnNames) = [["id", "handle"], ["id", "user_id", "user_handle"]] ∧
        ∀ t ∈ ts, t.columnNames.Nodup := by
  have hs : Schema.create followSchema.formats [following] .standard = .ok followSchema := by rfl
  obtain ⟨-, -, -, hall⟩ := nodup_columnNames_tables _ _ _ _ hs rfl
  obtain ⟨ts, ht⟩ : ∃ ts, followSchema.tables = .ok ts := ⟨_, rfl⟩
  have hn : followSchema.tables.map (List.map (·.columnNames)) =
      .ok [["id", "handle"], ["id", "user_id", "user_handle"]] := by rfl
  rw [ht] at hn
  exact ⟨hs, rfl, ts, ht, Except.ok.inj hn, hall ts ht⟩

end Schemata
