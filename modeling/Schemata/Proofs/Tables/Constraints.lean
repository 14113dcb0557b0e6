import Schemata.Proofs.Names.Separators
import Schemata.Proofs.Tables.ForeignKeys

/-!
Names of constraints within one table. Those of a join table differ, since its columns do. Those of
a format's table are made of the table that a key refers to and the column that holds it, with an
underscore between them, and underscores also stand in the names of tables and columns. So two keys
have one name if they agree in both parts, or if what is between two underscores in one is part of
the table and in the other part of the column.
-/
namespace Schemata

namespace Declaration

/-- The table that `d` refers to and its column read like those of `e`. -/
def Collides (d e : Declaration) : Prop :=
  let table (d : Declaration) : String := d.first.field.tableName
  let column (d : Declaration) : String := d.second.field.columnName
  (table d = table e ∧ column d = column e) ∨
    (∃ m, table e = table d ++ "_" ++ m ∧ column d = m ++ "_" ++ column e) ∨
    ∃ m, table d = table e ++ "_" ++ m ∧ column e = m ++ "_" ++ column d

end Declaration

/-- Texts made of two parts with an underscore between them, cut in two ways. -/
theorem append_underscore_eq_iff (t c t' c' : String) :
    t ++ "_" ++ c = t' ++ "_" ++ c' ↔
      (t = t' ∧ c = c') ∨ (∃ m, t' = t ++ "_" ++ m ∧ c = m ++ "_" ++ c') ∨
        ∃ m, t = t' ++ "_" ++ m ∧ c' = m ++ "_" ++ c := by
  constructor
  · intro h
    have hl : t.toList ++ '_' :: c.toList = t'.toList ++ '_' :: c'.toList := by
      simpa using congrArg String.toList h
    obtain ⟨ht, hc⟩ | ⟨m, ht, hc⟩ | ⟨m, ht, hc⟩ := append_cons_eq_iff.mp hl
    · exact .inl ⟨String.toList_inj.mp ht, String.toList_inj.mp hc⟩
    · refine .inr (.inl ⟨String.ofList m, ?_, ?_⟩) <;> simp [← String.toList_inj, ht, hc]
    · refine .inr (.inr ⟨String.ofList m, ?_, ?_⟩) <;> simp [← String.toList_inj, ht, hc]
  · rintro (⟨rfl, rfl⟩ | ⟨m, rfl, rfl⟩ | ⟨m, rfl, rfl⟩) <;> simp [String.append_assoc]

namespace FieldRef

theorem constraintName_eq (holder referenced : FieldRef) :
    holder.constraintName referenced =
      holder.tableName ++ "_to_" ++
        (referenced.tableName ++ "_" ++ holder.columnName) ++ "_fkey" := by
  simp [constraintName, toString, String.append_assoc]

/-- On one table the name of a constraint tells the text of the two parts. -/
theorem constraintName_eq_iff {h h' r r' : FieldRef} (ht : h.tableName = h'.tableName) :
    h.constraintName r = h'.constraintName r' ↔
      r.tableName ++ "_" ++ h.columnName = r'.tableName ++ "_" ++ h'.columnName := by
  rw [constraintName_eq, constraintName_eq, ht]
  simp

end FieldRef

namespace Declaration

variable {o : SqlOptions} {formatName : String}

theorem constraint_eq_iff {d e : Declaration} (hd : d.HeldBy formatName)
    (he : e.HeldBy formatName) :
    (d.foreignKey o).constraint = (e.foreignKey o).constraint ↔ d.Collides e := by
  have ht : d.second.field.tableName = e.second.field.tableName := by
    rw [FieldRef.tableName, FieldRef.tableName, hd.2, he.2]
  rw [foreignKey, foreignKey, FieldRef.constraintName_eq_iff ht, append_underscore_eq_iff]
  rfl

/-- The two constraints of a join table are named after its columns. -/
theorem nodup_joinConstraints {d : Declaration}
    (h : d.first.field.joinColumn ≠ d.second.field.joinColumn) :
    ((d.joinTable o).foreignKeys.map (·.constraint)).Nodup := by
  simpa [joinTable, joinForeignKey, joinConstraintName, toString] using h

end Declaration

namespace Schema

variable {s : Schema} {ds : List Declaration}

theorem nodup_constraints_createTable (ha : ds.Nodup)
    (hr : s.relations.toList = ds.map (·.relation s.options))
    (ho : s.options.enableSql = true) (f : DataFormat) :
    ((s.createTable f).foreignKeys.map (·.constraint)).Nodup ↔
      ∀ d ∈ ds, ∀ e ∈ ds, d.HeldBy f.name → e.HeldBy f.name → d.Collides e → d = e := by
  rw [foreignKeys_createTable hr ho, List.map_map, List.nodup_map_iff_inj_on (ha.filter _)]
  simp only [List.mem_filter, decide_eq_true_eq, Function.comp_apply]
  constructor
  · intro h d hd e he hdf hef hc
    exact h d ⟨hd, hdf⟩ e ⟨he, hef⟩ ((Declaration.constraint_eq_iff hdf hef).mpr hc)
  · rintro h d ⟨hd, hdf⟩ e ⟨he, hef⟩ hc
    exact h d hd e he hdf hef ((Declaration.constraint_eq_iff hdf hef).mp hc)

end Schema

/-- The constraints of a join table have different names. Those of a format's table do exactly when
no two relations that it holds collide. -/
theorem nodup_constraints_iff (fs : List DataFormat) (ds : List Declaration) (o : SqlOptions)
    (s : Schema) (h : Schema.create fs ds o = .ok s) (ho : o.enableSql = true) :
    (∀ t ∈ s.relations.joinTables, (t.foreignKeys.map (·.constraint)).Nodup) ∧
      ∀ f ∈ s.formats, ((s.createTable f).foreignKeys.map (·.constraint)).Nodup ↔
        ∀ d ∈ ds, ∀ e ∈ ds, d.HeldBy f.name → e.HeldBy f.name → d.Collides e → d = e := by
  obtain ⟨ha, rfl, hr, rfl⟩ := (Schema.create_eq_ok_iff fs ds o s).mp h
  refine ⟨fun t ht => ?_, fun f _ => Schema.nodup_constraints_createTable ha.names.of_map hr ho f⟩
  rw [Relations.joinTables_eq ho hr, List.mem_map] at ht
  obtain ⟨d, hd, rfl⟩ := ht
  obtain ⟨hd, hm⟩ := List.mem_filter.mp hd
  exact Declaration.nodup_joinConstraints ((ha.declarations d hd).joinColumns (by simpa using hm))

/-- Members name the owner of their group, and the group by the given field. -/
def belonging (field : String) : List Declaration :=
  [⟨.oneToMany, ⟨⟨"user", "id"⟩, none⟩, ⟨⟨"member", "groupOwnerId"⟩, none⟩⟩,
    ⟨.oneToMany, ⟨⟨"userGroup", "id"⟩, none⟩, ⟨⟨"member", field⟩, none⟩⟩]

def memberSchema (field : String) : Schema where
  formats :=
    [⟨"user", none, [⟨"id", .serial, none, false, false⟩]⟩,
      ⟨"userGroup", none, [⟨"id", .serial, none, false, false⟩]⟩,
      ⟨"member", none,
        [⟨"groupOwnerId", .integer, none, false, false⟩, ⟨field, .integer, none, false, false⟩]⟩]
  relations := ⟨(belonging field).map (·.relation .standard), by
    simp [belonging, Declaration.name, FieldRef.render, String.ext_iff, toString]⟩
  options := .standard

theorem nodup_constraints_groupId :
    Schema.create (memberSchema "groupId").formats (belonging "groupId") .standard =
        .ok (memberSchema "groupId") ∧
      SqlOptions.standard.enableSql = true ∧
      ∀ f ∈ (memberSchema "groupId").formats,
        (((memberSchema "groupId").createTable f).foreignKeys.map (·.constraint)).Nodup := by
  have hs : Schema.create (memberSchema "groupId").formats (belonging "groupId") .standard =
      .ok (memberSchema "groupId") := by rfl
  obtain ⟨-, hf⟩ := nodup_constraints_iff _ _ _ _ hs rfl
  have hne : ∀ d ∈ belonging "groupId", ∀ e ∈ belonging "groupId",
      (d.foreignKey .standard).constraint = (e.foreignKey .standard).constraint → d = e := by
    decide +kernel
  refine ⟨hs, rfl, fun f hm => (hf f hm).mpr fun d hd e he hdf hef hc => ?_⟩
  exact hne d hd e he ((Declaration.constraint_eq_iff hdf hef).mpr hc)

/-- The owner of a group, and a group that is an owner, give one name. -/
theorem not_nodup_constraints_ownerId :
    Schema.create (memberSchema "ownerId").formats (belonging "ownerId") .standard =
        .ok (memberSchema "ownerId") ∧
      ∃ f ∈ (memberSchema "ownerId").formats,
        ((memberSchema "ownerId").createTable f).foreignKeys.map (·.constraint) =
          ["member_to_user_group_owner_id_fkey", "member_to_user_group_owner_id_fkey"] ∧
        ¬ (((memberSchema "ownerId").createTable f).foreignKeys.map (·.constraint)).Nodup :=
  ⟨by rfl, _, .tail _ (.tail _ (.head _)), by rfl, by decide +kernel⟩

end Schemata
