import Schemata.Proofs.Acceptance
import Schemata.Proofs.Ordering.Arrangement
import Schemata.Script

/-!
The sequence of tables. When there is an order of provisioning its formats are at hand, so the
tables of the formats in that order, followed by the join tables, are what both scripts run over. In
a schema that has been accepted the order has each format once.
-/
namespace Schemata

namespace Schema

variable {s : Schema} {order : List String} {gs : List DataFormat}

theorem requireFormat_eq_ok_iff (s : Schema) (name : String) (f : DataFormat) :
    s.requireFormat name = .ok f ↔ s.format? name = some f := by
  unfold requireFormat
  split <;> simp [*]

theorem mem_formatNames (h : s.provisioningOrder = .ok order) {name : String} :
    name ∈ order ↔ name ∈ s.formatNames := by
  rw [(leastArrangement_of_eq_ok h).perm.mem_iff, List.mem_eraseDups]

/-- The formats of the order are found. -/
theorem exists_orderedFormats (h : s.provisioningOrder = .ok order) :
    ∃ gs, s.orderedFormats = .ok gs := by
  have hfound : ∀ name ∈ order, ∃ f, s.requireFormat name = .ok f := by
    intro name hn
    obtain ⟨f, hf⟩ := DataFormat.exists_find? ((mem_formatNames h).mp hn)
    exact ⟨f, (s.requireFormat_eq_ok_iff name f).mpr hf⟩
  obtain ⟨gs, hgs⟩ := exists_mapM_eq_ok hfound
  exact ⟨gs, by rw [orderedFormats, h, ok_bind, hgs]⟩

theorem orderedFormats_eq_ok_iff (h : s.provisioningOrder = .ok order) :
    s.orderedFormats = .ok gs ↔ List.Forall₂ (fun name f => s.format? name = some f) order gs := by
  rw [orderedFormats, h, ok_bind, mapM_eq_ok_iff]
  simp only [requireFormat_eq_ok_iff]

/-- The formats of the order are formats of the schema, under the names of the order. -/
theorem orderedFormats_spec (h : s.provisioningOrder = .ok order)
    (hg : s.orderedFormats = .ok gs) : gs.map (·.name) = order ∧ ∀ g ∈ gs, g ∈ s.formats :=
  map_eq_of_forall₂ (P := (· ∈ s.formats)) (fun _ _ hf => (DataFormat.of_find?_eq_some hf).symm)
    ((orderedFormats_eq_ok_iff h).mp hg)

/-- Each format of an accepted schema has its place in the order. -/
theorem orderedFormats_perm (ha : (s.formats.map (·.name)).Nodup)
    (h : s.provisioningOrder = .ok order) (hg : s.orderedFormats = .ok gs) :
    gs.Perm s.formats := by
  obtain ⟨hname, hmem⟩ := orderedFormats_spec h hg
  have ho : order.Nodup :=
    (leastArrangement_of_eq_ok h).perm.nodup_iff.mpr (nodup_eraseDups _)
  rw [List.perm_ext_iff_of_nodup (hname ▸ ho).of_map ha.of_map]
  intro f
  refine ⟨hmem f, fun hf => ?_⟩
  have hn : f.name ∈ gs.map (·.name) := by
    rw [hname, mem_formatNames h]
    exact List.mem_map_of_mem hf
  obtain ⟨g, hgm, he⟩ := List.mem_map.mp hn
  rwa [← List.inj_on_of_nodup_map ha (hmem g hgm) hf he]

/-- The tables of the formats, then the join tables. -/
def tablesOf (s : Schema) (gs : List DataFormat) : List Sql.CreateTable :=
  gs.map s.createTable ++ s.relations.joinTables

theorem tables_eq_ok_iff (s : Schema) (ts : List Sql.CreateTable) :
    s.tables = .ok ts ↔ ∃ gs, s.orderedFormats = .ok gs ∧ ts = s.tablesOf gs := by
  simp only [tables, bind_eq_ok_iff, pure, Except.pure, Except.ok.injEq]
  exact exists_congr fun gs => and_congr_right fun _ => eq_comm

/-- Tables are dropped in the opposite order. -/
theorem dropOrder_of_tables {ts : List Sql.CreateTable} (h : s.tables = .ok ts) :
    s.dropOrder = .ok (ts.map (·.name)).reverse := by
  obtain ⟨gs, hgs, rfl⟩ := (s.tables_eq_ok_iff ts).mp h
  rw [dropOrder, hgs, ok_bind]
  simp [pure, Except.pure, tablesOf, createTable, DataFormat.createTable, Function.comp_def]

theorem createScript_of_tables {ts : List Sql.CreateTable} (h : s.tables = .ok ts) :
    s.createScript = .ok (scriptOf (ts.map (·.render))) := by
  rw [createScript, h, ok_bind]
  rfl

theorem dropScript_of_tables {ts : List Sql.CreateTable} (h : s.tables = .ok ts) :
    s.dropScript = .ok (scriptOf ((ts.map (·.name)).reverse.map (·.renderDrop))) := by
  rw [dropScript, dropOrder_of_tables h, ok_bind]
  rfl

end Schema

end Schemata
