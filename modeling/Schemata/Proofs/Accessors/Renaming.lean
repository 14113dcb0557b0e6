import Schemata.Proofs.Accessors.Plans
import Schemata.Script

/-!
What the names of accessors decide. A declaration may name the accessors that lead to its ends, and
a format may name its plural. Leaving these names out changes nothing that is made of a schema but
the names of its accessors: relations are called by their fields, tables and statements by formats
and fields. So two schemas that differ in such names only have the same scripts, and accessors that
do the same, one for one.
-/
namespace Schemata

namespace DataFormat

def withoutPlural (f : DataFormat) : DataFormat := { f with pluralName := none }

@[simp] theorem name_withoutPlural (f : DataFormat) : f.withoutPlural.name = f.name := rfl

theorem find?_withoutPlural (fs : List DataFormat) (name : String) :
    find? (fs.map (·.withoutPlural)) name = (find? fs name).map (·.withoutPlural) := by
  rw [find?, List.find?_map]
  rfl

end DataFormat

/-! ### Relations -/

/-- The declaration without names for its accessors. -/
def Declaration.withoutNames (d : Declaration) : Declaration :=
  ⟨d.shape, ⟨d.first.field, none⟩, ⟨d.second.field, none⟩⟩

@[simp] theorem Declaration.field_endpoint_withoutNames (d : Declaration) (side : Side) :
    (d.withoutNames.endpoint side).field = (d.endpoint side).field := by
  cases side <;> rfl

namespace Relation

def withoutNames (r : Relation) : Relation := { r with declaration := r.declaration.withoutNames }

@[simp] theorem name_withoutNames (r : Relation) : r.withoutNames.name = r.name := rfl

theorem relation_withoutNames (d : Declaration) (o : SqlOptions) :
    d.withoutNames.relation o = (d.relation o).withoutNames := rfl

end Relation

namespace Relations

def withoutNames (rs : Relations) : Relations :=
  ⟨rs.toList.map (·.withoutNames), by simpa [Function.comp_def] using rs.nodup⟩

theorem names_withoutNames (rs : Relations) : rs.withoutNames.names = rs.names := by
  simp [names, withoutNames, Function.comp_def]

theorem joinTables_withoutNames (rs : Relations) : rs.withoutNames.joinTables = rs.joinTables := by
  rw [joinTables, withoutNames, List.filterMap_map]
  rfl

theorem imposingOn_withoutNames (rs : List Relation) (formatName : String) :
    imposingOn (rs.map (·.withoutNames)) formatName =
      (imposingOn rs formatName).map (·.withoutNames) := by
  rw [imposingOn, List.filter_map]
  rfl

end Relations

/-- The order of provisioning asks for the formats of keys and not for accessors. -/
theorem provisioningOrder_withoutNames (names : List String) (rs : List Relation) :
    provisioningOrder names (rs.map (·.withoutNames)) = provisioningOrder names rs := by
  have hg : FormatGraph.ofRelations names (rs.map (·.withoutNames)) =
      FormatGraph.ofRelations names rs := by
    rw [FormatGraph.ofRelations, List.foldlM_map]
    rfl
  rw [provisioningOrder, hg]
  rfl

/-! ### Scripts -/

theorem DataFormat.createTable_withoutNames (f : DataFormat) (rs : List Relation)
    (o : SqlOptions) :
    f.withoutPlural.createTable (rs.map (·.withoutNames)) o = f.createTable rs o := by
  rw [createTable, List.filterMap_map]
  rfl

namespace Schema

/-- The schema with no names but those of its formats and fields. -/
def withoutNames (s : Schema) : Schema :=
  ⟨s.formats.map (·.withoutPlural), s.relations.withoutNames, s.options⟩

theorem formatNames_withoutNames (s : Schema) : s.withoutNames.formatNames = s.formatNames := by
  simp [formatNames, withoutNames, Function.comp_def]

theorem provisioningOrder_withoutNames (s : Schema) :
    s.withoutNames.provisioningOrder = s.provisioningOrder := by
  rw [provisioningOrder, formatNames_withoutNames]
  exact Schemata.provisioningOrder_withoutNames _ _

theorem requireFormat_withoutNames (s : Schema) (name : String) :
    s.withoutNames.requireFormat name = (s.requireFormat name).map (·.withoutPlural) := by
  have hf : s.withoutNames.format? name = (s.format? name).map (·.withoutPlural) :=
    DataFormat.find?_withoutPlural _ _
  unfold requireFormat
  rw [hf]
  cases s.format? name <;> rfl

theorem orderedFormats_withoutNames (s : Schema) :
    s.withoutNames.orderedFormats = s.orderedFormats.map (List.map (·.withoutPlural)) := by
  have hm : ∀ names : List String, names.mapM s.withoutNames.requireFormat =
      (names.mapM s.requireFormat).map (List.map (·.withoutPlural)) := by
    intro names
    induction names with
    | nil => rfl
    | cons name names ih =>
      rw [List.mapM_cons, List.mapM_cons, ih, requireFormat_withoutNames]
      cases s.requireFormat name with
      | error e => rfl
      | ok f => cases names.mapM s.requireFormat <;> rfl
  unfold orderedFormats
  rw [provisioningOrder_withoutNames]
  cases s.provisioningOrder with
  | error e => rfl
  | ok order => exact hm order

theorem createTable_withoutNames (s : Schema) (f : DataFormat) :
    s.withoutNames.createTable f.withoutPlural = s.createTable f := by
  rw [createTable, createTable, ← DataFormat.createTable_withoutNames f,
    ← Relations.imposingOn_withoutNames]
  rfl

theorem tables_withoutNames (s : Schema) : s.withoutNames.tables = s.tables := by
  have hj : s.withoutNames.relations.joinTables = s.relations.joinTables :=
    s.relations.joinTables_withoutNames
  unfold tables
  rw [orderedFormats_withoutNames, hj]
  cases s.orderedFormats with
  | error e => rfl
  | ok gs => simp [Except.map, Function.comp_def, createTable_withoutNames]

theorem dropOrder_withoutNames (s : Schema) : s.withoutNames.dropOrder = s.dropOrder := by
  have hj : s.withoutNames.relations.joinTables = s.relations.joinTables :=
    s.relations.joinTables_withoutNames
  unfold dropOrder
  rw [orderedFormats_withoutNames, hj]
  cases s.orderedFormats with
  | error e => rfl
  | ok gs =>
    simp only [Except.map, ok_bind, List.map_map]
    rfl

theorem createScript_withoutNames (s : Schema) : s.withoutNames.createScript = s.createScript := by
  rw [createScript, tables_withoutNames, ← createScript]

theorem dropScript_withoutNames (s : Schema) : s.withoutNames.dropScript = s.dropScript := by
  rw [dropScript, dropOrder_withoutNames, ← dropScript]

end Schema

/-! ### Accessors -/

namespace AccessorPlan

/-- The plans do the same for the same relation, under any names. -/
structure Agrees (p q : AccessorPlan) : Prop where
  relation : p.relation = q.relation
  role : p.role = q.role
  target : p.target = q.target
  query : p.query = q.query

theorem occasions_withoutNames (rs : List Relation) (formatName : String) :
    occasions (rs.map (·.withoutNames)) formatName =
      (occasions rs formatName).map fun x => (x.1, x.2.withoutNames) := by
  have hr : Relations.relevantTo (rs.map (·.withoutNames)) formatName =
      (Relations.relevantTo rs formatName).map (·.withoutNames) := by
    rw [Relations.relevantTo, List.filter_map]
    rfl
  unfold occasions
  rw [List.map_flatMap, hr]
  congr 1
  funext role
  have hroles : ∀ r : Relation, r.withoutNames.declaration.rolesOf formatName =
      r.declaration.rolesOf formatName := fun _ => rfl
  simp only [List.filter_map, List.map_map, Function.comp_def, hroles]

/-- What a plan does is told by the format it leads to and the fields of the relation. -/
theorem Leads.agrees {fs gs : List DataFormat} {o : SqlOptions} {d e : Declaration} {side : Side}
    {p q : AccessorPlan} (hp : p.Leads fs o d side) (hq : q.Leads gs o e side)
    (hf : fs.map (·.withoutPlural) = gs.map (·.withoutPlural))
    (hd : d.withoutNames = e.withoutNames) : p.Agrees q := by
  have hfield : ∀ side, (d.endpoint side).field = (e.endpoint side).field := fun side => by
    rw [← d.field_endpoint_withoutNames, hd, e.field_endpoint_withoutNames]
  have hshape : d.shape = e.shape := (congrArg Declaration.shape hd :)
  have htarget : p.target = q.target := by rw [hp.target, hq.target, hfield]
  refine ⟨?_, ?_, htarget, ?_⟩
  · rw [hp.relation, hq.relation]
    exact (congrArg Declaration.name hd :)
  · rw [hp.role, hq.role, hshape]
  · obtain ⟨f, hpf, hpq⟩ := hp.query
    obtain ⟨g, hqg, hqq⟩ := hq.query
    have hfg : f.withoutPlural = g.withoutPlural := by
      have hfind := congrArg (DataFormat.find? · p.target) hf
      rw [DataFormat.find?_withoutPlural, DataFormat.find?_withoutPlural, hpf, htarget,
        hqg] at hfind
      exact Option.some.inj hfind
    have htable : f.tableName = g.tableName := (congrArg DataFormat.tableName hfg :)
    have hcolumns : f.columnNames = g.columnNames := (congrArg DataFormat.columnNames hfg :)
    have hroute : ∀ near far, d.route o near far = e.route o near far :=
      congrFun₂ (congrArg (Declaration.route · o) hd :)
    rw [hpq, hqq, htable, hcolumns, hfield, hfield, hroute]

end AccessorPlan

namespace Schema

variable {s t : Schema}

/-- What schemas are without names tells nothing of the names. -/
theorem withoutNames_congr {fs gs : List DataFormat} {ds es : List Declaration} {o : SqlOptions}
    (hs : Schema.create fs ds o = .ok s) (ht : Schema.create gs es o = .ok t)
    (hf : fs.map (·.withoutPlural) = gs.map (·.withoutPlural))
    (hd : ds.map (·.withoutNames) = es.map (·.withoutNames)) :
    s.withoutNames = t.withoutNames := by
  obtain ⟨-, rfl, hsr, rfl⟩ := (create_eq_ok_iff _ _ _ _).mp hs
  obtain ⟨-, rfl, htr, hto⟩ := (create_eq_ok_iff _ _ _ _).mp ht
  have hr : s.relations.toList.map (·.withoutNames) = t.relations.toList.map (·.withoutNames) := by
    have he := congrArg (List.map (·.relation s.options)) hd
    rw [hsr, htr]
    simpa only [List.map_map, Function.comp_def, Relation.relation_withoutNames] using he
  have hrs : s.relations.withoutNames = t.relations.withoutNames := by
    simp only [Relations.withoutNames, hr]
  rw [withoutNames, withoutNames, hf, hrs, hto]

/-- The ends on a format are met in the same order under any names. -/
theorem forall₂_occasions (h : s.withoutNames = t.withoutNames) (formatName : String) :
    List.Forall₂ (fun x y => x.1 = y.1 ∧ x.2.withoutNames = y.2.withoutNames)
      (AccessorPlan.occasions s.relations.toList formatName)
      (AccessorPlan.occasions t.relations.toList formatName) := by
  have hr : s.relations.toList.map (·.withoutNames) = t.relations.toList.map (·.withoutNames) :=
    congrArg (·.relations.toList) h
  have ho := congrArg (AccessorPlan.occasions · formatName) hr
  simp only [AccessorPlan.occasions_withoutNames] at ho
  rw [← List.forall₂_eq_eq_eq, List.forall₂_map_left_iff, List.forall₂_map_right_iff] at ho
  exact ho.imp fun _ _ => Prod.mk.inj

/-- Where no accessor is refused, the accessors do the same one for one. -/
theorem plans_agree (h : s.withoutNames = t.withoutNames) {formatName : String}
    {ps qs : List AccessorPlan} (hp : s.plans .fail formatName = .ok ps)
    (hq : t.plans .fail formatName = .ok qs) : List.Forall₂ AccessorPlan.Agrees ps qs := by
  have hf : s.formats.map (·.withoutPlural) = t.formats.map (·.withoutPlural) :=
    congrArg (·.formats) h
  have ho : s.options = t.options := congrArg (·.options) h
  obtain ⟨-, hps⟩ := AccessorPlan.planAll_fail hp
  obtain ⟨-, hqs⟩ := AccessorPlan.planAll_fail hq
  rw [← ho] at hqs
  refine (forall₂_comp hps.flip (forall₂_comp (forall₂_occasions h formatName) hqs)).imp ?_
  rintro p q ⟨⟨role, r⟩, hpx, ⟨_, r'⟩, ⟨rfl, hr⟩, hqy⟩
  exact hpx.agrees hqy hf (congrArg Relation.declaration hr)

end Schema

/-- Accepted schemas that differ in the names given to accessors and in plurals only have relations
of the same names, the same order of provisioning or the same cycle, and the same scripts. Their
accessors are the same one for one but for the names, wherever no accessor is refused. -/
theorem accessorNames_rename_only (fs gs : List DataFormat) (ds es : List Declaration)
    (o : SqlOptions) (s t : Schema) (hs : Schema.create fs ds o = .ok s)
    (ht : Schema.create gs es o = .ok t) (hf : fs.map (·.withoutPlural) = gs.map (·.withoutPlural))
    (hd : ds.map (·.withoutNames) = es.map (·.withoutNames)) :
    s.relations.names = t.relations.names ∧ s.provisioningOrder = t.provisioningOrder ∧
      s.createScript = t.createScript ∧ s.dropScript = t.dropScript ∧
      ∀ formatName ps qs, s.plans .fail formatName = .ok ps → t.plans .fail formatName = .ok qs →
        List.Forall₂ AccessorPlan.Agrees ps qs := by
  have h : s.withoutNames = t.withoutNames := Schema.withoutNames_congr hs ht hf hd
  have hr : s.relations.withoutNames = t.relations.withoutNames := congrArg (·.relations) h
  refine ⟨?_, ?_, ?_, ?_, fun formatName ps qs => Schema.plans_agree h⟩
  · rw [← s.relations.names_withoutNames, hr, t.relations.names_withoutNames]
  · rw [← s.provisioningOrder_withoutNames, h, t.provisioningOrder_withoutNames]
  · rw [← s.createScript_withoutNames, h, t.createScript_withoutNames]
  · rw [← s.dropScript_withoutNames, h, t.dropScript_withoutNames]

/-- The relations of reviews and users with names for most of the accessors. -/
def naming : List Declaration :=
  [⟨.oneToMany, ⟨⟨"user", "id"⟩, none⟩, ⟨⟨"review", "userId"⟩, some "getReviews"⟩⟩,
    ⟨.oneToOne, ⟨⟨"user", "id"⟩, some "getInviter"⟩, ⟨⟨"user", "inviterId"⟩, some "getInvited"⟩⟩,
    ⟨.manyToMany, ⟨⟨"review", "id"⟩, none⟩, ⟨⟨"user", "id"⟩, some "getFans"⟩⟩]

/-- Reviews and users with plurals and accessors of other names. -/
def namedSchema : Schema where
  formats :=
    [⟨"review", some "critiques",
        [⟨"id", .serial, none, false, false⟩, ⟨"userId", .integer, none, false, false⟩]⟩,
      ⟨"user", some "people",
        [⟨"id", .serial, none, false, false⟩, ⟨"inviterId", .integer, none, true, false⟩]⟩]
  relations := ⟨naming.map (·.relation .standard), by decide⟩
  options := .standard

/-- Both accessors between users and their inviters are on the store of users, whatever they are
called there. -/
theorem accessorNames_namedSchema :
    Schema.create reviewSchema.formats reviewing .standard = .ok reviewSchema ∧
      Schema.create namedSchema.formats naming .standard = .ok namedSchema ∧
      namedSchema.createScript = reviewSchema.createScript ∧
      ∃ ps qs, reviewSchema.plans .fail "user" = .ok ps ∧ namedSchema.plans .fail "user" = .ok qs ∧
        List.Forall₂ AccessorPlan.Agrees ps qs ∧
        ps.map (·.name) =
          ["getRelatedUserRecordOnInviterId", "getRelatedUserRecordOnId",
            "getRelatedReviewRecordsOnUserId", "getRelatedReviewRecordsOnId"] ∧
        qs.map (·.name) =
          ["getInvited", "getInviter", "getReviews", "getRelatedReviewRecordsOnId"] := by
  have hs : Schema.create reviewSchema.formats reviewing .standard = .ok reviewSchema := by rfl
  have ht : Schema.create namedSchema.formats naming .standard = .ok namedSchema := by rfl
  obtain ⟨-, -, hscript, -, hplans⟩ :=
    accessorNames_rename_only _ _ _ _ _ _ _ hs ht (by decide) (by decide)
  exact ⟨hs, ht, hscript.symm, _, _, rfl, rfl, hplans "user" _ _ rfl rfl, by rfl, by rfl⟩

end Schemata
