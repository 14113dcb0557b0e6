import Schemata.Proofs.Acceptance
import Schemata.Proofs.Names.Separators
import Mathlib.Data.List.Perm.Basic

/-!
What makes a schema, said without the passes that check it. Formats and declarations are accepted
exactly when they keep a list of rules about names, references and generated identifiers, none of
which depends on the order in which formats, fields and declarations are listed.
-/
namespace Schemata

namespace Declaration

/-- The identifiers that a declaration brings into the database: the join table with a column and a
constraint for each end, or the constraint of the foreign key. -/
def identifiers (d : Declaration) : List String :=
  if d.shape = .manyToMany then
    [d.joinTableName,
      d.first.field.joinColumn, d.joinConstraintName d.first.field,
      d.second.field.joinColumn, d.joinConstraintName d.second.field]
  else [d.second.field.constraintName d.first.field]

/-- Same shape, same fields in the same order. -/
def Same (d e : Declaration) : Prop :=
  d.shape = e.shape ∧ d.first.field = e.first.field ∧ d.second.field = e.second.field

end Declaration

/-- The rules for formats and declarations that make a schema together. -/
structure Admissible (fs : List DataFormat) (ds : List Declaration) : Prop where
  formatNames : ∀ f ∈ fs, Name.Declarable f.name
  fieldNames : ∀ f ∈ fs, ∀ x ∈ f.fields, Name.Declarable x.name
  tables : (fs.map (·.tableName)).Nodup
  columns : ∀ f ∈ fs, (f.fields.map (·.columnName)).Nodup
  fields : ∀ d ∈ ds, ∀ side, ∃ f ∈ fs, f.name = (d.endpoint side).field.formatName ∧
    ∃ x ∈ f.fields, x.name = (d.endpoint side).field.fieldName
  distinct : ∀ d ∈ ds, d.first.field ≠ d.second.field
  accessorNames : ∀ d ∈ ds, ∀ side, ∀ name ∈ (d.endpoint side).accessorName,
    Name.FunctionName name.toList
  identifiers : ∀ d ∈ ds, ∀ i ∈ d.identifiers, i.utf8ByteSize ≤ 63
  joinColumns : ∀ d ∈ ds, d.shape = .manyToMany →
    d.first.field.joinColumn ≠ d.second.field.joinColumn
  joinTables : ∀ d ∈ ds, ∀ e ∈ ds, d.shape = .manyToMany → e.shape = .manyToMany → d ≠ e →
    d.joinTableName ≠ e.joinTableName
  relations : ds.Pairwise fun d e => ¬ d.Same e

/-! ### Acceptance by rules -/

namespace Validation

theorem accessorName_eq_ok_iff (name : Option String) :
    accessorName name = .ok () ↔ ∀ n ∈ name, Name.FunctionName n.toList := by
  cases name with
  | none => simp [accessorName]
  | some n => simp [accessorName, Name.checkFunction_eq_ok_iff]

theorem generatedNames_eq_ok_iff (d : Declaration) :
    generatedNames d = .ok () ↔ ∀ i ∈ d.identifiers, i.utf8ByteSize ≤ 63 := by
  unfold generatedNames Declaration.identifiers
  split
  · simp [check_eq_ok_iff, Name.checkGenerated_eq_ok_iff, Name.maxLength, pure, Except.pure]
  · simp [Name.checkGenerated_eq_ok_iff, Name.maxLength]

end Validation

theorem DataFormat.admitted_iff (f : DataFormat) :
    f.Admitted ↔ Name.Declarable f.name ∧ (∀ x ∈ f.fields, Name.Declarable x.name) ∧
      (f.fields.map (·.columnName)).Nodup := by
  constructor
  · intro h
    exact ⟨(Name.checkDeclared_eq_ok_iff _ _).mp h.name,
      fun x hx => (Name.checkDeclared_eq_ok_iff _ _).mp (h.fields x hx), h.columns⟩
  · rintro ⟨hn, hx, hc⟩
    exact ⟨(Name.checkDeclared_eq_ok_iff _ _).mpr hn,
      fun x hm => (Name.checkDeclared_eq_ok_iff _ _).mpr (hx x hm), hc⟩

/-- A reference to a declared field consists of names that may be declared. -/
theorem FieldRef.Camel.of_declared {fs : List DataFormat} (h : ∀ f ∈ fs, f.Admitted)
    {r : FieldRef} (hr : ∃ f ∈ fs, f.name = r.formatName ∧ ∃ x ∈ f.fields, x.name = r.fieldName) :
    r.Camel := by
  obtain ⟨f, hf, hn, x, hx, hm⟩ := hr
  obtain ⟨hfn, hxn, -⟩ := f.admitted_iff.mp (h f hf)
  exact ⟨hn ▸ hfn.camel, hm ▸ (hxn x hx).camel⟩

namespace Accepted

variable {fs : List DataFormat} {ds : List Declaration}

theorem camel (h : Accepted fs ds) {d : Declaration} (hd : d ∈ ds) : d.Camel :=
  ⟨.of_declared h.formats (h.exists_field hd .first),
    .of_declared h.formats (h.exists_field hd .second)⟩

theorem name_eq_iff (h : Accepted fs ds) {d e : Declaration} (hd : d ∈ ds) (he : e ∈ ds) :
    d.name = e.name ↔ d.Same e :=
  (h.camel hd).name_eq_iff (h.camel he)

/-- Of different declarations no two have one join table. -/
theorem joinTableName_ne (h : Accepted fs ds) {d e : Declaration} (hd : d ∈ ds) (he : e ∈ ds)
    (hdm : d.shape = .manyToMany) (hem : e.shape = .manyToMany) (hne : d ≠ e) :
    d.joinTableName ≠ e.joinTableName := by
  intro hj
  have hn : d.name ≠ e.name := fun hn => hne (List.inj_on_of_nodup_map h.names hd he hn)
  have : Std.Symm fun d e : Declaration => ¬ d.Clash e :=
    ⟨fun d e hc ⟨hem, hdm, hj, hn⟩ => hc ⟨hdm, hem, hj.symm, hn.symm⟩⟩
  exact h.joinTables.forall hd he hne ⟨hdm, hem, hj, hn⟩

theorem admissible (h : Accepted fs ds) : Admissible fs ds where
  formatNames f hf := (f.admitted_iff.mp (h.formats f hf)).1
  fieldNames f hf := (f.admitted_iff.mp (h.formats f hf)).2.1
  tables := h.tables
  columns f hf := (h.formats f hf).columns
  fields d hd := h.exists_field hd
  distinct d hd := (h.declarations d hd).distinct
  accessorNames d hd side := by
    have ha := h.declarations d hd
    cases side with
    | first => exact (Validation.accessorName_eq_ok_iff _).mp ha.firstAccessor
    | second => exact (Validation.accessorName_eq_ok_iff _).mp ha.secondAccessor
  identifiers d hd := (Validation.generatedNames_eq_ok_iff d).mp (h.declarations d hd).generated
  joinColumns d hd := (h.declarations d hd).joinColumns
  joinTables d hd e he hdm hem hne := h.joinTableName_ne hd he hdm hem hne
  relations := by
    refine (List.pairwise_map.mp h.names).imp_of_mem ?_
    intro d e hd he hn hs
    exact hn ((h.name_eq_iff hd he).mpr hs)

end Accepted

namespace Admissible

variable {fs gs : List DataFormat} {ds es : List Declaration}

theorem admitted (h : Admissible fs ds) : ∀ f ∈ fs, f.Admitted :=
  fun f hf => f.admitted_iff.mpr ⟨h.formatNames f hf, h.fieldNames f hf, h.columns f hf⟩

theorem camel (h : Admissible fs ds) {d : Declaration} (hd : d ∈ ds) : d.Camel :=
  ⟨.of_declared h.admitted (h.fields d hd .first),
    .of_declared h.admitted (h.fields d hd .second)⟩

theorem accepted (h : Admissible fs ds) : Accepted fs ds where
  formats := h.admitted
  tables := h.tables
  declarations d hd :=
    have hn := DataFormat.nodup_names h.tables
    { first := (declares_iff hn _).mpr (h.fields d hd .first)
      second := (declares_iff hn _).mpr (h.fields d hd .second)
      distinct := h.distinct d hd
      firstAccessor := (Validation.accessorName_eq_ok_iff _).mpr (h.accessorNames d hd .first)
      secondAccessor := (Validation.accessorName_eq_ok_iff _).mpr (h.accessorNames d hd .second)
      generated := (Validation.generatedNames_eq_ok_iff d).mpr (h.identifiers d hd)
      joinColumns := h.joinColumns d hd }
  joinTables := by
    refine List.pairwise_of_forall_mem_list ?_
    rintro d hd e he ⟨hdm, hem, hj, hn⟩
    exact h.joinTables d hd e he hdm hem (fun hde => hn (by rw [hde])) hj
  names := by
    refine List.pairwise_map.mpr (h.relations.imp_of_mem ?_)
    intro d e hd he hs hn
    exact hs (((h.camel hd).name_eq_iff (h.camel he)).mp hn)

end Admissible

theorem accepted_iff_admissible (fs : List DataFormat) (ds : List Declaration) :
    Accepted fs ds ↔ Admissible fs ds :=
  ⟨Accepted.admissible, Admissible.accepted⟩

/-! ### Order -/

/-- The same format with its fields in any order. -/
structure DataFormat.Rearranged (f g : DataFormat) : Prop where
  name : f.name = g.name
  pluralName : f.pluralName = g.pluralName
  fields : f.fields.Perm g.fields

/-- The same formats in any order, each with its fields in any order. -/
def FormatsRearranged (fs gs : List DataFormat) : Prop :=
  ∃ hs, fs.Perm hs ∧ List.Forall₂ DataFormat.Rearranged hs gs

theorem DataFormat.Rearranged.symm {f g : DataFormat} (h : f.Rearranged g) : g.Rearranged f :=
  ⟨h.name.symm, h.pluralName.symm, h.fields.symm⟩

theorem DataFormat.map_tableName_of_rearranged {fs gs : List DataFormat}
    (h : List.Forall₂ DataFormat.Rearranged fs gs) :
    gs.map (·.tableName) = fs.map (·.tableName) := by
  induction h with
  | nil => rfl
  | cons hfg _ ih =>
    rw [List.map_cons, List.map_cons, ih, DataFormat.tableName, DataFormat.tableName, hfg.name]

namespace Admissible

variable {fs gs : List DataFormat} {ds es : List Declaration}

theorem perm_formats (h : Admissible fs ds) (hp : fs.Perm gs) : Admissible gs ds where
  formatNames f hf := h.formatNames f (hp.mem_iff.mpr hf)
  fieldNames f hf := h.fieldNames f (hp.mem_iff.mpr hf)
  tables := (hp.map _).nodup_iff.mp h.tables
  columns f hf := h.columns f (hp.mem_iff.mpr hf)
  fields d hd side := by
    obtain ⟨f, hf, hx⟩ := h.fields d hd side
    exact ⟨f, hp.mem_iff.mp hf, hx⟩
  distinct := h.distinct
  accessorNames := h.accessorNames
  identifiers := h.identifiers
  joinColumns := h.joinColumns
  joinTables := h.joinTables
  relations := h.relations

theorem perm_fields (h : Admissible fs ds) (hr : List.Forall₂ DataFormat.Rearranged fs gs) :
    Admissible gs ds := by
  have hforth : ∀ f ∈ fs, ∃ g ∈ gs, f.Rearranged g := fun f hf => exists_match hr hf
  have hback : ∀ g ∈ gs, ∃ f ∈ fs, f.Rearranged g := fun g hg => exists_match hr.flip hg
  exact
    { formatNames := fun g hg => by
        obtain ⟨f, hf, hfg⟩ := hback g hg
        exact hfg.name ▸ h.formatNames f hf
      fieldNames := fun g hg x hx => by
        obtain ⟨f, hf, hfg⟩ := hback g hg
        exact h.fieldNames f hf x (hfg.fields.mem_iff.mpr hx)
      tables := DataFormat.map_tableName_of_rearranged hr ▸ h.tables
      columns := fun g hg => by
        obtain ⟨f, hf, hfg⟩ := hback g hg
        exact (hfg.fields.map _).nodup_iff.mp (h.columns f hf)
      fields := fun d hd side => by
        obtain ⟨f, hf, hn, x, hx, hm⟩ := h.fields d hd side
        obtain ⟨g, hg, hfg⟩ := hforth f hf
        exact ⟨g, hg, hfg.name ▸ hn, x, hfg.fields.mem_iff.mp hx, hm⟩
      distinct := h.distinct
      accessorNames := h.accessorNames
      identifiers := h.identifiers
      joinColumns := h.joinColumns
      joinTables := h.joinTables
      relations := h.relations }

theorem perm_declarations (h : Admissible fs ds) (hp : ds.Perm es) : Admissible fs es where
  formatNames := h.formatNames
  fieldNames := h.fieldNames
  tables := h.tables
  columns := h.columns
  fields d hd := h.fields d (hp.mem_iff.mpr hd)
  distinct d hd := h.distinct d (hp.mem_iff.mpr hd)
  accessorNames d hd := h.accessorNames d (hp.mem_iff.mpr hd)
  identifiers d hd := h.identifiers d (hp.mem_iff.mpr hd)
  joinColumns d hd := h.joinColumns d (hp.mem_iff.mpr hd)
  joinTables d hd e he := h.joinTables d (hp.mem_iff.mpr hd) e (hp.mem_iff.mpr he)
  relations := by
    have hs : ∀ {d e : Declaration}, ¬ d.Same e → ¬ e.Same d :=
      fun hn ⟨ha, hb, hc⟩ => hn ⟨ha.symm, hb.symm, hc.symm⟩
    exact (hp.pairwise_iff hs).mp h.relations

/-- The rules do not depend on any order. -/
theorem congr (hf : FormatsRearranged fs gs) (hd : ds.Perm es) :
    Admissible fs ds ↔ Admissible gs es := by
  obtain ⟨hs, hp, hr⟩ := hf
  have hr' : List.Forall₂ DataFormat.Rearranged gs hs := hr.flip.imp fun _ _ => .symm
  constructor
  · intro h
    exact ((h.perm_formats hp).perm_fields hr).perm_declarations hd
  · intro h
    exact ((h.perm_fields hr').perm_formats hp.symm).perm_declarations hd.symm

end Admissible

/-! ### Creation -/

/-- With distinct names of relations there is a collection of them in order. -/
theorem exists_create_iff (fs : List DataFormat) (ds : List Declaration) (o : SqlOptions) :
    (∃ s, Schema.create fs ds o = .ok s) ↔ Admissible fs ds := by
  rw [← accepted_iff_admissible]
  constructor
  · rintro ⟨s, hs⟩
    exact ((Schema.create_eq_ok_iff fs ds o s).mp hs).1
  · intro h
    have hn : ((ds.map (·.relation o)).map Relation.name).Nodup := by
      simpa [Function.comp_def] using h.names
    exact ⟨⟨fs, ⟨ds.map (·.relation o), hn⟩, o⟩,
      (Schema.create_eq_ok_iff fs ds o _).mpr ⟨h, rfl, rfl, rfl⟩⟩

/-- Formats and declarations make a schema exactly when they keep the rules. The schema has them as
they are listed, and the order in which they are listed does not matter for acceptance. -/
theorem create_accepts_iff (fs : List DataFormat) (ds : List Declaration) (o : SqlOptions) :
    ((∃ s, Schema.create fs ds o = .ok s) ↔ Admissible fs ds) ∧
      (∀ s, Schema.create fs ds o = .ok s → s.formats = fs ∧ s.declarations = ds ∧
        s.relations.toList = ds.map (·.relation o)) ∧
      ∀ gs es, FormatsRearranged fs gs → ds.Perm es →
        ((∃ s, Schema.create fs ds o = .ok s) ↔ ∃ s, Schema.create gs es o = .ok s) := by
  refine ⟨exists_create_iff fs ds o, fun s hs => ?_, fun gs es hf hd => ?_⟩
  · obtain ⟨-, hfs, hr, -⟩ := (Schema.create_eq_ok_iff fs ds o s).mp hs
    exact ⟨hfs, Schema.declarations_eq hr, hr⟩
  · rw [exists_create_iff, exists_create_iff]
    exact Admissible.congr hf hd

/-- Users with the field that names their inviter in front. -/
def inviterFirst : List DataFormat :=
  [⟨"user", none,
      [⟨"inviterId", .integer, none, true, false⟩, ⟨"id", .serial, none, false, false⟩]⟩,
    ⟨"review", none,
      [⟨"id", .serial, none, false, false⟩, ⟨"userId", .integer, none, false, false⟩]⟩]

theorem create_accepts_inviterFirst :
    Schema.create reviewSchema.formats reviewing .standard = .ok reviewSchema ∧
      Admissible reviewSchema.formats reviewing ∧
      FormatsRearranged reviewSchema.formats inviterFirst ∧ reviewing.Perm reviewing.reverse ∧
      ∃ s, Schema.create inviterFirst reviewing.reverse .standard = .ok s := by
  obtain ⟨hrules, -, horder⟩ := create_accepts_iff reviewSchema.formats reviewing .standard
  have hs : Schema.create reviewSchema.formats reviewing .standard = .ok reviewSchema := by rfl
  have hf : FormatsRearranged reviewSchema.formats inviterFirst :=
    ⟨_, .swap _ _ _, .cons ⟨rfl, rfl, .swap _ _ _⟩ (.cons ⟨rfl, rfl, .refl _⟩ .nil)⟩
  have hd : reviewing.Perm reviewing.reverse := (List.reverse_perm _).symm
  exact ⟨hs, hrules.mp ⟨_, hs⟩, hf, hd, (horder _ _ hf hd).mp ⟨_, hs⟩⟩

end Schemata
