import Schemata.Schema
import Schemata.Proofs.Success
import Mathlib.Data.List.Nodup

/-!
What validation accepts. Formats and declarations are accepted exactly when each of them can be
admitted by itself, no two formats have one table, no two relations have one name, and no two
many-to-many relations of different names have one join table. What has been accepted becomes the
schema as it stands: formats, declarations and their order are kept.
-/
namespace Schemata

open Validation

/-- A format that can be admitted by itself: declared names throughout, and no column twice. -/
structure DataFormat.Admitted (f : DataFormat) : Prop where
  name : Name.checkDeclared .dataFormat f.name = .ok ()
  fields : ∀ x ∈ f.fields, Name.checkDeclared .field x.name = .ok ()
  columns : f.columnNames.Nodup

/-- A declaration that can be admitted by itself over the formats `fs`. -/
structure Declaration.Admitted (fs : List DataFormat) (d : Declaration) : Prop where
  first : declares fs d.first.field
  second : declares fs d.second.field
  distinct : d.first.field ≠ d.second.field
  firstAccessor : accessorName d.first.accessorName = .ok ()
  secondAccessor : accessorName d.second.accessorName = .ok ()
  generated : generatedNames d = .ok ()
  joinColumns : d.shape = .manyToMany → d.first.field.joinColumn ≠ d.second.field.joinColumn

/-- Whether two declarations ask for one join table under different names. -/
def Declaration.Clash (d e : Declaration) : Prop :=
  d.shape = .manyToMany ∧ e.shape = .manyToMany ∧ d.joinTableName = e.joinTableName ∧
    d.name ≠ e.name

/-- Formats and declarations that make a schema. -/
structure Accepted (fs : List DataFormat) (ds : List Declaration) : Prop where
  formats : ∀ f ∈ fs, f.Admitted
  tables : (fs.map (·.tableName)).Nodup
  declarations : ∀ d ∈ ds, d.Admitted fs
  joinTables : ds.Pairwise fun d e => ¬ d.Clash e
  names : (ds.map (·.name)).Nodup

/-! ### Formats and their fields by name -/

/-- Where keys are distinct each entry is found by its own. -/
theorem find?_key {α : Type} {key : α → String} {xs : List α} (hn : (xs.map key).Nodup) {x : α}
    (hx : x ∈ xs) : xs.find? (key · == key x) = some x := by
  have hs : (xs.find? (key · == key x)).isSome := List.find?_isSome.mpr ⟨x, hx, by simp⟩
  obtain ⟨y, hy⟩ := Option.isSome_iff_exists.mp hs
  have he : key y = key x := by simpa using List.find?_some hy
  rw [hy, List.inj_on_of_nodup_map hn (List.mem_of_find?_eq_some hy) hx he]

namespace DataFormat

theorem of_find?_eq_some {fs : List DataFormat} {name : String} {f : DataFormat}
    (h : find? fs name = some f) : f ∈ fs ∧ f.name = name :=
  ⟨List.mem_of_find?_eq_some h, by simpa using List.find?_some h⟩

theorem exists_find? {fs : List DataFormat} {name : String} (h : name ∈ fs.map (·.name)) :
    ∃ f, find? fs name = some f := by
  rw [← Option.isSome_iff_exists, find?, List.find?_isSome]
  obtain ⟨f, hf, rfl⟩ := List.mem_map.mp h
  exact ⟨f, hf, by simp⟩

/-- Formats of different tables have different names. -/
theorem nodup_names {fs : List DataFormat} (h : (fs.map (·.tableName)).Nodup) :
    (fs.map (·.name)).Nodup := by
  have ht : fs.map (·.tableName) = (fs.map (·.name)).map Name.table := by
    simp [DataFormat.tableName]
  exact (ht ▸ h).of_map

theorem hasField_iff (f : DataFormat) (name : String) :
    f.hasField name ↔ ∃ x ∈ f.fields, x.name = name := by
  simp [hasField, field?]

end DataFormat

/-- A field is declared if a format of its name has it. -/
theorem declares_iff {fs : List DataFormat} (hn : (fs.map (·.name)).Nodup) (r : FieldRef) :
    declares fs r ↔
      ∃ f ∈ fs, f.name = r.formatName ∧ ∃ x ∈ f.fields, x.name = r.fieldName := by
  unfold declares
  constructor
  · intro h
    obtain ⟨f, hf, hx⟩ := (Option.any_eq_true _ _).mp h
    obtain ⟨hm, he⟩ := DataFormat.of_find?_eq_some hf
    exact ⟨f, hm, he, (f.hasField_iff _).mp hx⟩
  · rintro ⟨f, hf, he, hx⟩
    rw [← he, DataFormat.find?, find?_key hn hf, Option.any_some]
    exact (f.hasField_iff _).mpr hx

namespace Accepted

variable {fs : List DataFormat} {ds : List Declaration}

theorem formatNames (h : Accepted fs ds) : (fs.map (·.name)).Nodup :=
  DataFormat.nodup_names h.tables

theorem eq_of_tableName (h : Accepted fs ds) {f g : DataFormat} (hf : f ∈ fs) (hg : g ∈ fs)
    (ht : f.tableName = g.tableName) : f = g :=
  List.inj_on_of_nodup_map h.tables hf hg ht

/-- Both fields of an accepted declaration are declared. -/
theorem exists_field (h : Accepted fs ds) {d : Declaration} (hd : d ∈ ds) (side : Side) :
    ∃ f ∈ fs, f.name = (d.endpoint side).field.formatName ∧
      ∃ x ∈ f.fields, x.name = (d.endpoint side).field.fieldName := by
  have ha := h.declarations d hd
  cases side with
  | first => exact (declares_iff h.formatNames _).mp ha.first
  | second => exact (declares_iff h.formatNames _).mp ha.second

end Accepted

namespace Validation

@[simp] theorem identifier_eq_ok_iff (r : Except Name.Fault Unit) :
    identifier r = .ok () ↔ r = .ok () := by
  cases r <;> simp [identifier, Except.mapError]

@[simp] theorem fieldRef_eq_ok_iff (fs : List DataFormat) (relation : String) (r : FieldRef) :
    fieldRef fs relation r = .ok () ↔ declares fs r := by
  unfold fieldRef
  split <;> simp [*]

theorem fields_eq_ok_iff (format : String) (columns : List String) (xs : List Field) :
    fields format columns xs = .ok () ↔
      (∀ x ∈ xs, Name.checkDeclared .field x.name = .ok ()) ∧ (xs.map (·.columnName)).Nodup ∧
        ∀ x ∈ xs, x.columnName ∉ columns := by
  induction xs generalizing columns with
  | nil => simp [fields]
  | cons x xs ih =>
    simp only [fields, check_eq_ok_iff, unless_eq_ok_iff, identifier_eq_ok_iff, ih,
      List.map_cons, List.nodup_cons, List.mem_cons, forall_eq_or_imp, List.mem_map]
    constructor
    · rintro ⟨hx, hc, hxs, hn, hcs⟩
      refine ⟨⟨hx, hxs⟩, ⟨?_, hn⟩, hc, fun y hy h => hcs y hy (.inr h)⟩
      rintro ⟨y, hy, he⟩
      exact hcs y hy (.inl he)
    · rintro ⟨⟨hx, hxs⟩, ⟨hm, hn⟩, hc, hcs⟩
      refine ⟨hx, hc, hxs, hn, ?_⟩
      rintro y hy (he | h)
      · exact hm ⟨y, hy, he⟩
      · exact hcs y hy h

theorem formats_eq_ok_iff (tables : List String) (fs : List DataFormat) :
    formats tables fs = .ok () ↔
      (∀ f ∈ fs, f.Admitted) ∧ (fs.map (·.tableName)).Nodup ∧ ∀ f ∈ fs, f.tableName ∉ tables := by
  induction fs generalizing tables with
  | nil => simp [formats]
  | cons f fs ih =>
    simp only [formats, check_eq_ok_iff, unless_eq_ok_iff, identifier_eq_ok_iff, ih,
      fields_eq_ok_iff, List.map_cons, List.nodup_cons, List.mem_cons, forall_eq_or_imp,
      List.mem_map]
    constructor
    · rintro ⟨hf, ht, ⟨hx, hc, -⟩, hfs, hn, hts⟩
      refine ⟨⟨⟨hf, hx, hc⟩, hfs⟩, ⟨?_, hn⟩, ht, fun g hg h => hts g hg (.inr h)⟩
      rintro ⟨g, hg, he⟩
      exact hts g hg (.inl he)
    · rintro ⟨⟨hf, hfs⟩, ⟨hm, hn⟩, ht, hts⟩
      refine ⟨hf.name, ht, ⟨hf.fields, hf.columns, by simp⟩, hfs, hn, ?_⟩
      rintro g hg (he | h)
      · exact hm ⟨g, hg, he⟩
      · exact hts g hg h

theorem nodup_columnNames {fs : List DataFormat} (hv : formats [] fs = .ok ()) {f : DataFormat}
    (hf : f ∈ fs) : f.columnNames.Nodup :=
  (((formats_eq_ok_iff [] fs).mp hv).1 f hf).columns

/-- Whether the owners listed in `joinTables` leave the declaration its join table. -/
def Unowned (joinTables : List (String × String)) (d : Declaration) : Prop :=
  d.shape = .manyToMany →
    ∀ owner, Dict.find? joinTables d.joinTableName = some owner → owner = d.name

theorem joinTable_eq_ok_iff (joinTables : List (String × String)) (d : Declaration)
    (hm : d.shape = .manyToMany) :
    joinTable joinTables d = .ok () ↔
      d.first.field.joinColumn ≠ d.second.field.joinColumn ∧ Unowned joinTables d := by
  simp only [joinTable, unless_eq_ok_iff, Unowned, hm, true_implies]
  cases Dict.find? joinTables d.joinTableName with
  | none => simp [pure, Except.pure]
  | some owner =>
    by_cases h : owner = d.name <;>
      simp [h, pure, Except.pure, throw, throwThe, MonadExceptOf.throw]

/-- Taking a join table leaves the others theirs, apart from those that clash with the taker. -/
theorem unowned_insert {joinTables : List (String × String)} {d : Declaration}
    (hm : d.shape = .manyToMany) (hd : Unowned joinTables d) (e : Declaration) :
    Unowned (Dict.insert joinTables d.joinTableName d.name) e ↔
      ¬ d.Clash e ∧ Unowned joinTables e := by
  simp only [Unowned, Declaration.Clash, Dict.find?_insert, hm, true_and]
  by_cases ht : e.joinTableName = d.joinTableName
  · have hd' := hd hm
    rw [← ht] at hd'
    by_cases hn : d.name = e.name <;> simp_all
  · simp [ht, Ne.symm ht]

/-- The pass over the declarations, where `joinTables` lists what the declarations before own. -/
theorem declarations_eq_ok_iff (fs : List DataFormat) (joinTables : List (String × String))
    (ds : List Declaration) :
    declarations fs joinTables ds = .ok () ↔
      (∀ d ∈ ds, d.Admitted fs) ∧ (ds.Pairwise fun d e => ¬ d.Clash e) ∧
        ∀ d ∈ ds, Unowned joinTables d := by
  induction ds generalizing joinTables with
  | nil => simp [declarations]
  | cons d ds ih =>
    by_cases hm : d.shape = .manyToMany
    · simp only [declarations, check_eq_ok_iff, unless_eq_ok_iff, fieldRef_eq_ok_iff, hm, ih,
        joinTable_eq_ok_iff, if_true, List.mem_cons, forall_eq_or_imp, List.pairwise_cons]
      constructor
      · rintro ⟨h1, h2, hne, ha, hb, hg, ⟨hj, hd⟩, hds, hp, hu⟩
        refine ⟨⟨⟨h1, h2, hne, ha, hb, hg, fun _ => hj⟩, hds⟩, ⟨?_, hp⟩, hd, ?_⟩
        · exact fun e he => ((unowned_insert hm hd e).mp (hu e he)).1
        · exact fun e he => ((unowned_insert hm hd e).mp (hu e he)).2
      · rintro ⟨⟨h, hds⟩, ⟨hc, hp⟩, hd, hu⟩
        refine ⟨h.first, h.second, h.distinct, h.firstAccessor, h.secondAccessor, h.generated,
          ⟨h.joinColumns hm, hd⟩, hds, hp, ?_⟩
        exact fun e he => (unowned_insert hm hd e).mpr ⟨hc e he, hu e he⟩
    · have hd : Unowned joinTables d := fun h => absurd h hm
      have hc : ∀ e, ¬ d.Clash e := fun e h => hm h.1
      simp only [declarations, check_eq_ok_iff, unless_eq_ok_iff, fieldRef_eq_ok_iff, hm, ih,
        if_false, List.mem_cons, forall_eq_or_imp, List.pairwise_cons]
      constructor
      · rintro ⟨h1, h2, hne, ha, hb, hg, hds, hp, hu⟩
        exact ⟨⟨⟨h1, h2, hne, ha, hb, hg, fun h => absurd h hm⟩, hds⟩, ⟨fun e _ => hc e, hp⟩, hd,
          hu⟩
      · rintro ⟨⟨h, hds⟩, ⟨-, hp⟩, -, hu⟩
        exact ⟨h.first, h.second, h.distinct, h.firstAccessor, h.secondAccessor, h.generated, hds,
          hp, hu⟩

end Validation

namespace Relations

theorem insert_eq_ok_iff (rs rs' : Relations) (r : Relation) :
    rs.insert r = .ok rs' ↔
      r.name ∉ rs.toList.map Relation.name ∧ rs'.toList = rs.toList ++ [r] := by
  unfold insert
  split
  · simp [*]
  · cases rs'
    simp_all [eq_comm]

/-- Relations are added one by one after those in `rs`, up to the first repeated name. -/
theorem foldlM_insert_eq_ok_iff (ds : List Declaration) (o : SqlOptions) (rs rs' : Relations) :
    ds.foldlM (fun rs d => rs.insert (d.relation o)) rs = .ok rs' ↔
      (rs.toList.map Relation.name ++ ds.map (·.name)).Nodup ∧
        rs'.toList = rs.toList ++ ds.map (·.relation o) := by
  induction ds generalizing rs with
  | nil =>
    obtain ⟨xs, hxs⟩ := rs
    obtain ⟨ys, hys⟩ := rs'
    simp [pure, Except.pure, hxs, eq_comm]
  | cons d ds ih =>
    simp only [List.foldlM_cons, bind_eq_ok_iff, insert_eq_ok_iff, ih, Relation.name_relation]
    constructor
    · rintro ⟨rs₁, ⟨hd, h₁⟩, hn, h⟩
      rw [h₁] at hn h
      simpa using And.intro hn h
    · rintro ⟨hn, h⟩
      have hd : d.name ∉ rs.toList.map Relation.name := by
        intro hm
        exact (List.nodup_append.mp hn).2.2 _ hm _ (by simp) rfl
      have hi : (rs.toList ++ [d.relation o]).map Relation.name =
          rs.toList.map Relation.name ++ [d.name] := by simp
      refine ⟨⟨rs.toList ++ [d.relation o], ?_⟩, ⟨hd, rfl⟩, ?_, ?_⟩
      · rw [hi]
        exact hn.sublist (by simp)
      · simpa [hi] using hn
      · simpa using h

theorem ofDeclarations_eq_ok_iff (ds : List Declaration) (o : SqlOptions) (rs : Relations) :
    ofDeclarations ds o = .ok rs ↔
      (ds.map (·.name)).Nodup ∧ rs.toList = ds.map (·.relation o) := by
  rw [ofDeclarations, foldlM_insert_eq_ok_iff]
  simp [empty]

end Relations

/-- Creation succeeds for what can be accepted, and keeps formats, declarations and options. -/
theorem Schema.create_eq_ok_iff (fs : List DataFormat) (ds : List Declaration) (o : SqlOptions)
    (s : Schema) :
    Schema.create fs ds o = .ok s ↔
      Accepted fs ds ∧ s.formats = fs ∧ s.relations.toList = ds.map (·.relation o) ∧
        s.options = o := by
  simp only [Schema.create, check_eq_ok_iff, Validation.formats_eq_ok_iff,
    Validation.declarations_eq_ok_iff]
  simp only [bind_eq_ok_iff, Relations.ofDeclarations_eq_ok_iff, pure, Except.pure, Except.ok.injEq]
  constructor
  · rintro ⟨⟨hf, ht, -⟩, ⟨hd, hj, -⟩, rs, ⟨hn, hr⟩, rfl⟩
    exact ⟨⟨hf, ht, hd, hj, hn⟩, rfl, hr, rfl⟩
  · rintro ⟨h, rfl, hr, rfl⟩
    have hu : ∀ d ∈ ds, Validation.Unowned [] d := by simp [Validation.Unowned, Dict.find?]
    exact ⟨⟨h.formats, h.tables, by simp⟩, ⟨h.declarations, h.joinTables, hu⟩, s.relations,
      ⟨h.names, hr⟩, rfl⟩

theorem Schema.declarations_eq {s : Schema} {ds : List Declaration} {o : SqlOptions}
    (h : s.relations.toList = ds.map (·.relation o)) : s.declarations = ds := by
  simp [Schema.declarations, h, Function.comp_def]

/-- Reviews are written by users and liked by users, and users have users that invited them. -/
def reviewing : List Declaration :=
  [⟨.oneToMany, ⟨⟨"user", "id"⟩, none⟩, ⟨⟨"review", "userId"⟩, none⟩⟩,
    ⟨.oneToOne, ⟨⟨"user", "id"⟩, none⟩, ⟨⟨"user", "inviterId"⟩, none⟩⟩,
    ⟨.manyToMany, ⟨⟨"review", "id"⟩, none⟩, ⟨⟨"user", "id"⟩, none⟩⟩]

def reviewSchema : Schema where
  formats :=
    [⟨"review", none,
        [⟨"id", .serial, none, false, false⟩, ⟨"userId", .integer, none, false, false⟩]⟩,
      ⟨"user", none,
        [⟨"id", .serial, none, false, false⟩, ⟨"inviterId", .integer, none, true, false⟩]⟩]
  relations := ⟨reviewing.map (·.relation .standard), by decide⟩
  options := .standard

theorem create_reviewSchema :
    Schema.create reviewSchema.formats reviewing .standard = .ok reviewSchema := by rfl

end Schemata
