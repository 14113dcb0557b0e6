import Schemata.Proofs.Provisioning
import Mathlib.Data.List.Perm.Basic
import Mathlib.Data.List.ProdSigma

/-!
Accessors and the ends of relations. The stores list their accessors by format and by role, and
relations list their ends by declaration. Both list the same: each end of a relation has one
accessor, on the store of its format, and it leads to the other end.
-/
namespace Schemata

/-- The statement for the records of the other end that go with a value on this end. -/
def Declaration.relatedSql (d : Declaration) (o : SqlOptions) (side : Side) (target : DataFormat) :
    String :=
  let near := (d.endpoint side).field
  let far := (d.endpoint side.other).field
  "SELECT " ++ Sql.commaList (target.columnNames.map fun c => "r." ++ c) ++
    " FROM " ++ (o.qualify target.tableName).render ++ " r" ++
    if d.shape = .manyToMany then
      " JOIN " ++ (o.qualify d.joinTableName).render ++ " j ON j." ++ far.joinColumn ++
        " = r." ++ far.columnName ++ " WHERE j." ++ near.joinColumn ++ " = $1"
    else " WHERE r." ++ far.columnName ++ " = $1"

/-- The accessor leads from the end on `side` to the records of the other end. -/
structure Accessor.LeadsFrom (s : Schema) (d : Declaration) (side : Side) (a : Accessor) :
    Prop where
  name : d.accessorName? ⟨d.shape, side⟩ = some a.plan.name
  relation : a.plan.relation = d.name
  role : a.plan.role = ⟨d.shape, side⟩
  target : s.format? (d.endpoint side.other).field.formatName = some a.target
  /-- All rows are asked for where several can be related, and else the first. -/
  statement : ∀ value, (a.call value).statement =
    { kind := if d.shape = .manyToMany ∨ d.shape = .oneToMany ∧ side = .first then .rows else .first
      sql := d.relatedSql s.options side a.target
      params := [value] }

/-- The ends of all relations. -/
def Schema.ends (s : Schema) : List (Declaration × Side) :=
  s.declarations ×ˢ [Side.first, Side.second]

/-- The accessors of all stores, each with the format of its store. -/
def Entities.accessors (e : Entities) : List (String × Accessor) :=
  e.stores.flatMap fun t => t.accessors.map (t.format.name, ·)

theorem Declaration.render_related (d : Declaration) (o : SqlOptions) (side : Side)
    (f : DataFormat) :
    (Sql.Query.related (o.qualify f.tableName) f.columnNames
      (d.route o (d.endpoint side).field (d.endpoint side.other).field)).render =
      d.relatedSql o side f := by
  unfold route relatedSql
  split
  · rfl
  · rfl

theorem Role.returnsMany_iff (r : Role) :
    r.returnsMany ↔ r.shape = .manyToMany ∨ r.shape = .oneToMany ∧ r.side = .first := by
  obtain ⟨shape, side⟩ := r
  cases shape <;> simp [returnsMany]

theorem Accessor.leadsFrom_of_leads {s : Schema} {d : Declaration} {side : Side} {a : Accessor}
    (h : a.plan.Leads s.formats s.options d side) (ht : s.format? a.plan.target = some a.target) :
    a.LeadsFrom s d side := by
  refine ⟨h.name, h.relation, h.role, h.target ▸ ht, fun value => ?_⟩
  obtain ⟨f, hf, hq⟩ := h.query
  obtain rfl : f = a.target := Option.some.inj (hf.symm.trans ht)
  rw [call, hq, d.render_related, h.role]
  by_cases hm : (⟨d.shape, side⟩ : Role).returnsMany
  · rw [if_pos hm, if_pos ((Role.returnsMany_iff _).mp hm)]
    rfl
  · rw [if_neg hm, if_neg fun hr => hm ((Role.returnsMany_iff _).mpr hr)]
    rfl

namespace Schema

variable {s : Schema}

/-- The ends of relations that lie on the format, in the order of its accessors. -/
def endsOn (s : Schema) (formatName : String) : List (Declaration × Side) :=
  (AccessorPlan.occasions s.relations.toList formatName).map fun x => (x.2.declaration, x.1.side)

theorem mem_endsOn {formatName : String} {d : Declaration} {side : Side} :
    (d, side) ∈ s.endsOn formatName ↔
      d ∈ s.declarations ∧ (d.endpoint side).field.formatName = formatName := by
  simp only [endsOn, declarations, List.mem_map, Prod.mk.injEq]
  constructor
  · rintro ⟨⟨role, r⟩, hm, rfl, rfl⟩
    obtain ⟨hr, -, hn⟩ := AccessorPlan.mem_occasions.mp hm
    exact ⟨⟨r, hr, rfl⟩, hn⟩
  · rintro ⟨⟨r, hr, rfl⟩, hn⟩
    exact ⟨(⟨r.declaration.shape, side⟩, r), AccessorPlan.mem_occasions.mpr ⟨hr, rfl, hn⟩, rfl, rfl⟩

theorem nodup_map_name_declarations (s : Schema) : (s.declarations.map (·.name)).Nodup := by
  rw [declarations, List.map_map]
  exact s.relations.nodup

theorem nodup_endsOn (s : Schema) (formatName : String) : (s.endsOn formatName).Nodup := by
  refine (AccessorPlan.nodup_occasions s.relations.nodup.of_map formatName).map_on ?_
  rintro ⟨⟨_, side⟩, r⟩ hx ⟨⟨_, _⟩, q⟩ hy he
  obtain ⟨hr, rfl, -⟩ := AccessorPlan.mem_occasions.mp hx
  obtain ⟨hq, rfl, -⟩ := AccessorPlan.mem_occasions.mp hy
  obtain ⟨hd, rfl⟩ := Prod.mk.inj he
  obtain rfl := List.inj_on_of_nodup_map s.relations.nodup hr hq (congrArg Declaration.name hd)
  rfl

theorem nodup_ends (s : Schema) : s.ends.Nodup :=
  s.nodup_map_name_declarations.of_map.product (by decide)

/-- Format by format, the ends are those of the relations. -/
theorem perm_ends (hn : s.formatNames.Nodup)
    (hf : ∀ d ∈ s.declarations, ∀ side, (d.endpoint side).field.formatName ∈ s.formatNames) :
    (s.formatNames.flatMap s.endsOn).Perm s.ends := by
  have hflat : (s.formatNames.flatMap s.endsOn).Nodup := by
    refine List.nodup_flatMap.mpr ⟨fun name _ => s.nodup_endsOn name, hn.imp ?_⟩
    rintro m n hne ⟨d, side⟩ hm hn
    exact hne ((mem_endsOn.mp hm).2.symm.trans (mem_endsOn.mp hn).2)
  rw [List.perm_ext_iff_of_nodup hflat s.nodup_ends]
  rintro ⟨d, side⟩
  have hside : side ∈ [Side.first, Side.second] := by cases side <;> decide
  simp only [List.mem_flatMap, mem_endsOn, ends, List.mem_product, hside, and_true]
  exact ⟨fun ⟨_, _, hd, _⟩ => hd, fun hd => ⟨_, hf d hd side, hd, rfl⟩⟩

end Schema

/-- The accessor stands on the store of the end's format and leads to the other end. -/
def Schema.Reaches (s : Schema) (x : Declaration × Side) (y : String × Accessor) : Prop :=
  y.1 = (x.1.endpoint x.2).field.formatName ∧ y.2.LeadsFrom s x.1 x.2

namespace Entities

variable {s : Schema} {e : Entities}

/-- A store has an accessor for each end on its format, and all have different names. -/
theorem accessors_of_store {name : String} {t : Store}
    (h : Store.create s.formats s.relations.toList s.options .fail name = .ok t) :
    (t.accessors.map (·.plan.name)).Nodup ∧
      List.Forall₂ s.Reaches (s.endsOn name) (t.accessors.map (t.format.name, ·)) := by
  obtain ⟨hf, -, hp, ht, -⟩ := Store.of_create_eq_ok h
  obtain ⟨-, rfl⟩ := DataFormat.of_find?_eq_some hf
  obtain ⟨hn, hl⟩ := AccessorPlan.planAll_fail hp
  rw [List.map_map] at hn
  rw [List.forall₂_map_right_iff] at hl
  have hlead : List.Forall₂ (fun x a => a.LeadsFrom s x.1 x.2) (s.endsOn t.format.name)
      t.accessors := by
    rw [Schema.endsOn, List.forall₂_map_left_iff]
    have hboth := (List.forall₂_and_left _ _).mpr ⟨ht, hl.flip⟩
    exact (hboth.imp fun a x h => Accessor.leadsFrom_of_leads h.2 h.1).flip
  have hon : ∀ x ∈ s.endsOn t.format.name,
      t.format.name = (x.1.endpoint x.2).field.formatName := fun x hx =>
    (Schema.mem_endsOn.mp hx).2.symm
  rw [List.forall₂_map_right_iff]
  exact ⟨hn, (List.forall₂_and_left _ _).mpr ⟨hon, hlead⟩⟩

/-- Store by store, the accessors are those of the ends. -/
theorem forall₂_accessors (h : create s .fail = .ok e) :
    List.Forall₂ s.Reaches (s.formatNames.flatMap s.endsOn) e.accessors := by
  obtain ⟨-, -, hs⟩ := (create_eq_ok_iff s .fail e).mp h
  exact List.rel_flatMap hs fun _ _ ht => (accessors_of_store ht).2

/-- Every store and every accessor is found by its name. -/
theorem found_by_name (hn : s.formatNames.Nodup) (h : create s .fail = .ok e) {t : Store}
    (ht : t ∈ e.stores) {a : Accessor} (ha : a ∈ t.accessors) :
    e.store? t.format.name = some t ∧ t.accessor? a.plan.name = some a := by
  have hstores : (e.stores.map (·.format.name)).Nodup := (stores_spec h).1 ▸ hn
  obtain ⟨-, -, hs⟩ := (create_eq_ok_iff s .fail e).mp h
  obtain ⟨name, -, hcreate⟩ := exists_match hs.flip ht
  exact ⟨find?_key hstores ht, find?_key (accessors_of_store hcreate).1 ha⟩

end Entities

namespace Schema

variable {s : Schema} {as : List (String × Accessor)}

theorem length_of_reaches (h : List.Forall₂ s.Reaches s.ends as) :
    as.length = 2 * s.relations.size := by
  rw [← h.length_eq, ends, List.length_product, declarations, List.length_map, Relations.size]
  exact Nat.mul_comm _ _

/-- Of the ends those of one relation are two. -/
theorem filter_ends {d : Declaration} (hd : d ∈ s.declarations) :
    (s.ends.filter (·.1.name = d.name)).Perm [(d, .first), (d, .second)] := by
  rw [List.perm_ext_iff_of_nodup (s.nodup_ends.filter _) (by simp)]
  rintro ⟨e, side⟩
  have he : e ∈ s.declarations ∧ e.name = d.name ↔ e = d := by
    refine ⟨fun ⟨hm, hn⟩ => List.inj_on_of_nodup_map s.nodup_map_name_declarations hm hd hn, ?_⟩
    rintro rfl
    exact ⟨hd, rfl⟩
  cases side <;> simpa [ends] using he

/-- So the accessors of one relation are two, one from each end. -/
theorem exists_accessors (h : List.Forall₂ s.Reaches s.ends as) {d : Declaration}
    (hd : d ∈ s.declarations) :
    ∃ a b, a.LeadsFrom s d .first ∧ b.LeadsFrom s d .second ∧
      (as.filter (·.2.plan.relation = d.name)).Perm
        [(d.first.field.formatName, a), (d.second.field.formatName, b)] := by
  have hrel : List.Forall₂ s.Reaches (s.ends.filter (·.1.name = d.name))
      (as.filter (·.2.plan.relation = d.name)) :=
    List.rel_filter (fun x y hxy => by simp [hxy.2.relation]) h
  obtain ⟨bs, hbs, hp⟩ := List.perm_comp_forall₂ (filter_ends hd).symm hrel
  obtain _ | ⟨ha, _ | ⟨hb, _ | _⟩⟩ := hbs
  exact ⟨_, _, ha.2, hb.2, ha.1 ▸ hb.1 ▸ hp.symm⟩

end Schema

/-- The accessors of a schema's stores match the ends of its relations, one for one: each stands on
the store of its end's format, and leads to the other end. So a relation has two accessors, on two
stores or on one, and all are found by name. -/
theorem accessors_match_ends (fs : List DataFormat) (ds : List Declaration) (o : SqlOptions)
    (s : Schema) (e : Entities) (h : Schema.create fs ds o = .ok s)
    (he : Entities.create s .fail = .ok e) :
    (∃ as, as.Perm e.accessors ∧ List.Forall₂ s.Reaches s.ends as) ∧
      (∀ d ∈ ds, ∃ a b, a.LeadsFrom s d .first ∧ b.LeadsFrom s d .second ∧
        (e.accessors.filter (·.2.plan.relation = d.name)).Perm
          [(d.first.field.formatName, a), (d.second.field.formatName, b)]) ∧
      (∀ t ∈ e.stores, ∀ a ∈ t.accessors,
        e.store? t.format.name = some t ∧ t.accessor? a.plan.name = some a) ∧
      e.accessors.length = 2 * s.relations.size := by
  obtain ⟨ha, rfl, hr, -⟩ := (Schema.create_eq_ok_iff fs ds o s).mp h
  have hds := Schema.declarations_eq hr
  have hf : ∀ d ∈ s.declarations, ∀ side,
      (d.endpoint side).field.formatName ∈ s.formatNames := by
    intro d hd side
    obtain ⟨f, hf, hn, -⟩ := ha.exists_field (hds ▸ hd) side
    exact hn ▸ List.mem_map_of_mem hf
  -- the stores list the ends in an order of their own, and the match is carried over
  obtain ⟨as, has, hp⟩ := List.perm_comp_forall₂ (Schema.perm_ends ha.formatNames hf).symm
    (Entities.forall₂_accessors he)
  refine ⟨⟨as, hp, has⟩, fun d hd => ?_, fun t ht a hm =>
    Entities.found_by_name ha.formatNames he ht hm, ?_⟩
  · obtain ⟨a, b, hfirst, hsecond, hab⟩ := Schema.exists_accessors has (hds ▸ hd)
    exact ⟨a, b, hfirst, hsecond, (hp.filter _).symm.trans hab⟩
  · rw [← hp.length_eq, Schema.length_of_reaches has]

/-- Both ends of the relation between users and their inviters are on the store of users. -/
theorem accessors_match_reviewSchema :
    ∃ (e : Entities) (a b : Accessor),
      Schema.create reviewSchema.formats reviewing .standard = .ok reviewSchema ∧
      Entities.create reviewSchema .fail = .ok e ∧ e.accessors.length = 6 ∧
      (e.accessors.filter (·.2.plan.relation = "user.id <--> user.inviterId")).Perm
        [("user", a), ("user", b)] ∧
      (a.call .null).statement = ⟨.first,
        "SELECT r.id, r.inviter_id FROM public.user r WHERE r.inviter_id = $1", [.null]⟩ ∧
      (b.call .null).statement = ⟨.first,
        "SELECT r.id, r.inviter_id FROM public.user r WHERE r.id = $1", [.null]⟩ := by
  obtain ⟨e, he⟩ : ∃ e, Entities.create reviewSchema .fail = .ok e := ⟨_, rfl⟩
  have hs : Schema.create reviewSchema.formats reviewing .standard = .ok reviewSchema := by rfl
  obtain ⟨-, hends, -, hlength⟩ := accessors_match_ends _ _ _ _ e hs he
  obtain ⟨a, b, ha, hb, hab⟩ := hends _ (.tail _ (.head _))
  have hta := Option.some.inj ha.target
  have htb := Option.some.inj hb.target
  refine ⟨e, a, b, hs, he, hlength, hab, ?_, ?_⟩
  · rw [ha.statement, ← hta]
    rfl
  · rw [hb.statement, ← htb]
    rfl

end Schemata
