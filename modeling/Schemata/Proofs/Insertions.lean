import Schemata.Proofs.Admission
import Schemata.Proofs.Repetitions

/-!
Relations inserted one after the other. The name of a relation between declarable fields tells its
shape and its fields, so of several relations with the same shape and fields the first one inserted
stays, whatever accessor names and options the others have. A relation that is refused leaves
everything as it was.
-/
namespace Schemata

/-! ### Insertions -/

namespace Relations

/-- What an insertion answers and what it leaves behind. A refusal leaves the relations as they
are. -/
def tryInsert (rs : Relations) (r : Relation) : Except SchemaError Unit × Relations :=
  match rs.insert r with
  | .ok rs' => (.ok (), rs')
  | .error e => (.error e, rs)

/-- What insertions leave behind, one after the other from the beginning, whatever they answer. -/
def inserted (rs : List Relation) : Relations :=
  rs.foldl (fun kept r => (kept.tryInsert r).2) empty

theorem inserted_append_singleton (rs : List Relation) (r : Relation) :
    inserted (rs ++ [r]) = ((inserted rs).tryInsert r).2 := by
  rw [inserted, List.foldl_append]
  rfl

theorem tryInsert_of_mem {kept : Relations} {r : Relation} (h : r.name ∈ kept.names) :
    kept.tryInsert r = (.error (.duplicateRelation r.name), kept) := by
  have hi : kept.insert r = .error (.duplicateRelation r.name) := dif_pos h
  rw [tryInsert, hi]

theorem tryInsert_of_not_mem {kept : Relations} {r : Relation} (h : r.name ∉ kept.names) :
    ∃ kept', kept.tryInsert r = (.ok (), kept') ∧ kept'.toList = kept.toList ++ [r] := by
  obtain ⟨kept', hi⟩ : ∃ kept', kept.insert r = .ok kept' := ⟨_, dif_neg h⟩
  exact ⟨kept', by rw [tryInsert, hi], toList_insert hi⟩

/-- Names are distinct, so each leads to the relation that has it. -/
theorem get?_eq_some_iff (kept : Relations) (name : String) (r : Relation) :
    kept.get? name = some r ↔ r ∈ kept.toList ∧ r.name = name := by
  constructor
  · intro h
    exact ⟨List.mem_of_find?_eq_some h, by simpa using List.find?_some h⟩
  · rintro ⟨hr, rfl⟩
    cases h : kept.get? r.name with
    | none => exact absurd (beq_self_eq_true r.name) (List.find?_eq_none.mp h r hr)
    | some q =>
      have hq : q ∈ kept.toList := List.mem_of_find?_eq_some h
      have hn : q.name = r.name := by simpa using List.find?_some h
      rw [List.inj_on_of_nodup_map kept.nodup hq hr hn]

/-- The names that are taken are those of all relations inserted, also of those refused. -/
theorem mem_names_inserted (rs : List Relation) (name : String) :
    name ∈ (inserted rs).names ↔ ∃ r ∈ rs, r.name = name := by
  induction rs using List.reverseRecOn with
  | nil => simp [inserted, empty, names]
  | append_singleton rs r ih =>
    simp only [inserted_append_singleton, List.mem_append, List.mem_singleton, or_and_right,
      exists_or, exists_eq_left, ← ih]
    by_cases hr : r.name ∈ (inserted rs).names
    · rw [tryInsert_of_mem hr]
      exact ⟨.inl, fun h => h.elim id (· ▸ hr)⟩
    · obtain ⟨kept', hk, hl⟩ := tryInsert_of_not_mem hr
      rw [hk, names, hl]
      simp [names, eq_comm]

theorem sublist_inserted (rs : List Relation) : (inserted rs).toList.Sublist rs := by
  induction rs using List.reverseRecOn with
  | nil => exact .refl _
  | append_singleton rs r ih =>
    rw [inserted_append_singleton]
    by_cases hr : r.name ∈ (inserted rs).names
    · rw [tryInsert_of_mem hr]
      exact ih.trans (List.sublist_append_left rs [r])
    · obtain ⟨kept', hk, hl⟩ := tryInsert_of_not_mem hr
      rw [hk, hl]
      exact ih.append (.refl _)

/-- Where a comparison finds the same relations equal as their names do, the first of those that it
finds equal stay, in the order in which they were inserted. -/
theorem toList_inserted {same : Relation → Relation → Bool} {rs : List Relation}
    (h : ∀ a ∈ rs, ∀ b ∈ rs, same a b = true ↔ a.name = b.name) :
    (inserted rs).toList = rs.eraseDupsBy same := by
  induction rs using List.reverseRecOn with
  | nil => rfl
  | append_singleton rs r ih =>
    have ih := ih fun a ha b hb => h a (List.mem_append_left _ ha) b (List.mem_append_left _ hb)
    have hany : (inserted rs).toList.any (same r) = true ↔ r.name ∈ (inserted rs).names := by
      rw [List.any_eq_true, names, List.mem_map]
      refine exists_congr fun q => and_congr_right fun hq => ?_
      have hq : q ∈ rs ++ [r] := List.mem_append_left _ ((sublist_inserted rs).subset hq)
      rw [h r (by simp) q hq, eq_comm]
    rw [inserted_append_singleton, eraseDupsBy_append_singleton, ← ih]
    by_cases hr : r.name ∈ (inserted rs).names
    · rw [tryInsert_of_mem hr, if_pos (hany.mpr hr)]
    · obtain ⟨kept', hk, hl⟩ := tryInsert_of_not_mem hr
      rw [hk, hl, if_neg (mt hany.mp hr)]

/-- A name leads to the first of the relations inserted that have it, whichever way these are told
from the others. -/
theorem get?_inserted {rs : List Relation} {name : String} {p : Relation → Bool}
    (h : ∀ r ∈ rs, p r = true ↔ r.name = name) : (inserted rs).get? name = rs.find? p := by
  induction rs using List.reverseRecOn with
  | nil => rfl
  | append_singleton rs r ih =>
    have ih := ih fun q hq => h q (List.mem_append_left _ hq)
    have hp : p r = (r.name == name) := by
      rw [Bool.eq_iff_iff, h r (by simp), beq_iff_eq]
    rw [inserted_append_singleton, List.find?_append, ← ih, List.find?_singleton, hp]
    by_cases hr : r.name ∈ (inserted rs).names
    · rw [tryInsert_of_mem hr]
      by_cases hn : r.name = name
      · obtain ⟨q, hq, hqn⟩ := List.mem_map.mp (hn ▸ hr)
        rw [((inserted rs).get?_eq_some_iff name q).mpr ⟨hq, hqn⟩, Option.some_or]
      · simp [hn]
    · obtain ⟨kept', hk, hl⟩ := tryInsert_of_not_mem hr
      rw [hk, get?, hl, List.find?_append, List.find?_singleton]
      rfl

end Relations

/-! ### Relations between declarable fields -/

namespace Declaration

/-- The names of the formats and fields pass the checks on names. -/
def WellNamed (d : Declaration) : Prop :=
  ∀ side, Name.checkDeclared .dataFormat (d.endpoint side).field.formatName = .ok () ∧
    Name.checkDeclared .field (d.endpoint side).field.fieldName = .ok ()

instance (d e : Declaration) : Decidable (d.Same e) := inferInstanceAs (Decidable (_ ∧ _ ∧ _))

variable {d e : Declaration}

theorem WellNamed.camel (h : d.WellNamed) : d.Camel := by
  have hc : ∀ side, (d.endpoint side).field.Camel := by
    intro side
    obtain ⟨hf, hx⟩ := h side
    exact ⟨((Name.checkDeclared_eq_ok_iff _ _).mp hf).camel,
      ((Name.checkDeclared_eq_ok_iff _ _).mp hx).camel⟩
  exact ⟨hc .first, hc .second⟩

theorem WellNamed.name_eq_iff (hd : d.WellNamed) (he : e.WellNamed) : d.name = e.name ↔ d.Same e :=
  hd.camel.name_eq_iff he.camel

end Declaration

/-- Of the relations `rs` the first for each shape with its fields are kept, in order, and found by
name. Another relation is refused if one before has its shape and fields, which changes nothing, and
comes last otherwise. -/
structure Relations.KeepsFirsts (kept : Relations) (rs : List Relation) : Prop where
  toList_eq : kept.toList = rs.eraseDupsBy fun r q => r.declaration.Same q.declaration
  get?_eq_some_iff : ∀ name r, kept.get? name = some r ↔ r ∈ kept.toList ∧ r.name = name
  get?_name : ∀ d : Declaration, d.WellNamed →
    kept.get? d.name = rs.find? fun r => r.declaration.Same d
  refuses : ∀ (d : Declaration) (o : SqlOptions), d.WellNamed →
    (∃ r ∈ rs, r.declaration.Same d) →
      kept.tryInsert (d.relation o) = (.error (.duplicateRelation d.name), kept)
  accepts : ∀ (d : Declaration) (o : SqlOptions), d.WellNamed →
    (∀ r ∈ rs, ¬ r.declaration.Same d) →
      ∃ kept', kept.tryInsert (d.relation o) = (.ok (), kept') ∧
        kept'.toList = kept.toList ++ [d.relation o]

theorem Relations.keepsFirsts_inserted {rs : List Relation}
    (h : ∀ r ∈ rs, r.declaration.WellNamed) : (inserted rs).KeepsFirsts rs := by
  have hname : ∀ d : Declaration, d.WellNamed → ∀ r ∈ rs,
      (r.name = d.name ↔ r.declaration.Same d) := fun d hd r hr => (h r hr).name_eq_iff hd
  refine ⟨?_, get?_eq_some_iff _, ?_, ?_, ?_⟩
  · refine toList_inserted fun r hr q hq => ?_
    rw [decide_eq_true_iff]
    exact (hname q.declaration (h q hq) r hr).symm
  · intro d hd
    refine get?_inserted fun r hr => ?_
    rw [decide_eq_true_iff]
    exact (hname d hd r hr).symm
  · rintro d o hd ⟨r, hr, hs⟩
    exact tryInsert_of_mem ((mem_names_inserted rs d.name).mpr ⟨r, hr, (hname d hd r hr).mpr hs⟩)
  · intro d o hd hno
    refine tryInsert_of_not_mem fun hm => ?_
    obtain ⟨r, hr, hn⟩ := (mem_names_inserted rs d.name).mp hm
    exact hno r hr ((hname d hd r hr).mp hn)

/-- Two declarations over declarable names have one name exactly if they have the same shape and the
same fields in the same order. So whatever relations of such declarations are inserted, with
whatever options, the first for each shape with its fields are kept. -/
theorem insertions_keep_firsts :
    (∀ d e : Declaration, d.WellNamed → e.WellNamed → (d.name = e.name ↔ d.Same e)) ∧
      ∀ xs : List (Declaration × SqlOptions), (∀ x ∈ xs, x.1.WellNamed) →
        (Relations.inserted (xs.map fun x => x.1.relation x.2)).KeepsFirsts
          (xs.map fun x => x.1.relation x.2) :=
  ⟨fun _ _ hd he => hd.name_eq_iff he,
    fun _ hx => Relations.keepsFirsts_inserted (List.forall_mem_map.mpr hx)⟩

/-- Reviews are written by users, or each user writes one of them. -/
def writing (shape : Shape) (accessorName : Option String) : Declaration :=
  ⟨shape, ⟨⟨"user", "id"⟩, none⟩, ⟨⟨"review", "userId"⟩, accessorName⟩⟩

def writings : List (Declaration × SqlOptions) :=
  [(writing .oneToMany none, .standard), (writing .oneToOne none, .standard),
    (writing .oneToMany (some "getReviews"), { SqlOptions.standard with enableSql := false })]

/-- A relation that only renames an accessor is refused, and so is one without SQL; one of another
shape is not. -/
theorem insertions_writings :
    (∀ x ∈ writings, x.1.WellNamed) ∧
      ((writing .oneToMany none).name = (writing .oneToMany (some "getReviews")).name ↔
        (writing .oneToMany none).Same (writing .oneToMany (some "getReviews"))) ∧
      ∃ kept, kept = Relations.inserted (writings.map fun x => x.1.relation x.2) ∧
        kept.toList = [(writing .oneToMany none).relation .standard,
          (writing .oneToOne none).relation .standard] ∧
        kept.get? "user.id <-->> review.userId" =
          some ((writing .oneToMany none).relation .standard) ∧
        kept.tryInsert ((writing .oneToOne (some "getReview")).relation .standard) =
          (.error (.duplicateRelation "user.id <--> review.userId"), kept) ∧
        ∃ kept', kept.tryInsert ((writing .manyToMany none).relation .standard) = (.ok (), kept') ∧
          kept'.toList = kept.toList ++ [(writing .manyToMany none).relation .standard] := by
  have hw : ∀ shape name, (writing shape name).WellNamed := by
    have huser : Name.checkDeclared .dataFormat "user" = .ok () := by decide +kernel
    have hid : Name.checkDeclared .field "id" = .ok () := by decide +kernel
    have hreview : Name.checkDeclared .dataFormat "review" = .ok () := by decide +kernel
    have huserId : Name.checkDeclared .field "userId" = .ok () := by decide +kernel
    rintro shape name (_ | _)
    · exact ⟨huser, hid⟩
    · exact ⟨hreview, huserId⟩
  have hx : ∀ x ∈ writings, x.1.WellNamed := by
    simp [writings, hw]
  obtain ⟨hn, hk⟩ := insertions_keep_firsts
  have hk := hk writings hx
  refine ⟨hx, hn _ _ (hw _ _) (hw _ _), _, rfl, ?_, ?_, ?_, ?_⟩
  · rw [hk.toList_eq]
    decide
  · exact (hk.get?_name _ (hw .oneToMany none)).trans (by decide)
  · exact hk.refuses _ _ (hw _ _) (by decide)
  · exact hk.accepts _ _ (hw _ _) (by decide)

end Schemata
