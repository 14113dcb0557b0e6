import Schemata.Proofs.Accessors.Plans
import Schemata.Sql.Rows

/-!
Traversal of relations. Each end of a relation has a statement of its own that selects the records
of the other end. Over any contents of the database both follow one relation between rows: what is
found from one end finds its way back from the other.
-/
namespace Schemata

namespace Declaration

variable {ν : Type} [DecidableEq ν]

/-- The row `x` on the end of `side` and the row `y` on the other end are related: their fields are
equal, or those of one row of the join table are equal to both. -/
def Relates (d : Declaration) (o : SqlOptions) (db : Sql.Contents ν) (side : Side)
    (x y : Sql.Row ν) : Prop :=
  let near := (d.endpoint side).field
  let far := (d.endpoint side.other).field
  if d.shape = .manyToMany then
    ∃ j ∈ db (o.qualify d.joinTableName),
      Sql.equal (j far.joinColumn) (y far.columnName) ∧
        Sql.equal (j near.joinColumn) (x near.columnName)
  else Sql.equal (y far.columnName) (x near.columnName)

/-- It makes no difference from which end two rows are related. -/
theorem relates_other (d : Declaration) (o : SqlOptions) (db : Sql.Contents ν) (side : Side)
    (x y : Sql.Row ν) : d.Relates o db side.other y x ↔ d.Relates o db side x y := by
  unfold Relates
  simp only [Side.other_other]
  by_cases hm : d.shape = .manyToMany
  · rw [if_pos hm, if_pos hm]
    exact exists_congr fun j => and_congr_right fun _ => and_comm
  · rw [if_neg hm, if_neg hm, Sql.equal_comm]

/-- The statement of an end selects the related rows. -/
theorem mem_selected_iff (d : Declaration) (o : SqlOptions) (side : Side) (table : Sql.TableName)
    (columns : List String) (db : Sql.Contents ν) (x y : Sql.Row ν) :
    y ∈ (Sql.Query.related table columns
        (d.route o (d.endpoint side).field (d.endpoint side.other).field)).selected db
          (x (d.endpoint side).field.columnName) ↔
      y ∈ db table ∧ d.Relates o db side x y := by
  unfold Relates
  rw [Sql.Query.selected, route]
  by_cases hm : d.shape = .manyToMany
  · rw [if_pos hm, if_pos hm]
    exact Sql.Route.mem_rows_through
  · rw [if_neg hm, if_neg hm]
    exact Sql.Route.mem_rows_direct

/-- The statement of an end, once the format on the far end is found. -/
theorem select?_of_find? {d : Declaration} {side : Side} {formats : List DataFormat}
    {f : DataFormat} (o : SqlOptions)
    (hf : DataFormat.find? formats (d.endpoint side.other).field.formatName = some f) :
    d.select? formats o ⟨d.shape, side⟩ =
      some (.ok (.related (o.qualify f.tableName) f.columnNames
        (d.route o (d.endpoint side).field (d.endpoint side.other).field))) := by
  rw [select?, d.seenFrom?_role, Option.map_some]
  simp only [hf]

end Declaration

/-- A plan has the statement of the role that it is for. -/
theorem AccessorPlan.Leads.select?_eq {formats : List DataFormat} {o : SqlOptions}
    {d : Declaration} {side : Side} {p : AccessorPlan} (h : p.Leads formats o d side) :
    d.select? formats o ⟨d.shape, side⟩ = some (.ok p.query) := by
  obtain ⟨f, hf, hq⟩ := h.query
  rw [Declaration.select?_of_find? o (h.target ▸ hf), hq]

/-- In an accepted schema each end has its statement, for the table of the far end's format. -/
theorem Accepted.exists_select {fs : List DataFormat} {ds : List Declaration}
    (h : Accepted fs ds) (o : SqlOptions) {d : Declaration} (hd : d ∈ ds) (side : Side) :
    ∃ f ∈ fs, f.name = (d.endpoint side.other).field.formatName ∧
      d.select? fs o ⟨d.shape, side⟩ = some (.ok (.related (o.qualify f.tableName) f.columnNames
        (d.route o (d.endpoint side).field (d.endpoint side.other).field))) := by
  obtain ⟨f, hf, hn, -⟩ := h.exists_field hd side.other
  have hfound : DataFormat.find? fs f.name = some f := find?_key h.formatNames hf
  exact ⟨f, hf, hn, Declaration.select?_of_find? o (hn ▸ hfound)⟩

/-- Both ends of a relation have a statement, which all plans for the end have. Of two rows, one of
the table on either end, the statement of one end selects the second from the first exactly when
that of the other end selects the first from the second, and exactly when the two are related. -/
theorem traversal_symmetric (fs : List DataFormat) (ds : List Declaration) (o : SqlOptions)
    (s : Schema) (h : Schema.create fs ds o = .ok s) (d : Declaration) (hd : d ∈ ds) :
    ∃ f ∈ s.formats, ∃ g ∈ s.formats, ∃ forth back : Sql.Query,
      f.name = d.first.field.formatName ∧ g.name = d.second.field.formatName ∧
      d.select? s.formats o ⟨d.shape, .first⟩ = some (.ok forth) ∧
      d.select? s.formats o ⟨d.shape, .second⟩ = some (.ok back) ∧
      (∀ policy formatName plans, s.plans policy formatName = .ok plans →
        ∀ p ∈ plans, p.relation = d.name →
          p.query = if p.role.side = .first then forth else back) ∧
      ∀ (ν : Type) [DecidableEq ν] (db : Sql.Contents ν),
        ∀ x ∈ db (o.qualify f.tableName), ∀ y ∈ db (o.qualify g.tableName),
          (y ∈ forth.selected db (x d.first.field.columnName) ↔
            x ∈ back.selected db (y d.second.field.columnName)) ∧
          (y ∈ forth.selected db (x d.first.field.columnName) ↔ d.Relates o db .first x y) := by
  obtain ⟨ha, rfl, hr, rfl⟩ := (Schema.create_eq_ok_iff fs ds o s).mp h
  obtain ⟨g, hg, hgn, hforth⟩ := ha.exists_select s.options hd .first
  obtain ⟨f, hf, hfn, hback⟩ := ha.exists_select s.options hd .second
  refine ⟨f, hf, g, hg, _, _, hfn, hgn, hforth, hback, ?_, ?_⟩
  · intro policy formatName plans hp p hpm hpn
    obtain ⟨e, he, side, -, hl⟩ := Schema.leads_of_mem_plans hr hp hpm
    obtain rfl : e = d := List.inj_on_of_nodup_map ha.names he hd (hl.relation.symm.trans hpn)
    have hq := hl.select?_eq
    rw [hl.role]
    cases side with
    | first => exact (Except.ok.inj (Option.some.inj (hforth.symm.trans hq))).symm
    | second => exact (Except.ok.inj (Option.some.inj (hback.symm.trans hq))).symm
  · intro ν _ db x hx y hy
    have hfirst := d.mem_selected_iff s.options .first (s.options.qualify g.tableName)
      g.columnNames db x y
    have hsecond := d.mem_selected_iff s.options .second (s.options.qualify f.tableName)
      f.columnNames db y x
    have hrel := d.relates_other s.options db .first x y
    refine ⟨?_, hfirst.trans (and_iff_right hy)⟩
    calc y ∈ _ ↔ d.Relates s.options db .first x y := hfirst.trans (and_iff_right hy)
      _ ↔ d.Relates s.options db .second y x := hrel.symm
      _ ↔ x ∈ _ := (hsecond.trans (and_iff_right hx)).symm

/-- The relation between reviews and the users that like them. -/
def reviewLikes : Declaration := ⟨.manyToMany, ⟨⟨"review", "id"⟩, none⟩, ⟨⟨"user", "id"⟩, none⟩⟩

/-- The row with these cells and nulls in all other columns. -/
def Sql.Row.ofCells (cells : List (String × Nat)) : Sql.Row Nat := fun column => cells.lookup column

/-- A review that a user likes, twice on record, and one record without a user. -/
def likes : Sql.Contents Nat := fun t =>
  match t.table with
  | "review" => [.ofCells [("id", 1)]]
  | "user" => [.ofCells [("id", 7)]]
  | "review_to_user" =>
    [.ofCells [("review_id", 1)], .ofCells [("review_id", 1), ("user_id", 7)],
      .ofCells [("review_id", 1), ("user_id", 7)]]
  | _ => []

theorem traversal_likes :
    Schema.create reviewSchema.formats reviewing .standard = .ok reviewSchema ∧
      reviewLikes ∈ reviewing ∧ ∃ forth back : Sql.Query,
        reviewLikes.select? reviewSchema.formats .standard ⟨.manyToMany, .first⟩ =
          some (.ok forth) ∧
        reviewLikes.select? reviewSchema.formats .standard ⟨.manyToMany, .second⟩ =
          some (.ok back) ∧
        .ofCells [("id", 7)] ∈ forth.selected likes (some 1) ∧
        .ofCells [("id", 1)] ∈ back.selected likes (some 7) := by
  have hd : reviewLikes ∈ reviewing := .tail _ (.tail _ (.head _))
  obtain ⟨f, -, g, -, forth, back, hf, hg, hforth, hback, -, hsym⟩ :=
    traversal_symmetric _ _ _ _ create_reviewSchema reviewLikes hd
  have hx : Sql.Row.ofCells [("id", 1)] ∈ likes (SqlOptions.standard.qualify f.tableName) := by
    rw [DataFormat.tableName, hf]
    exact .head _
  have hy : Sql.Row.ofCells [("id", 7)] ∈ likes (SqlOptions.standard.qualify g.tableName) := by
    rw [DataFormat.tableName, hg]
    exact .head _
  obtain ⟨hiff, hrel⟩ := hsym Nat likes _ hx _ hy
  have hlikes : reviewLikes.Relates .standard likes .first (.ofCells [("id", 1)])
      (.ofCells [("id", 7)]) :=
    ⟨_, .tail _ (.head _), by decide +kernel, by decide +kernel⟩
  have hfound := hrel.mpr hlikes
  exact ⟨create_reviewSchema, hd, forth, back, hforth, hback, hfound, hiff.mp hfound⟩

end Schemata
