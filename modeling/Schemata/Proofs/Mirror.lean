import Schemata.Proofs.Admission
import Schemata.Proofs.Failure
import Schemata.Store.Plan

/-!
The two ends of a many-to-many relation. A declaration and its mirror image, with the fields and the
declared accessor names of the two ends exchanged, are accepted together and give the formats on
their ends the same accessors. They differ in the name of the join table and in the order of its
columns.
-/
namespace Schemata

open Validation

/-! ### Verdicts -/

/-- Both checks pass, or both fail with errors of one kind. -/
inductive SameVerdict : Except SchemaError Unit → Except SchemaError Unit → Prop where
  | ok : SameVerdict (.ok ()) (.ok ())
  | error {e e' : SchemaError} (h : e.ctorIdx = e'.ctorIdx) : SameVerdict (.error e) (.error e')

/-- The check can only fail with errors of the kind of `e`. -/
def FailsOnlyAs (e : SchemaError) (x : Except SchemaError Unit) : Prop :=
  ∀ e', x = .error e' → e'.ctorIdx = e.ctorIdx

namespace FailsOnlyAs

variable {e e' : SchemaError} {x y : Except SchemaError Unit}

theorem ok : FailsOnlyAs e (.ok ()) := nofun

theorem error (h : e'.ctorIdx = e.ctorIdx) : FailsOnlyAs e (.error e') := by
  rintro _ ⟨⟩
  exact h

theorem bind (hx : FailsOnlyAs e x) (hy : FailsOnlyAs e y) : FailsOnlyAs e (x >>= fun _ => y) := by
  intro e' h
  obtain h | ⟨_, -, h⟩ := bind_eq_error_iff.mp h
  · exact hx e' h
  · exact hy e' h

theorem refuse {c : Prop} [Decidable c] (h : e'.ctorIdx = e.ctorIdx) :
    FailsOnlyAs e (if c then .error e' else .ok ()) := by
  split
  · exact error h
  · exact ok

theorem fieldRef {fs : List DataFormat} {relation relation' : String} {r r' : FieldRef} :
    FailsOnlyAs (.unknownFieldRef relation' r') (fieldRef fs relation r) := by
  unfold Validation.fieldRef
  split
  · exact ok
  · exact error rfl

theorem identifier {fault : Name.Fault} {r : Except Name.Fault Unit} :
    FailsOnlyAs (.invalidIdentifier fault) (identifier r) := by
  cases r with
  | ok => exact ok
  | error => exact error rfl

theorem accessorName {fault : Name.Fault} {name : Option String} :
    FailsOnlyAs (.invalidIdentifier fault) (accessorName name) := by
  cases name with
  | none => exact ok
  | some name => exact identifier

theorem generatedNames {fault : Name.Fault} {d : Declaration} :
    FailsOnlyAs (.invalidIdentifier fault) (generatedNames d) := by
  unfold Validation.generatedNames
  split
  · simp only [List.forIn_cons, List.forIn_nil, pure_bind, bind_assoc, bind_pure_unit]
    exact identifier.bind (identifier.bind (identifier.bind (identifier.bind identifier)))
  · exact identifier

end FailsOnlyAs

namespace SameVerdict

variable {e : SchemaError} {x x' y y' : Except SchemaError Unit}

theorem of_failsOnlyAs (h : FailsOnlyAs e x) (h' : FailsOnlyAs e x')
    (hok : x = .ok () ↔ x' = .ok ()) : SameVerdict x x' := by
  cases x with
  | ok =>
    rw [hok.mp rfl]
    exact .ok
  | error e₁ =>
    cases x' with
    | ok => cases hok.mpr rfl
    | error e₂ => exact .error ((h e₁ rfl).trans (h' e₂ rfl).symm)

theorem bind (hx : SameVerdict x x') (hy : SameVerdict y y') :
    SameVerdict (x >>= fun _ => y) (x' >>= fun _ => y') := by
  cases hx with
  | ok => exact hy
  | error h => exact .error h

end SameVerdict

/-! ### The mirror image -/

namespace Declaration

/-- The same relation with its ends exchanged, each with the accessor name declared for it. -/
def mirrored (d : Declaration) : Declaration := ⟨d.shape, d.second, d.first⟩

@[simp] theorem first_mirrored (d : Declaration) : d.mirrored.first = d.second := rfl

@[simp] theorem second_mirrored (d : Declaration) : d.mirrored.second = d.first := rfl

theorem endpoint_mirrored (d : Declaration) (side : Side) :
    d.mirrored.endpoint side.other = d.endpoint side := by
  cases side <;> rfl

theorem seenFrom?_mirrored (d : Declaration) (shape : Shape) (side : Side) :
    d.mirrored.seenFrom? ⟨shape, side.other⟩ = d.seenFrom? ⟨shape, side⟩ := by
  simp only [seenFrom?, endpoint_mirrored]
  rfl

/-- The name of an accessor depends on its role through the ends that it is seen from. -/
theorem accessorName?_mirrored (d : Declaration) (side : Side) :
    d.mirrored.accessorName? ⟨.manyToMany, side.other⟩ = d.accessorName? ⟨.manyToMany, side⟩ := by
  simp only [accessorName?, seenFrom?_mirrored]
  rfl

/-! ### Acceptance -/

theorem utf8ByteSize_joinTableName_mirrored (d : Declaration) :
    d.mirrored.joinTableName.utf8ByteSize = d.joinTableName.utf8ByteSize := by
  simp only [joinTableName, mirrored, String.utf8ByteSize_append, toString]
  omega

theorem utf8ByteSize_joinConstraintName_mirrored (d : Declaration) (r : FieldRef) :
    (d.mirrored.joinConstraintName r).utf8ByteSize = (d.joinConstraintName r).utf8ByteSize := by
  simp only [joinConstraintName, String.utf8ByteSize_append, toString,
    utf8ByteSize_joinTableName_mirrored]

variable {d : Declaration}

/-- The identifiers of the mirror image are as long, each as that of the same field. -/
theorem generatedNames_mirrored (hd : d.shape = .manyToMany) :
    generatedNames d.mirrored = .ok () ↔ generatedNames d = .ok () := by
  have hm : d.mirrored.shape = .manyToMany := hd
  simp only [generatedNames_eq_ok_iff, identifiers, if_pos hd, if_pos hm, List.forall_mem_cons,
    utf8ByteSize_joinTableName_mirrored, utf8ByteSize_joinConstraintName_mirrored]
  constructor
  · rintro ⟨ht, hc₂, hk₂, hc₁, hk₁, hn⟩
    exact ⟨ht, hc₁, hk₁, hc₂, hk₂, hn⟩
  · rintro ⟨ht, hc₁, hk₁, hc₂, hk₂, hn⟩
    exact ⟨ht, hc₂, hk₂, hc₁, hk₁, hn⟩

/-- The checks of a single many-to-many declaration, grouped by the errors they fail with. -/
theorem declarations_singleton (hd : d.shape = .manyToMany) (fs : List DataFormat) :
    declarations fs [] [d] =
      (fieldRef fs d.name d.first.field >>= fun _ => fieldRef fs d.name d.second.field) >>= fun _ =>
      (if d.first.field = d.second.field then .error (.selfReference d.name)
        else .ok ()) >>= fun _ =>
      (accessorName d.first.accessorName >>= fun _ =>
        accessorName d.second.accessorName >>= fun _ => generatedNames d) >>= fun _ =>
      if d.first.field.joinColumn = d.second.field.joinColumn then
        .error (.joinColumnCollision d.name d.first.field.joinColumn) else .ok () := by
  simp only [declarations, Validation.joinTable, hd, if_true, bind_assoc, Dict.find?]
  by_cases hf : d.first.field = d.second.field <;>
    by_cases hj : d.first.field.joinColumn = d.second.field.joinColumn <;>
      simp [hf, hj, throw, throwThe, MonadExceptOf.throw]

/-- Each group fails in one way only, so the order of the checks within it does not matter. -/
theorem sameVerdict_mirrored (hd : d.shape = .manyToMany) (fs : List DataFormat) :
    SameVerdict (declarations fs [] [d]) (declarations fs [] [d.mirrored]) := by
  rw [declarations_singleton hd, declarations_singleton (d := d.mirrored) hd]
  simp only [first_mirrored, second_mirrored]
  refine .bind ?_ (.bind ?_ (.bind ?_ ?_))
  · refine .of_failsOnlyAs (e := .unknownFieldRef d.name d.first.field)
      (.bind .fieldRef .fieldRef) (.bind .fieldRef .fieldRef) ?_
    simp only [check_eq_ok_iff, fieldRef_eq_ok_iff]
    exact and_comm
  · refine .of_failsOnlyAs (e := .selfReference d.name) (.refuse rfl) (.refuse rfl) ?_
    simp [eq_comm]
  · refine .of_failsOnlyAs (e := .invalidIdentifier (.empty .function))
      (.bind .accessorName (.bind .accessorName .generatedNames))
      (.bind .accessorName (.bind .accessorName .generatedNames)) ?_
    simp only [check_eq_ok_iff, generatedNames_mirrored hd]
    exact and_left_comm
  · refine .of_failsOnlyAs (e := .joinColumnCollision d.name d.first.field.joinColumn)
      (.refuse rfl) (.refuse rfl) ?_
    simp [eq_comm]

end Declaration

/-! ### Accessors and join tables -/

/-- Statements that find rows in one way, the first through the join table `t`, the second through
`t'`. -/
def Sql.DifferInJoinTable (t t' : TableName) (q q' : Query) : Prop :=
  ∃ table columns link column value,
    q = .related table columns (.through t link column value) ∧
      q' = .related table columns (.through t' link column value)

/-- The text of such a statement mentions the join table once. -/
theorem Sql.Query.exists_render_through (table : TableName) (columns : List String)
    (link column value : String) :
    ∃ front back, ∀ t : TableName,
      (Query.related table columns (.through t link column value)).render =
        front ++ t.render ++ back := by
  refine ⟨s!"SELECT {commaList (columns.map aliased)} FROM {table.render} r" ++ " JOIN ",
    s!" j ON j.{link} = r.{column} WHERE j.{value} = $1", fun t => ?_⟩
  change s!"SELECT {commaList (columns.map aliased)} FROM {table.render} r" ++
    s!" JOIN {t.render} j ON j.{link} = r.{column} WHERE j.{value} = $1" = _
  simp only [String.append_assoc]
  rfl

theorem Sql.DifferInJoinTable.exists_render {t t' : TableName} {q q' : Query}
    (h : DifferInJoinTable t t' q q') :
    ∃ front back,
      q.render = front ++ t.render ++ back ∧ q'.render = front ++ t'.render ++ back := by
  obtain ⟨table, columns, link, column, value, rfl, rfl⟩ := h
  obtain ⟨front, back, hr⟩ := Query.exists_render_through table columns link column value
  exact ⟨front, back, hr t, hr t'⟩

namespace Declaration

variable {d : Declaration}

/-- What a declaration shares with its mirror image over the formats `fs`. -/
structure Mirrors (fs : List DataFormat) (o : SqlOptions) (d e : Declaration) : Prop where
  verdict : SameVerdict (declarations fs [] [d]) (declarations fs [] [e])
  accessorName : ∀ side, ∃ name, d.accessorName? ⟨.manyToMany, side⟩ = some name ∧
    e.accessorName? ⟨.manyToMany, side.other⟩ = some name
  select : ∀ side,
    (∃ fault, d.select? fs o ⟨.manyToMany, side⟩ = some (.error fault) ∧
      e.select? fs o ⟨.manyToMany, side.other⟩ = some (.error fault)) ∨
    ∃ q q', d.select? fs o ⟨.manyToMany, side⟩ = some (.ok q) ∧
      e.select? fs o ⟨.manyToMany, side.other⟩ = some (.ok q') ∧
      Sql.DifferInJoinTable (o.qualify d.joinTableName) (o.qualify e.joinTableName) q q' ∧
      ∃ front back, q.render = front ++ (o.qualify d.joinTableName).render ++ back ∧
        q'.render = front ++ (o.qualify e.joinTableName).render ++ back
  joinTable : ∃ id first second, (d.joinTable o).columns = [id, first, second] ∧
    e.joinTable o =
      { d.joinTable o with
        name := o.qualify e.joinTableName
        columns := [id, second, first]
        foreignKeys := ((d.joinTable o).foreignKeys.map fun k =>
          { k with constraint := s!"{e.joinTableName}_{k.column}_fkey" }).reverse }

/-- A route through the join table is found from the fields of the ends alone. -/
theorem select?_mirrored (hd : d.shape = .manyToMany) (fs : List DataFormat) (o : SqlOptions)
    (side : Side) :
    (∃ e, d.select? fs o ⟨.manyToMany, side⟩ = some (.error e) ∧
      d.mirrored.select? fs o ⟨.manyToMany, side.other⟩ = some (.error e)) ∨
    ∃ q q', d.select? fs o ⟨.manyToMany, side⟩ = some (.ok q) ∧
      d.mirrored.select? fs o ⟨.manyToMany, side.other⟩ = some (.ok q') ∧
      Sql.DifferInJoinTable (o.qualify d.joinTableName) (o.qualify d.mirrored.joinTableName)
        q q' := by
  have hm : d.mirrored.shape = .manyToMany := hd
  simp only [select?, seenFrom?, endpoint_mirrored, hd, hm, if_true, Option.map_some, route]
  cases DataFormat.find? fs (d.endpoint side.other).field.formatName with
  | none => exact .inl ⟨_, rfl, rfl⟩
  | some f => exact .inr ⟨_, _, rfl, rfl, _, _, _, _, _, rfl, rfl⟩

theorem exists_accessorName (hd : d.shape = .manyToMany) (side : Side) :
    ∃ name, d.accessorName? ⟨.manyToMany, side⟩ = some name := by
  simp [accessorName?, seenFrom?, hd]

theorem mirrors_mirrored (d : Declaration) (hd : d.shape = .manyToMany) (fs : List DataFormat)
    (o : SqlOptions) : d.Mirrors fs o d.mirrored where
  verdict := sameVerdict_mirrored hd fs
  accessorName side := by
    obtain ⟨name, hn⟩ := exists_accessorName hd side
    exact ⟨name, hn, (d.accessorName?_mirrored side).trans hn⟩
  select side := by
    obtain h | ⟨q, q', hq, hq', h⟩ := select?_mirrored hd fs o side
    · exact .inl h
    · exact .inr ⟨q, q', hq, hq', h, h.exists_render⟩
  joinTable := ⟨_, _, _, rfl, rfl⟩

/-- Users have favourite reviews, and the accessor to these has a name of its own. -/
def favourites : Declaration :=
  ⟨.manyToMany, ⟨⟨"review", "id"⟩, some "getLikedReviews"⟩, ⟨⟨"user", "id"⟩, none⟩⟩

theorem mirrors_liking :
    favourites.shape = .manyToMany ∧ declarations reviewSchema.formats [] [favourites] = .ok () ∧
      favourites.Mirrors reviewSchema.formats .standard favourites.mirrored ∧
      favourites.accessorName? ⟨.manyToMany, .second⟩ = some "getLikedReviews" ∧
      favourites.mirrored.accessorName? ⟨.manyToMany, .first⟩ = some "getLikedReviews" ∧
      favourites.joinTableName = "review_to_user" ∧
      favourites.mirrored.joinTableName = "user_to_review" :=
  ⟨rfl, rfl, mirrors_mirrored favourites rfl _ _, rfl, rfl, rfl, rfl⟩

end Declaration

end Schemata
