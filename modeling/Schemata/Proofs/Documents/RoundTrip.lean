import Schemata.Proofs.Documents.Trees
import Schemata.Proofs.Admission
import Schemata.Yaml.Resolution

/-!
Documents read back. Formats come back from what is written of them whatever they hold. Declarations
do if their fields have names without points and white space, as those of an accepted schema do. So
the document of a schema declares the same schema again.
-/
namespace Schemata

open Schemata.Tree

/-! ### Formats -/

namespace Field

/-- What is written of a field. -/
def entries (f : Field) : List (String × Tree) :=
  [("name", .text f.name), ("data_type", .text f.dataType.name)] ++
    entry? "max_length" (f.maxLength.map fun n => .nat n.toNat) ++
    [("allow_null", .bool f.allowNull), ("unique", .bool f.unique)]

theorem keys_entries (f : Field) : (Dict.keys f.entries).Sublist fieldNames := by
  have hs := ((List.Sublist.refl ["name", "data_type"]).append
    (keys_entry?_sublist "max_length" (f.maxLength.map fun n => .nat n.toNat))).append
    (.refl ["allow_null", "unique"])
  simp only [Dict.keys, entries, List.map_append, List.map_cons, List.map_nil]
  exact hs

theorem reads (f : Field) : Reads ofTree? f.toTree f := by
  intro t ht
  obtain ⟨fs, hfs, hc⟩ := fields?_of_carries (by decide) f.keys_entries ht
  have hname : require? fs "name" text? = some f.name :=
    hc.require? (by simp [entries, Dict.find?]) (reads_text _)
  have htype : require? fs "data_type" (fun t => t.word?.bind DataType.ofName?) =
      some f.dataType :=
    hc.require? (by simp [entries, Dict.find?]) fun _ ht =>
      ((reads_word _).bind _ ht).trans (DataType.ofName?_name _)
  have hlength : withDefault? fs "max_length" none (optional? uint32?) = some f.maxLength :=
    hc.optional? (by simp [entries, Dict.find?]; rfl) (by simp) reads_uint32
  have hnull : withDefault? fs "allow_null" false bool? = some f.allowNull :=
    hc.withDefault? (by simp [entries, Dict.find?]) (reads_bool _) _
  have hunique : withDefault? fs "unique" false bool? = some f.unique :=
    hc.withDefault? (by simp [entries, Dict.find?]) (reads_bool _) _
  simp [ofTree?, hfs, hname, htype, hlength, hnull, hunique]

end Field

namespace DataFormat

/-- What is written of a format. -/
def entries (f : DataFormat) : List (String × Tree) :=
  [("name", .text f.name)] ++ entry? "plural_name" (f.pluralName.map .text) ++
    [("fields", .list (f.fields.map Field.toTree))]

theorem keys_entries (f : DataFormat) : (Dict.keys f.entries).Sublist fieldNames := by
  have hs := ((List.Sublist.refl ["name"]).append
    (keys_entry?_sublist "plural_name" (f.pluralName.map .text))).append (.refl ["fields"])
  simp only [Dict.keys, entries, List.map_append, List.map_cons, List.map_nil]
  exact hs

theorem reads (f : DataFormat) : Reads ofTree? f.toTree f := by
  intro t ht
  obtain ⟨fs, hfs, hc⟩ := fields?_of_carries (by decide) f.keys_entries ht
  have hname : require? fs "name" text? = some f.name :=
    hc.require? (by simp [entries, Dict.find?]) (reads_text _)
  have hplural : withDefault? fs "plural_name" none (optional? text?) = some f.pluralName :=
    hc.optional? (by simp [entries, Dict.find?]; rfl) (by simp) reads_text
  have hfields : require? fs "fields" (listOf? Field.ofTree?) = some f.fields :=
    hc.require? (by simp [entries, Dict.find?]) (Reads.listOf fun x _ => x.reads)
  simp [ofTree?, hfs, hname, hplural, hfields]

end DataFormat

/-! ### Declarations -/

namespace Declaration

/-- What is written of a declaration behind its shape. -/
def entries (d : Declaration) : List (String × Tree) :=
  let name (i : Nat) : String := d.shape.fieldNames.getD i ""
  [(name 0, .text d.first.field.render), (name 1, .text d.second.field.render)] ++
    entry? (name 2) (d.first.accessorName.map .text) ++
    entry? (name 3) (d.second.accessorName.map .text)

theorem toTree_eq (d : Declaration) :
    d.toTree = .record ((shapeKey, .text d.shape.name) :: d.entries) := by
  rfl

theorem keys_entries (d : Declaration) : (Dict.keys d.entries).Sublist d.shape.fieldNames := by
  obtain ⟨shape, first, second⟩ := d
  cases shape <;>
  · simp only [Dict.keys, entries, List.map_append, List.map_cons, List.map_nil]
    exact ((List.Sublist.refl _).append (keys_entry?_sublist _ _)).append (keys_entry?_sublist _ _)

theorem find?_entries (d : Declaration) :
    Dict.find? d.entries (d.shape.fieldNames.getD 0 "") = some (.text d.first.field.render) ∧
      Dict.find? d.entries (d.shape.fieldNames.getD 1 "") = some (.text d.second.field.render) ∧
      Dict.find? d.entries (d.shape.fieldNames.getD 2 "") = d.first.accessorName.map .text ∧
      Dict.find? d.entries (d.shape.fieldNames.getD 3 "") = d.second.accessorName.map .text := by
  obtain ⟨shape, first, second⟩ := d
  cases shape <;> simp [entries, Shape.fieldNames, Dict.find?]

/-- The declaration with its references as they are read from what is written of them. -/
def reread? (d : Declaration) : Option Declaration := do
  let first ← FieldRef.parse? d.first.field.render
  let second ← FieldRef.parse? d.second.field.render
  return ⟨d.shape, ⟨first, d.first.accessorName⟩, ⟨second, d.second.accessorName⟩⟩

/-- A declaration is read once its shape is known, if its references can be read. -/
theorem ofFields?_of_carries {d : Declaration} {t : Tree} (h : (record d.entries).Carries t) :
    ofFields? d.shape t = d.reread? := by
  have hn : d.shape.fieldNames.Nodup := by cases d.shape <;> decide
  obtain ⟨fs, hfs, hc⟩ := fields?_of_carries hn d.keys_entries h
  obtain ⟨h0, h1, h2, h3⟩ := d.find?_entries
  have hfirst := hc.require? h0 fun _ => (reads_text _).bind FieldRef.parse?
  have hsecond := hc.require? h1 fun _ => (reads_text _).bind FieldRef.parse?
  have hfirstName := hc.optional? h2 (by simp) reads_text
  have hsecondName := hc.optional? h3 (by simp) reads_text
  simp only [ofFields?, hfs, hfirst, hsecond, hfirstName, hsecondName, Option.bind_eq_bind,
    Option.bind_some, Option.pure_def, reread?]

theorem atomic_entries (d : Declaration) : Atomic d.entries :=
  (((Atomic.nil.cons _ (.text _)).cons _ (.text _)).append (atomic_entry _ .text _)).append
    (atomic_entry _ .text _)

/-- Only the key of the shape is taken for it. -/
theorem isShapeKey_of_carries {name : String} {key : Tree} (h : (text name).Carries key) :
    isShapeKey key = decide (name = shapeKey) := by
  obtain ⟨s, rfl, hb⟩ := h.bears
  simp [isShapeKey, hb.atom]

theorem shapeKey_not_mem (d : Declaration) : shapeKey ∉ Dict.keys d.entries := by
  have hs : shapeKey ∉ d.shape.fieldNames := by cases d.shape <;> decide
  exact fun hm => hs (d.keys_entries.subset hm)

/-- The shape is found among the entries, and the rest reads as it was written. -/
theorem shape?_of_carries {d : Declaration} {t : Tree} (h : d.toTree.Carries t) :
    shape? t = some (d.shape, .record d.entries) := by
  rw [toTree_eq] at h
  obtain ⟨w, es, rfl, he⟩ := h.entries
  cases he with
  | @cons _ e _ es he hes =>
    have hkey : isShapeKey e.1 = true := by simp [isShapeKey_of_carries he.1]
    have hrest : ∀ e' ∈ es, isShapeKey e'.1 = false := by
      intro e' hm
      obtain ⟨x, hx, hxe⟩ := exists_match hes.flip hm
      rw [isShapeKey_of_carries hxe.1, decide_eq_false_iff_not]
      exact fun hk => d.shapeKey_not_mem (hk ▸ List.mem_map_of_mem hx)
    have hshape : e.2.text? = some d.shape.name := reads_text _ _ he.2
    have hfound : (e :: es).filter (fun e => isShapeKey e.1) = [e] := by
      simpa [List.filter_cons, hkey] using fun key t hm => hrest (key, t) hm
    have hothers : (e :: es).filter (fun e => !isShapeKey e.1) = es := by
      simpa [List.filter_cons, hkey] using fun key t hm => hrest (key, t) hm
    have hsettled : settle? (.map none es) = some (.record d.entries) := by
      rw [settle?, d.atomic_entries.settleEntries? hes]
      rfl
    simp only [shape?, hfound, hothers, hshape, hsettled, Shape.ofName?_name, Option.bind_eq_bind,
      Option.bind_some, Option.pure_def]

theorem ofTree?_of_carries {d : Declaration} {t : Tree} (h : d.toTree.Carries t) :
    ofTree? t = d.reread? := by
  rw [ofTree?, shape?_of_carries h]
  exact ofFields?_of_carries d.atomic_entries.carries_refl

theorem Camel.reread? {d : Declaration} (hd : d.Camel) : d.reread? = some d := by
  rw [Declaration.reread?, hd.first.parse?_render, hd.second.parse?_render]
  rfl

end Declaration

/-! ### Documents -/

theorem Field.toTree_carries (f : Field) : f.toTree.Carries f.toTree :=
  have ha : Atomic f.entries :=
    (((Atomic.nil.cons _ (.text _)).cons _ (.text _)).append
      (atomic_entry _ (fun n : UInt32 => .nat n.toNat) _)).append
      ((Atomic.nil.cons _ (.bool _)).cons _ (.bool _))
  ha.carries_refl

theorem DataFormat.toTree_carries (f : DataFormat) : f.toTree.Carries f.toTree := by
  refine .record (.refl fun e he => ?_)
  simp only [List.mem_append, List.mem_singleton] at he
  rcases he with (rfl | he) | rfl
  · exact .ofAtom_refl _
  · obtain ⟨a, ha⟩ := atomic_entry _ .text _ e he
    exact ha ▸ .ofAtom_refl a
  · exact .map_refl fun x _ => x.toTree_carries

theorem Declaration.toTree_carries (d : Declaration) : d.toTree.Carries d.toTree :=
  (d.atomic_entries.cons shapeKey (.text d.shape.name)).carries_refl

namespace Document

theorem toTree_carries (d : Document) : d.toTree.Carries d.toTree := by
  refine .record (.refl fun e he => ?_)
  simp only [List.mem_cons, List.not_mem_nil, or_false] at he
  rcases he with rfl | rfl
  · exact .map_refl fun f _ => f.toTree_carries
  · exact .map_refl fun r _ => r.toTree_carries

/-- A document is read, if all references of its declarations can be read. -/
theorem ofTree?_of_carries {d : Document} {t : Tree} (h : d.toTree.Carries t) :
    ofTree? t = (d.relations.mapM Declaration.reread?).map fun rs => ⟨d.formats, rs⟩ := by
  obtain ⟨fs, hfs, hc⟩ := fields?_of_carries (show fieldNames.Nodup by decide) (.refl _) h
  have hformats : require? fs "data_formats" (listOf? DataFormat.ofTree?) = some d.formats :=
    hc.require? (by simp [Dict.find?]) (Reads.listOf fun f _ => f.reads)
  have hrelations : withDefault? fs "relations" [] (listOf? Declaration.ofTree?) =
      d.relations.mapM Declaration.reread? :=
    hc.withDefault? (by simp [Dict.find?])
      (fun _ => listOf?_of_carries fun _ _ _ => Declaration.ofTree?_of_carries) _
  simp only [ofTree?, hfs, hformats, hrelations, Option.bind_eq_bind, Option.bind_some,
    Option.pure_def, Option.map_eq_bind]
  rfl

theorem reads {d : Document} (hd : ∀ r ∈ d.relations, r.Camel) : Reads ofTree? d.toTree d := by
  intro t h
  have hr : ∀ r ∈ d.relations, r.reread? = if True then some r else none := fun r hr => by
    rw [(hd r hr).reread?, if_pos trivial]
  rw [ofTree?_of_carries h, mapM_of_guarded hr, if_pos fun _ _ => trivial, Option.map_some]

end Document

/-- The document of a schema, read back from any tree that carries what was written, is the same
document, and declares the same schema. -/
theorem document_declares_schema (fs : List DataFormat) (ds : List Declaration) (o : SqlOptions)
    (s : Schema) (h : Schema.create fs ds o = .ok s) :
    s.document.toTree.Carries s.document.toTree ∧
      ∀ t, s.document.toTree.Carries t →
        Document.ofTree? t = some s.document ∧ s.document.toSchema s.options = .ok s := by
  obtain ⟨ha, rfl, hr, rfl⟩ := (Schema.create_eq_ok_iff fs ds o s).mp h
  have hds := Schema.declarations_eq hr
  have hcamel : ∀ d ∈ s.document.relations, d.Camel := fun d hd => ha.camel (hds ▸ hd)
  refine ⟨s.document.toTree_carries, fun t ht => ⟨Document.reads hcamel t ht, ?_⟩⟩
  rw [Document.toSchema, Schema.document, hds]
  exact h

/-! ### Plain scalars of YAML text -/

namespace Yaml

theorem of_integer?_eq_some {s : List Char} {a : Atom} (h : integer? s = some (some a)) :
    (∃ n, a = .nat n ∧ unsigned? 64 s = some n) ∨ a = .other := by
  unfold integer? at h
  split at h
  · rename_i n hn
    exact .inl ⟨n, by simpa [eq_comm] using h, hn⟩
  split at h
  · exact .inr (by simpa [eq_comm] using h)
  split at h <;> simp at h

/-- A plain scalar is what it resolves to wherever a value of that kind is expected. -/
theorem scalar_plain_bears {s : String} {a : Atom} (h : plainAtom? s = some a) :
    (scalar none .plain s).Bears a := by
  have hatom : (scalar none .plain s).atom = some a := h
  have habsent : (scalar none .plain s).absent = some (s.isEmpty || isNull s) := rfl
  unfold plainAtom? at h
  split at h
  · rename_i hs
    obtain rfl := Option.some.inj h
    exact ⟨hatom, by simp [habsent, hs], trivial⟩
  rename_i hs
  have hpresent : a ≠ .null → (scalar none .plain s).absent = some (decide (a = .null)) := by
    intro ha
    simpa [habsent, ha] using hs
  split at h
  · rename_i b hb
    obtain rfl := Option.some.inj h
    exact ⟨hatom, hpresent nofun, hb⟩
  split at h
  · rename_i hn
    obtain ⟨n, rfl, hu⟩ | rfl := of_integer?_eq_some (h ▸ hn)
    · exact ⟨hatom, hpresent nofun, hu⟩
    · exact ⟨hatom, hpresent nofun, trivial⟩
  split at h
  · obtain rfl := Option.some.inj h
    exact ⟨hatom, hpresent nofun, trivial⟩
  · obtain rfl := Option.some.inj h
    exact ⟨hatom, hpresent nofun, rfl, rfl⟩

/-- A plain scalar of YAML text. -/
def plain (s : String) : Tree := .scalar (scalar none .plain s)

/-- A block mapping of YAML text. -/
def block (entries : List (String × Tree)) : Tree :=
  .map none (entries.map fun (name, t) => (plain name, t))

theorem plain_carries {s : String} {a : Atom} (h : plainAtom? s = some a) :
    (ofAtom a).Carries (plain s) :=
  .scalar (by cases a <;> rfl) (scalar_plain_bears h)

theorem block_nil : (Tree.record []).Carries (block []) := .map .nil .nil

theorem block_cons {name : String} {t t' : Tree} {es es' : List (String × Tree)}
    (hn : plainAtom? name = some (.text name)) (ht : t.Carries t')
    (h : (Tree.record es).Carries (block es')) :
    (Tree.record ((name, t) :: es)).Carries (block ((name, t') :: es')) := by
  cases h with
  | map hk hv => exact .map (.cons (plain_carries hn) hk) (.cons ht hv)

end Yaml

/-- Users are invited by users, and the accessor of one end has a name of its own. -/
def inviting : Declaration :=
  ⟨.oneToOne, ⟨⟨"user", "id"⟩, some "getInviter"⟩, ⟨⟨"user", "inviterId"⟩, none⟩⟩

def inviteSchema : Schema where
  formats :=
    [⟨"user", some "people",
      [⟨"id", .serial, none, false, false⟩, ⟨"inviterId", .varchar, some 40, true, false⟩]⟩]
  relations := ⟨[inviting.relation .standard], by decide⟩
  options := .standard

open Yaml in
/-- The schema as YAML text spells it: its numbers and truth values are words as well. -/
def inviteTree : Tree :=
  block
    [("data_formats", .list
      [block
        [("name", plain "user"), ("plural_name", plain "people"),
          ("fields", .list
            [block
              [("name", plain "id"), ("data_type", plain "serial"),
                ("allow_null", plain "false"), ("unique", plain "false")],
            block
              [("name", plain "inviterId"), ("data_type", plain "varchar"),
                ("max_length", plain "40"), ("allow_null", plain "true"),
                ("unique", plain "false")]])]]),
      ("relations", .list
        [block
          [("type", plain "ONE_TO_ONE"), ("from_one_field", plain "user.id"),
            ("to_one_field", plain "user.inviterId"),
            ("get_related_from_one_record_name", plain "getInviter")]])]

open Yaml in
theorem carries_inviteTree : inviteSchema.document.toTree.Carries inviteTree := by
  refine block_cons rfl (.list (.cons ?format .nil)) <|
    block_cons rfl (.list (.cons ?relation .nil)) block_nil
  case format =>
    refine block_cons rfl (plain_carries rfl) <| block_cons rfl (plain_carries rfl) <|
      block_cons rfl (.list (.cons ?id (.cons ?inviterId .nil))) block_nil
    case id =>
      exact block_cons rfl (plain_carries rfl) <| block_cons rfl (plain_carries rfl) <|
        block_cons rfl (plain_carries rfl) <| block_cons rfl (plain_carries rfl) block_nil
    case inviterId =>
      exact block_cons rfl (plain_carries rfl) <| block_cons rfl (plain_carries rfl) <|
        block_cons rfl (plain_carries rfl) <| block_cons rfl (plain_carries rfl) <|
          block_cons rfl (plain_carries rfl) block_nil
  case relation =>
    exact block_cons rfl (plain_carries rfl) <| block_cons rfl (plain_carries rfl) <|
      block_cons rfl (plain_carries rfl) <| block_cons rfl (plain_carries rfl) block_nil

theorem document_inviteSchema :
    Schema.create inviteSchema.formats [inviting] .standard = .ok inviteSchema ∧
      inviteSchema.document.toTree.Carries inviteTree ∧
      Document.ofTree? inviteTree = some inviteSchema.document ∧
      inviteSchema.document.toSchema .standard = .ok inviteSchema := by
  have h : Schema.create inviteSchema.formats [inviting] .standard = .ok inviteSchema := by
    decide +kernel
  obtain ⟨-, hr⟩ := document_declares_schema inviteSchema.formats [inviting] .standard
    inviteSchema h
  exact ⟨h, carries_inviteTree, hr inviteTree carries_inviteTree⟩

end Schemata
