import Schemata.Document
import Mathlib.Data.List.Forall2

/-!
Trees that carry what has been written. Text need not give back the tree it was made of: a truth
value in a document can still be read as a word where a word is expected. A tree carries another if
it has its shape, and its scalars are those of the other wherever values of their kind are expected.
A reader that gets a value from every tree carrying what a writer made of it reads the value back
from text.
-/
namespace Schemata

variable {α β : Type}

/-- A scalar that is the atom when nothing is expected and where an atom of its kind is. -/
structure Scalar.Bears (s : Scalar) (a : Atom) : Prop where
  atom : s.atom = some a
  absent : s.absent = some (decide (a = .null))
  value : match a with
    | .text t => s.text = some t ∧ s.word = some t
    | .bool b => s.bool = some b
    | .nat n => s.nat = some n
    | .null | .other => True

theorem Scalar.ofAtom_bears (a : Atom) : (Scalar.ofAtom a).Bears a := by
  cases a <;> exact ⟨rfl, by simp [ofAtom], by simp [ofAtom]⟩

namespace Tree

inductive Carries : Tree → Tree → Prop where
  | scalar {s s' : Scalar} {a : Atom} (ha : s.atom = some a) (h : s'.Bears a) :
    Carries (.scalar s) (.scalar s')
  | list {xs ys : List Tree} (h : List.Forall₂ Carries xs ys) : Carries (.list xs) (.list ys)
  | map {w w' : Option String} {es es' : List (Tree × Tree)}
    (hk : List.Forall₂ Carries (es.map (·.1)) (es'.map (·.1)))
    (hv : List.Forall₂ Carries (es.map (·.2)) (es'.map (·.2))) :
    Carries (.map w es) (.map w' es')

/-- The reader gets the value from every tree that carries `t`. -/
def Reads (read : Tree → Option α) (t : Tree) (v : α) : Prop :=
  ∀ t', t.Carries t' → read t' = some v

/-! ### Scalars -/

theorem Carries.ofAtom_refl (a : Atom) : (ofAtom a).Carries (ofAtom a) :=
  .scalar (by cases a <;> rfl) (Scalar.ofAtom_bears a)

theorem Carries.bears {a : Atom} {t : Tree} (h : (ofAtom a).Carries t) :
    ∃ s, t = .scalar s ∧ s.Bears a := by
  cases h with
  | scalar ha hb =>
    obtain rfl : a = _ := by cases a <;> exact Option.some.inj ha
    exact ⟨_, rfl, hb⟩

theorem reads_text (s : String) : Reads text? (.text s) s := by
  intro t h
  obtain ⟨_, rfl, hb⟩ := h.bears
  exact hb.value.1

theorem reads_word (s : String) : Reads word? (.text s) s := by
  intro t h
  obtain ⟨_, rfl, hb⟩ := h.bears
  exact hb.value.2

theorem reads_bool (b : Bool) : Reads bool? (.bool b) b := by
  intro t h
  obtain ⟨_, rfl, hb⟩ := h.bears
  exact hb.value

theorem reads_uint32 (n : UInt32) : Reads uint32? (.nat n.toNat) n := by
  intro t h
  obtain ⟨_, rfl, hb⟩ := h.bears
  have hn : nat? (.scalar _) = some n.toNat := hb.value
  rw [uint32?, hn, Option.bind_some, if_pos (by simpa using n.toNat_lt), UInt32.ofNat_toNat]

/-- A value that is there is not missing. -/
theorem Reads.optional {read : Tree → Option α} {a : Atom} {v : α} (ha : a ≠ .null)
    (h : Reads read (ofAtom a) v) : Reads (optional? read) (ofAtom a) (some v) := by
  intro t ht
  have hv := h t ht
  obtain ⟨s, rfl, hb⟩ := ht.bears
  have hs : s.absent = some false := by simpa [ha] using hb.absent
  simp [optional?, hs, hv]

/-! ### Lists -/

theorem Reads.bind {read : Tree → Option α} {t t' : Tree} {a : α} (h : Reads read t a)
    (f : α → Option β) (ht : t.Carries t') : (read t').bind f = f a := by
  rw [h t' ht, Option.bind_some]

/-- Of what passes or is refused, a list passes if all of it does. -/
theorem mapM_of_guarded {f : α → Option α} {p : α → Prop} [DecidablePred p] {xs : List α}
    (h : ∀ x ∈ xs, f x = if p x then some x else none) :
    xs.mapM f = if ∀ x ∈ xs, p x then some xs else none := by
  induction xs with
  | nil => simp
  | cons x xs ih =>
    rw [List.mapM_cons, h x (.head _), ih fun y hy => h y (.tail _ hy)]
    simp only [List.forall_mem_cons]
    by_cases hx : p x
    · by_cases hxs : ∀ y ∈ xs, p y
      · rw [if_pos hx, if_pos hxs, if_pos (And.intro hx hxs)]
        rfl
      · have hall : ¬ (p x ∧ ∀ y ∈ xs, p y) := fun h => hxs h.2
        rw [if_pos hx, if_neg hxs, if_neg hall]
        rfl
    · have hall : ¬ (p x ∧ ∀ y ∈ xs, p y) := fun h => hx h.1
      rw [if_neg hx, if_neg hall]
      rfl

/-- A list is read item by item, if all items can be read. -/
theorem listOf?_of_carries {read : Tree → Option α} {write : β → Tree} {f : β → Option α}
    {xs : List β} (h : ∀ x ∈ xs, ∀ t, (write x).Carries t → read t = f x) {t : Tree}
    (ht : (Tree.list (xs.map write)).Carries t) : listOf? read t = xs.mapM f := by
  cases ht with
  | list hl =>
    rw [listOf?, items?, Option.bind_some]
    rename_i ys
    induction xs generalizing ys with
    | nil =>
      cases hl
      rfl
    | cons x xs ih =>
      cases hl with
      | cons hx hl =>
        rw [List.mapM_cons, List.mapM_cons, h x (.head _) _ hx,
          ih (fun y hy => h y (.tail _ hy)) hl]

theorem Reads.listOf {read : Tree → Option α} {write : α → Tree} {xs : List α}
    (h : ∀ x ∈ xs, Reads read (write x) x) :
    Reads (listOf? read) (.list (xs.map write)) xs := by
  intro t ht
  rw [listOf?_of_carries h ht]
  simpa using List.mapM_pure (f := id) (l := xs) (m := Option)

theorem Carries.map_refl {write : α → Tree} {xs : List α}
    (h : ∀ x ∈ xs, (write x).Carries (write x)) :
    (Tree.list (xs.map write)).Carries (Tree.list (xs.map write)) := by
  refine .list (List.forall₂_same.mpr fun t ht => ?_)
  obtain ⟨x, hx, rfl⟩ := List.mem_map.mp ht
  exact h x hx

/-! ### Records -/

/-- Entries of the same names whose values carry the values. -/
def EntriesCarry (es es' : List (String × Tree)) : Prop :=
  List.Forall₂ (fun e e' => e.1 = e'.1 ∧ e.2.Carries e'.2) es es'

theorem Carries.record {es es' : List (String × Tree)} (h : EntriesCarry es es') :
    (Tree.record es).Carries (Tree.record es') := by
  refine .map ?_ ?_
  · induction h with
    | nil => exact .nil
    | @cons e e' _ _ he _ ih =>
      obtain ⟨name, value⟩ := e
      obtain ⟨rfl, -⟩ := he
      exact .cons (ofAtom_refl _) ih
  · induction h with
    | nil => exact .nil
    | cons he _ ih => exact .cons he.2 ih

theorem keys_entry?_sublist (name : String) (value : Option Tree) :
    (Dict.keys <| entry? name value).Sublist [name] := by
  cases value with
  | none => exact .cons _ .slnil
  | some t => exact .refl _

@[simp] theorem find?_entry (name k : String) (value : Option Tree) :
    Dict.find? ( entry? name value) k = if name = k then value else none := by
  cases value <;> simp [Dict.find?, entry?]

theorem Carries.keyName? {name : String} {key : Tree} (h : (text name).Carries key)
    (names : List String) : key.keyName? names = some name := by
  obtain ⟨s, rfl, hb⟩ := h.bears
  simp [Tree.keyName?, hb.value.1]

/-- What carries a record has an entry for each of its entries. -/
theorem Carries.entries {es : List (String × Tree)} {t : Tree} (h : (Tree.record es).Carries t) :
    ∃ w es', t = .map w es' ∧
      List.Forall₂ (fun e e' => (text e.1).Carries e'.1 ∧ e.2.Carries e'.2) es es' := by
  cases h with
  | @map _ w _ es' hk hv =>
    refine ⟨w, es', rfl, ?_⟩
    rw [List.map_map] at hk hv
    rw [List.forall₂_map_left_iff, List.forall₂_map_right_iff] at hk hv
    induction hk with
    | nil => exact .nil
    | cons hke _ ih =>
      cases hv with
      | cons hve hv => exact .cons ⟨hke, hve⟩ (ih hv)

/-- Entries with the names of fields are gathered in their order. -/
theorem gather?_of_carries {names : List String} {es : List (String × Tree)}
    {es' : List (Tree × Tree)}
    (h : List.Forall₂ (fun e e' => (text e.1).Carries e'.1 ∧ e.2.Carries e'.2) es es')
    {found : List (String × Tree)} (hnames : ∀ n ∈ Dict.keys es, n ∈ names)
    (hn : (Dict.keys found ++ Dict.keys es).Nodup) :
    ∃ fs, gather? names found es' = some (found ++ fs) ∧ EntriesCarry es fs := by
  induction h generalizing found with
  | nil => exact ⟨[], by simp [gather?], .nil⟩
  | @cons e e' es es' he _ ih =>
    obtain ⟨key, t⟩ := e'
    have hin : e.1 ∈ names := hnames _ (.head _)
    have hout : e.1 ∉ Dict.keys found := fun hm =>
      (List.nodup_append.mp hn).2.2 _ hm _ (.head _) rfl
    have hn' : (Dict.keys (found ++ [(e.1, t)]) ++ Dict.keys es).Nodup := by
      simpa [Dict.keys] using hn
    obtain ⟨fs, hfs, hc⟩ := ih (fun n hm => hnames n (.tail _ hm)) hn'
    refine ⟨(e.1, t) :: fs, ?_, .cons ⟨rfl, he.2⟩ hc⟩
    rw [gather?, he.1.keyName? names]
    simp [hin, hout, hfs]

/-- A record written in the order of its fields, some of them left out, is read field by field. -/
theorem fields?_of_carries {names : List String} (hn : names.Nodup) {es : List (String × Tree)}
    (hs : (Dict.keys es).Sublist names) {t : Tree} (h : (Tree.record es).Carries t) :
    ∃ fs, t.fields? names = some fs ∧ EntriesCarry es fs := by
  obtain ⟨w, es', rfl, he⟩ := h.entries
  have hes : (Dict.keys ([] : List (String × Tree)) ++ Dict.keys es).Nodup := hn.sublist hs
  obtain ⟨fs, hfs, hc⟩ := gather?_of_carries he (fun n hm => hs.subset hm) hes
  exact ⟨fs, by rw [fields?, hfs, List.nil_append], hc⟩

namespace EntriesCarry

variable {es fs : List (String × Tree)} {name : String} {read : Tree → Option α}

theorem find?_none (h : EntriesCarry es fs) (hf : Dict.find? es name = none) :
    Dict.find? fs name = none := by
  induction h with
  | nil => rfl
  | cons he _ ih =>
    rw [Dict.find?] at hf ⊢
    split at hf
    · cases hf
    · rw [if_neg (he.1 ▸ ‹_›), ih hf]

theorem find?_some (h : EntriesCarry es fs) {t : Tree} (hf : Dict.find? es name = some t) :
    ∃ t', Dict.find? fs name = some t' ∧ t.Carries t' := by
  induction h with
  | nil => cases hf
  | @cons e e' _ _ he _ ih =>
    rw [Dict.find?] at hf ⊢
    split at hf
    · obtain rfl := Option.some.inj hf
      exact ⟨_, if_pos (he.1 ▸ ‹_›), he.2⟩
    · rw [if_neg (he.1 ▸ ‹_›)]
      exact ih hf

theorem require? (h : EntriesCarry es fs) {t : Tree} (hf : Dict.find? es name = some t)
    {v : Option α} (hr : ∀ t', t.Carries t' → read t' = v) : Tree.require? fs name read = v := by
  obtain ⟨t', hf', hc⟩ := h.find?_some hf
  rw [Tree.require?, hf', Option.bind_some, hr t' hc]

theorem withDefault? (h : EntriesCarry es fs) {t : Tree} (hf : Dict.find? es name = some t)
    {v : Option α} (hr : ∀ t', t.Carries t' → read t' = v) (default : α) :
    Tree.withDefault? fs name default read = v := by
  obtain ⟨t', hf', hc⟩ := h.find?_some hf
  simp [Tree.withDefault?, hf', hr t' hc]

/-- An optional entry, left out when absent. -/
theorem optional? (h : EntriesCarry es fs) {atom : α → Atom} {o : Option α}
    (hf : Dict.find? es name = o.map fun x => ofAtom (atom x)) (ha : ∀ x, atom x ≠ .null)
    (hr : ∀ x, Reads read (ofAtom (atom x)) x) :
    Tree.withDefault? fs name none (Tree.optional? read) = some o := by
  cases o with
  | none => simp [Tree.withDefault?, h.find?_none hf]
  | some x => exact h.withDefault? hf ((hr x).optional (ha x)) none

end EntriesCarry

/-! ### Records of scalars -/

/-- All values are scalars that mean the same everywhere. -/
def Atomic (es : List (String × Tree)) : Prop := ∀ e ∈ es, ∃ a, e.2 = ofAtom a

theorem Atomic.nil : Atomic [] := nofun

theorem Atomic.cons {es : List (String × Tree)} (h : Atomic es) (name : String) (a : Atom) :
    Atomic ((name, ofAtom a) :: es) := by
  intro e hm
  obtain rfl | hm := List.mem_cons.mp hm
  · exact ⟨a, rfl⟩
  · exact h e hm

theorem Atomic.append {es fs : List (String × Tree)} (he : Atomic es) (hf : Atomic fs) :
    Atomic (es ++ fs) := by
  intro e hm
  rcases List.mem_append.mp hm with hm | hm
  · exact he e hm
  · exact hf e hm

theorem atomic_entry (name : String) (atom : α → Atom) (o : Option α) :
    Atomic <| entry? name (o.map fun x => ofAtom (atom x)) := by
  intro e he
  cases o with
  | none => cases he
  | some x =>
    obtain rfl := List.mem_singleton.mp he
    exact ⟨atom x, rfl⟩

theorem EntriesCarry.refl {es : List (String × Tree)} (h : ∀ e ∈ es, e.2.Carries e.2) :
    EntriesCarry es es :=
  List.forall₂_same.mpr fun e he => ⟨rfl, h e he⟩

theorem Atomic.carries_refl {es : List (String × Tree)} (h : Atomic es) :
    (Tree.record es).Carries (Tree.record es) := by
  refine .record (.refl fun e he => ?_)
  obtain ⟨a, ha⟩ := h e he
  rw [ha]
  exact .ofAtom_refl a

theorem Carries.settle? {a : Atom} {t : Tree} (h : (ofAtom a).Carries t) :
    settle? t = some (ofAtom a) := by
  obtain ⟨s, rfl, hb⟩ := h.bears
  rw [Tree.settle?, hb.atom, Option.map_some]

/-- Without expectations a record of such scalars reads as it was written. -/
theorem Atomic.settleEntries? {es : List (String × Tree)} (hs : Atomic es)
    {es' : List (Tree × Tree)}
    (h : List.Forall₂ (fun e e' => (text e.1).Carries e'.1 ∧ e.2.Carries e'.2) es es') :
    settleEntries? es' = some (es.map fun (name, t) => (text name, t)) := by
  induction h with
  | nil => rfl
  | @cons e e' es es' he _ ih =>
    obtain ⟨a, ha⟩ := hs e (.head _)
    have hkey : Tree.settle? e'.1 = some (text e.1) := he.1.settle?
    have hvalue : Tree.settle? e'.2 = some e.2 := by
      have hc := he.2
      rw [ha] at hc ⊢
      exact hc.settle?
    have hrest := ih fun e he => hs e (.tail _ he)
    simp [Tree.settleEntries?, hkey, hvalue, hrest]

end Tree

end Schemata
