import Mathlib.Data.List.DropRight
import Mathlib.Tactic.SplitIfs
import Schemata.Proofs.Json.Scalars

/-!
JSON values in text. What has been read from a text is written as a text that is read as the same
value, except that a double may be read from its text as the one beside it.
-/
namespace Schemata.Json

/-- The value itself or a part of it. -/
inductive Contains : Json → Json → Prop
  | refl (v : Json) : Contains v v
  | item {items : List Json} {v w : Json} (hv : v ∈ items) (h : Contains v w) :
      Contains (.array items) w
  | member {members : List (String × Json)} {p : String × Json} {w : Json} (hp : p ∈ members)
      (h : Contains p.2 w) : Contains (.object members) w

/-- Integers have 64 bits, the keys of an object are distinct, and arrays and objects are nested no
deeper than `depth`. -/
inductive Shaped : Nat → Json → Prop
  | null (depth : Nat) : Shaped depth .null
  | bool (depth : Nat) (b : Bool) : Shaped depth (.bool b)
  | int (depth : Nat) {n : Int} (hlow : -Nat.pow 2 63 ≤ n) (hhigh : n < Nat.pow 2 64) :
      Shaped depth (.int n)
  | float (depth : Nat) (x : Double) : Shaped depth (.float x)
  | string (depth : Nat) (s : String) : Shaped depth (.string s)
  | array {depth : Nat} {items : List Json} (h : ∀ v ∈ items, Shaped depth v) :
      Shaped (depth + 1) (.array items)
  | object {depth : Nat} {members : List (String × Json)} (hn : (Dict.keys members).Nodup)
      (h : ∀ p ∈ members, Shaped depth p.2) : Shaped (depth + 1) (.object members)

/-- Every double in the value is read from its text as it is. -/
def Exact (v : Json) : Prop :=
  ∀ x, v.Contains (.float x) → parse? (render (.float x)) = some (.float x)

namespace Node

/-- What is written of the value is read as the value, whatever comes next. Two steps for each
character are enough. -/
def Reads (depth : Nat) (v : Json) : Prop :=
  ∀ fuel rest, 2 * v.render.toList.length ≤ fuel → Ends rest →
    ∃ node r, value? fuel (v.render.toList ++ rest) = some (node, r) ∧
      skipSpace r = skipSpace rest ∧ node.toJson? depth = some v

variable {depth : Nat}

theorem reads_null : Reads depth .null := by
  intro fuel rest hf _
  cases fuel with
  | zero => simp [render] at hf
  | succ fuel => exact ⟨.null, rest, rfl, rfl, rfl⟩

theorem reads_bool (b : Bool) : Reads depth (.bool b) := by
  intro fuel rest hf _
  cases fuel with
  | zero => cases b <;> simp [render] at hf
  | succ fuel => cases b <;> exact ⟨.bool _, rest, rfl, rfl, rfl⟩

theorem quote_append (s : String) (t : List Char) :
    (quote s).toList ++ t = '"' :: (s.toList.flatMap escape ++ '"' :: t) := by
  simp [quote]

theorem value?_quote (s : String) (fuel : Nat) (rest : List Char) :
    value? (fuel + 1) ((quote s).toList ++ rest) = some (.string (some s), rest) := by
  rw [quote_append, value?, skipSpace_cons rfl]
  simp only [stringRest?_escaped, Option.map_some, String.ofList_toList]

theorem reads_string (s : String) : Reads depth (.string s) := by
  intro fuel rest hf _
  cases fuel with
  | zero => simp [render, quote] at hf
  | succ fuel => exact ⟨_, rest, value?_quote s fuel rest, rfl, rfl⟩

theorem skipSpace_append {s rest : List Char} (h : skipSpace s ≠ []) :
    skipSpace (s ++ rest) = skipSpace s ++ rest := by
  have hs : (s.dropWhile isSpace).isEmpty = false := List.isEmpty_eq_false_iff.mpr h
  rw [skipSpace, List.dropWhile_append, hs]
  rfl

theorem skipSpace_append_of_nil {s : List Char} (h : skipSpace s = []) (rest : List Char) :
    skipSpace (s ++ rest) = skipSpace rest := by
  have hs : (s.dropWhile isSpace).isEmpty := List.isEmpty_iff.mpr h
  rw [skipSpace, List.dropWhile_append, if_pos hs]
  rfl

/-- A value whose text is read as a number is read whatever comes next. -/
theorem reads_number {v : Json} {n : Numeral} {r : List Char}
    (h : numeral? (skipSpace v.render.toList) = some (n, r)) (hspace : skipSpace r = [])
    (hv : n.value? = some v) : Reads depth v := by
  intro fuel rest hf hr
  have hne : skipSpace v.render.toList ≠ [] := by
    intro hs
    simp [hs, numeral?, digits1?, digits] at h
  cases fuel with
  | zero =>
    -- No fuel is given for no text, which is no number.
    have hnil : v.render.toList = [] := List.length_eq_zero_iff.mp (by omega)
    exact absurd (by rw [hnil]; rfl) hne
  | succ fuel =>
    refine ⟨.number n, r ++ rest, ?_, ?_, hv⟩
    · rw [value?_eq_number_iff, skipSpace_append hne]
      exact numeral?_append hr h
    · exact skipSpace_append_of_nil hspace rest

theorem reads_int {n : Int} (hlow : -Nat.pow 2 63 ≤ n) (hhigh : n < Nat.pow 2 64) :
    Reads depth (.int n) := by
  have htext : numeral? (skipSpace (render (.int n)).toList) = some (.ofInt n, []) := by
    show numeral? (skipSpace (toString n).toList) = _
    rw [skipSpace_of_numeral? (numeral?_toString n), numeral?_toString]
  exact reads_number htext rfl (Numeral.value?_ofInt hlow hhigh)

theorem reads_float {x : Double} (h : Json.parse? (render (.float x)) = some (.float x)) :
    Reads depth (.float x) := by
  obtain ⟨node, hnode, hv⟩ := Option.bind_eq_some_iff.mp h
  have hnumber : ∃ n : Numeral, node = .number n ∧ n.value? = some (.float x) := by
    cases node with
    | number n => exact ⟨n, rfl, hv⟩
    | null => cases hv
    | bool => cases hv
    | string s => simp [toJson?] at hv
    | array xs => simp [toJson?] at hv
    | object ms => simp [toJson?] at hv
  obtain ⟨n, rfl, hvalue⟩ := hnumber
  simp only [parse?, Option.bind_eq_bind] at hnode
  obtain ⟨⟨m, r⟩, hread, hend⟩ := Option.bind_eq_some_iff.mp hnode
  obtain ⟨hspace, hm⟩ := Option.ite_none_right_eq_some.mp hend
  obtain rfl := Option.some.inj hm
  exact reads_number (value?_eq_number_iff.mp hread) (List.isEmpty_iff.mp hspace) hvalue

section

variable {fuel : Nat} {t r rest rest' : List Char} {node : Node}

/-- The last item of an array. -/
theorem items?_last (hread : value? fuel t = some (node, r)) (hskip : skipSpace r = ']' :: rest) :
    items? (fuel + 1) t = some ([node], rest) := by
  simp only [items?, hread, hskip, Option.bind_eq_bind, Option.bind_some, Option.pure_def]

/-- An item with others behind it. -/
theorem items?_next {nodes : List Node} (hread : value? fuel t = some (node, r))
    (hskip : skipSpace r = ',' :: rest) (hnext : items? fuel rest = some (nodes, rest')) :
    items? (fuel + 1) t = some (node :: nodes, rest') := by
  simp only [items?, hread, hskip, hnext, Option.bind_eq_bind, Option.bind_some, Option.pure_def]

/-- The last member of an object. -/
theorem members?_last (key : String) (hread : value? fuel t = some (node, r))
    (hskip : skipSpace r = '\x7d' :: rest) :
    members? (fuel + 1) ((quote key).toList ++ ':' :: t) = some ([(some key, node)], rest) := by
  have hcolon : skipSpace (':' :: t) = ':' :: t := skipSpace_cons rfl
  rw [quote_append, members?, skipSpace_cons rfl]
  simp only [stringRest?_escaped, hcolon, hread, hskip, String.ofList_toList, Option.bind_eq_bind,
    Option.bind_some, Option.pure_def]

/-- A member with others behind it. -/
theorem members?_next (key : String) {nodes : List (Option String × Node)}
    (hread : value? fuel t = some (node, r)) (hskip : skipSpace r = ',' :: rest)
    (hnext : members? fuel rest = some (nodes, rest')) :
    members? (fuel + 1) ((quote key).toList ++ ':' :: t) =
      some ((some key, node) :: nodes, rest') := by
  have hcolon : skipSpace (':' :: t) = ':' :: t := skipSpace_cons rfl
  rw [quote_append, members?, skipSpace_cons rfl]
  simp only [stringRest?_escaped, hcolon, hread, hskip, hnext, String.ofList_toList,
    Option.bind_eq_bind, Option.bind_some, Option.pure_def]

end

/-- The items of an array up to its closing bracket. -/
theorem items?_rendered {items : List Json} (hne : items ≠ [])
    (h : ∀ v ∈ items, Reads depth v) (fuel : Nat) (rest : List Char)
    -- One step more than for the characters takes the list apart at its first item.
    (hf : 2 * (",".intercalate (renderItems items)).toList.length + 1 ≤ fuel) :
    ∃ nodes, items? fuel ((",".intercalate (renderItems items)).toList ++ ']' :: rest) =
        some (nodes, rest) ∧ itemsToJson? depth nodes = some items := by
  induction items generalizing fuel with
  | nil => exact absurd rfl hne
  | cons v items ih =>
    obtain ⟨hv, hitems⟩ := List.forall_mem_cons.mp h
    obtain ⟨fuel, rfl⟩ : ∃ n, fuel = n + 1 := ⟨fuel - 1, by omega⟩
    cases items with
    | nil =>
      rw [renderItems, renderItems, String.intercalate_singleton] at hf ⊢
      obtain ⟨node, r, hread, hskip, hvalue⟩ :=
        hv fuel (']' :: rest) (by omega) (ends_cons (by decide) rest)
      rw [skipSpace_cons rfl] at hskip
      exact ⟨[node], items?_last hread hskip, by simp [itemsToJson?, hvalue]⟩
    | cons w items =>
      have htext : (",".intercalate (renderItems (v :: w :: items))).toList =
          v.render.toList ++ ',' :: (",".intercalate (renderItems (w :: items))).toList := by
        simp [renderItems, String.intercalate_cons_cons]
      rw [htext, List.length_append, List.length_cons] at hf
      obtain ⟨nodes, hnext, hvalues⟩ := ih (by simp) hitems fuel (by omega)
      obtain ⟨node, r, hread, hskip, hvalue⟩ := hv fuel
        (',' :: ((",".intercalate (renderItems (w :: items))).toList ++ ']' :: rest)) (by omega)
        (ends_cons (by decide) _)
      rw [skipSpace_cons rfl] at hskip
      refine ⟨node :: nodes, ?_, by simp [itemsToJson?, hvalue, hvalues]⟩
      rw [htext, List.append_assoc, List.cons_append]
      exact items?_next hread hskip hnext

/-- The members of an object up to its closing brace. -/
theorem members?_rendered {members : List (String × Json)} (hne : members ≠ [])
    (h : ∀ p ∈ members, Reads depth p.2) (fuel : Nat) (rest : List Char)
    (hf : 2 * (",".intercalate (renderMembers members)).toList.length + 1 ≤ fuel) :
    ∃ nodes, members? fuel ((",".intercalate (renderMembers members)).toList ++ '\x7d' :: rest) =
        some (nodes, rest) ∧ membersToJson? depth nodes = some members := by
  induction members generalizing fuel with
  | nil => exact absurd rfl hne
  | cons p members ih =>
    obtain ⟨key, v⟩ := p
    obtain ⟨hv, hmembers⟩ := List.forall_mem_cons.mp h
    obtain ⟨fuel, rfl⟩ : ∃ n, fuel = n + 1 := ⟨fuel - 1, by omega⟩
    cases members with
    | nil =>
      have htext : (",".intercalate (renderMembers [(key, v)])).toList =
          (quote key).toList ++ ':' :: v.render.toList := by
        simp [renderMembers]
      rw [htext, List.length_append, List.length_cons] at hf
      obtain ⟨node, r, hread, hskip, hvalue⟩ :=
        hv fuel ('\x7d' :: rest) (by simp only; omega) (ends_cons (by decide) rest)
      rw [skipSpace_cons rfl] at hskip
      refine ⟨[(some key, node)], ?_, by simp [membersToJson?, hvalue]⟩
      rw [htext, List.append_assoc, List.cons_append]
      exact members?_last key hread hskip
    | cons q members =>
      have htext : (",".intercalate (renderMembers ((key, v) :: q :: members))).toList =
          (quote key).toList ++ ':' :: (v.render.toList ++
            ',' :: (",".intercalate (renderMembers (q :: members))).toList) := by
        simp [renderMembers, String.intercalate_cons_cons]
      rw [htext, List.length_append, List.length_cons, List.length_append, List.length_cons] at hf
      obtain ⟨nodes, hnext, hvalues⟩ := ih (by simp) hmembers fuel (by omega)
      obtain ⟨node, r, hread, hskip, hvalue⟩ := hv fuel
        (',' :: ((",".intercalate (renderMembers (q :: members))).toList ++ '\x7d' :: rest))
        (by simp only; omega) (ends_cons (by decide) _)
      rw [skipSpace_cons rfl] at hskip
      refine ⟨(some key, node) :: nodes, ?_, by simp [membersToJson?, hvalue, hvalues]⟩
      rw [htext, List.append_assoc, List.cons_append, List.append_assoc, List.cons_append]
      exact members?_next key hread hskip hnext

theorem skipSpace_skipSpace (s : List Char) : skipSpace (skipSpace s) = skipSpace s :=
  List.dropWhile_idempotent isSpace s

theorem value?_skipSpace (fuel : Nat) (s : List Char) :
    value? fuel (skipSpace s) = value? fuel s := by
  cases fuel with
  | zero => rfl
  | succ fuel => rw [value?, value?, skipSpace_skipSpace]

/-- Items are read where no bracket closes at once. -/
theorem value?_array {fuel : Nat} {t rest : List Char} {nodes : List Node}
    (h : items? fuel t = some (nodes, rest)) :
    value? (fuel + 1) ('[' :: t) = some (.array nodes, rest) := by
  have hsame : items? fuel (skipSpace t) = items? fuel t := by
    cases fuel with
    | zero => rfl
    | succ fuel => rw [items?, items?, value?_skipSpace]
  have hopen : ∀ u, skipSpace t ≠ ']' :: u := by
    intro u hu
    rw [← hsame, hu] at h
    rcases fuel with - | - | fuel
    · cases h
    · cases h
    · cases h
  rw [value?, skipSpace_cons rfl]
  simp only [hsame, h, Option.map_some]

theorem value?_object {fuel : Nat} {t rest : List Char} {nodes : List (Option String × Node)}
    (h : members? fuel t = some (nodes, rest)) :
    value? (fuel + 1) ('\x7b' :: t) = some (.object nodes, rest) := by
  have hsame : members? fuel (skipSpace t) = members? fuel t := by
    cases fuel with
    | zero => rfl
    | succ fuel => rw [members?, members?, skipSpace_skipSpace]
  have hopen : ∀ u, skipSpace t ≠ '\x7d' :: u := by
    intro u hu
    rw [← hsame, hu] at h
    cases fuel with
    | zero => cases h
    | succ fuel => cases h
  rw [value?, skipSpace_cons rfl]
  simp only [hsame, h, Option.map_some]

theorem reads_array {items : List Json} (h : ∀ v ∈ items, Reads depth v) :
    Reads (depth + 1) (.array items) := by
  intro fuel rest hf _
  have htext : (render (.array items)).toList =
      '[' :: ((",".intercalate (renderItems items)).toList ++ [']']) := by
    simp [render]
  rw [htext, List.length_cons, List.length_append] at hf
  obtain ⟨fuel, rfl⟩ : ∃ n, fuel = n + 1 := ⟨fuel - 1, by omega⟩
  by_cases hne : items = []
  · subst hne
    exact ⟨.array [], rest, rfl, rfl, by simp [toJson?, itemsToJson?]⟩
  · obtain ⟨nodes, hread, hvalues⟩ := items?_rendered hne h fuel rest (by omega)
    refine ⟨.array nodes, rest, ?_, rfl, by simp [toJson?, hvalues]⟩
    rw [htext, List.cons_append, List.append_assoc, List.singleton_append]
    exact value?_array hread

theorem reads_object {members : List (String × Json)} (hn : (Dict.keys members).Nodup)
    (h : ∀ p ∈ members, Reads depth p.2) : Reads (depth + 1) (.object members) := by
  intro fuel rest hf _
  have htext : (render (.object members)).toList =
      '\x7b' :: ((",".intercalate (renderMembers members)).toList ++ ['\x7d']) := by
    simp [render]
  rw [htext, List.length_cons, List.length_append] at hf
  obtain ⟨fuel, rfl⟩ : ∃ n, fuel = n + 1 := ⟨fuel - 1, by omega⟩
  by_cases hne : members = []
  · subst hne
    exact ⟨.object [], rest, rfl, rfl, by simp [toJson?, membersToJson?, Dict.ofPairs]⟩
  · obtain ⟨nodes, hread, hvalues⟩ := members?_rendered hne h fuel rest (by omega)
    refine ⟨.object nodes, rest, ?_, rfl, by simp [toJson?, hvalues, Dict.ofPairs_of_nodup hn]⟩
    rw [htext, List.cons_append, List.append_assoc, List.singleton_append]
    exact value?_object hread

end Node

open Node

theorem reads_of_shaped {depth : Nat} {v : Json} (h : Shaped depth v) (hx : v.Exact) :
    Reads depth v := by
  induction h with
  | null => exact reads_null
  | bool _ b => exact reads_bool b
  | int _ hlow hhigh => exact reads_int hlow hhigh
  | float _ x => exact reads_float (hx x (.refl _))
  | string _ s => exact reads_string s
  | array _ ih => exact reads_array fun v hv => ih v hv fun x hc => hx x (.item hv hc)
  | object hn _ ih => exact reads_object hn fun p hp => ih p hp fun x hc => hx x (.member hp hc)

theorem ends_of_skipSpace {s : List Char} (h : skipSpace s = []) : Ends s := by
  intro c hc
  have hspace : isSpace c := List.dropWhile_eq_nil_iff.mp h c (List.mem_of_mem_head? hc)
  simp only [isSpace, Bool.or_eq_true, beq_iff_eq] at hspace
  obtain ((rfl | rfl) | rfl) | rfl := hspace <;> decide

/-- A value whose doubles are read from their texts is read from its own, with any white space
around it. -/
theorem parse?_spaced {v : Json} (h : Shaped maxDepth v) (hx : v.Exact) {before after : List Char}
    (hb : skipSpace before = []) (ha : skipSpace after = []) :
    parse? (String.ofList (before ++ v.render.toList ++ after)) = some v := by
  have hbefore := skipSpace_append_of_nil hb (v.render.toList ++ after)
  obtain ⟨node, r, hread, hspace, hvalue⟩ :=
    reads_of_shaped h hx (2 * (before ++ v.render.toList ++ after).length + 2) after
      (by simp only [List.length_append]; omega) (ends_of_skipSpace ha)
  rw [← value?_skipSpace, ← hbefore, value?_skipSpace, ← List.append_assoc] at hread
  have hend : skipSpace r = [] := hspace.trans ha
  have hnode : Node.parse? (String.ofList (before ++ v.render.toList ++ after)) = some node := by
    simp only [Node.parse?, String.toList_ofList, hread, hend, Option.bind_eq_bind,
      Option.bind_some, List.isEmpty_nil, if_true]
  rw [parse?, hnode, Option.bind_some, hvalue]

theorem parse?_render {v : Json} (h : Shaped maxDepth v) (hx : v.Exact) :
    parse? v.render = some v := by
  have htext : String.ofList ([] ++ v.render.toList ++ []) = v.render := by simp
  exact htext ▸ parse?_spaced h hx rfl rfl

/-- A numeral stands for an integer of 64 bits or for a double. -/
theorem shaped_of_value? {depth : Nat} {n : Numeral} {v : Json} (h : n.value? = some v) :
    Shaped depth v := by
  have hlt := Numeral.gather_lt (by decide : 0 < Nat.pow 2 64) n.whole
  have hscaled : ∀ {y : Option Double}, y.map (fun x => Json.float (Numeral.signed n.negative x)) =
      some v → Shaped depth v := by
    intro y hy
    obtain ⟨x, -, rfl⟩ := Option.map_eq_some_iff.mp hy
    exact .float _ _
  rw [Numeral.value?] at h
  generalize Numeral.gather 0 n.whole = gathered at h hlt
  obtain ⟨whole, rest⟩ := gathered
  simp only at hlt h
  split_ifs at h with hint hpositive hfloat
  · cases h
    exact .int _ (by omega) (by omega)
  · cases h
    exact .float _ _
  · cases h
    have hpow : Nat.pow 2 63 < Nat.pow 2 64 := by decide
    exact .int _ (by omega) (by omega)
  · split at h
    · exact hscaled h
    · split_ifs at h
      · cases h
        exact .float _ _
      · exact hscaled h
      · exact hscaled h

mutual

theorem shaped_of_toJson? (depth : Nat) (v : Json) :
    (node : Node) → node.toJson? depth = some v → Shaped depth v
  | .null, h => by cases h; exact .null _
  | .bool b, h => by cases h; exact .bool _ _
  | .number n, h => shaped_of_value? h
  | .string s, h => by
    obtain ⟨t, -, rfl⟩ := Option.map_eq_some_iff.mp h
    exact .string _ _
  | .array nodes, h => by
    rw [toJson?, Option.ite_none_left_eq_some] at h
    obtain ⟨items, hitems, rfl⟩ := Option.map_eq_some_iff.mp h.2
    obtain ⟨d, rfl⟩ : ∃ d, depth = d + 1 := ⟨depth - 1, by omega⟩
    exact .array (shaped_of_itemsToJson? d items nodes hitems)
  | .object nodes, h => by
    rw [toJson?, Option.ite_none_left_eq_some] at h
    obtain ⟨members, hmembers, rfl⟩ := Option.map_eq_some_iff.mp h.2
    obtain ⟨d, rfl⟩ : ∃ d, depth = d + 1 := ⟨depth - 1, by omega⟩
    exact .object (Dict.nodup_keys_ofPairs members) fun p hp =>
      shaped_of_membersToJson? d members nodes hmembers p (Dict.mem_of_mem_ofPairs hp)

theorem shaped_of_itemsToJson? (depth : Nat) (items : List Json) :
    (nodes : List Node) → itemsToJson? depth nodes = some items → ∀ v ∈ items, Shaped depth v
  | [], h => by cases h; exact nofun
  | node :: nodes, h => by
    simp only [itemsToJson?, Option.bind_eq_bind, Option.bind_eq_some_iff] at h
    obtain ⟨x, hx, rest, hrest, he⟩ := h
    cases he
    exact List.forall_mem_cons.mpr
      ⟨shaped_of_toJson? depth x node hx, shaped_of_itemsToJson? depth rest nodes hrest⟩

theorem shaped_of_membersToJson? (depth : Nat) (members : List (String × Json)) :
    (nodes : List (Option String × Node)) → membersToJson? depth nodes = some members →
      ∀ p ∈ members, Shaped depth p.2
  | [], h => by cases h; exact nofun
  | (key, node) :: nodes, h => by
    simp only [membersToJson?, Option.bind_eq_bind, Option.bind_eq_some_iff] at h
    obtain ⟨key, -, x, hx, rest, hrest, he⟩ := h
    cases he
    exact List.forall_mem_cons.mpr
      ⟨shaped_of_toJson? depth x node hx, shaped_of_membersToJson? depth rest nodes hrest⟩

end

theorem shaped_of_parse? {s : String} {v : Json} (h : parse? s = some v) : Shaped maxDepth v := by
  obtain ⟨node, -, hv⟩ := Option.bind_eq_some_iff.mp h
  exact shaped_of_toJson? _ _ node hv

def half : Double := ⟨0x3fe0000000000000⟩

theorem value?_half : Numeral.value? ⟨false, [0], some [5], none⟩ = some (.float half) := by
  have hscale : Numeral.scale 3 (.ofInt 5) (-1) = some half := by decide +kernel
  simp [Numeral.value?, Numeral.gather, Numeral.signed, hscale]

theorem render_half : render (.float half) = "0.5" := by
  decide +kernel

/-- One half is read from its text as it is. -/
theorem parse?_render_half : parse? (render (.float half)) = some (.float half) := by
  have hnode : Node.parse? "0.5" = some (.number ⟨false, [0], some [5], none⟩) := by rfl
  rw [render_half, parse?, hnode, Option.bind_some, toJson?, value?_half]

end Schemata.Json
