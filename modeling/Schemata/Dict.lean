/-!
Lists of pairs that serve as dictionaries in order of first insertion. A key that is written again
keeps its place and takes the new value.
-/
namespace Schemata.Dict

variable {α : Type}

/-- Writes a key: in place if it is present, at the end otherwise. -/
def insert (d : List (String × α)) (key : String) (value : α) : List (String × α) :=
  match d with
  | [] => [(key, value)]
  | (k, v) :: rest => if k = key then (key, value) :: rest else (k, v) :: insert rest key value

def ofPairs (pairs : List (String × α)) : List (String × α) :=
  pairs.foldl (fun d p => insert d p.1 p.2) []

/-- The value of the first pair with the key. -/
def find? (d : List (String × α)) (key : String) : Option α :=
  match d with
  | [] => none
  | (k, v) :: rest => if k = key then some v else find? rest key

def keys (d : List (String × α)) : List String := d.map (·.1)

@[simp] theorem insert_nil (key : String) (value : α) : insert [] key value = [(key, value)] := rfl

/-- A present key keeps the keys as they are, a new one comes last. -/
theorem keys_insert (d : List (String × α)) (key : String) (value : α) :
    keys (insert d key value) = if key ∈ keys d then keys d else keys d ++ [key] := by
  induction d with
  | nil => simp [keys]
  | cons p rest ih =>
    by_cases h : p.1 = key
    · simp [insert, keys, h]
    · simp only [keys] at ih
      by_cases hm : key ∈ rest.map (·.1) <;> simp_all [insert, keys, Ne.symm h]

theorem find?_insert (d : List (String × α)) (key k : String) (value : α) :
    find? (insert d key value) k = if k = key then some value else find? d k := by
  induction d with
  | nil => simp [find?, eq_comm]
  | cons p rest ih =>
    by_cases h : p.1 = key
    · by_cases hk : key = k
      · simp [insert, find?, h, hk]
      · simp [insert, find?, h, hk, Ne.symm hk]
    · by_cases hk : p.1 = k
      · have hne : ¬ k = key := fun e => h (hk.trans e)
        simp [insert, find?, hk, hne]
      · simp [insert, find?, h, hk, ih]

/-- What the first dictionary does not have is looked up in the second. -/
@[simp] theorem find?_append (d e : List (String × α)) (k : String) :
    find? (d ++ e) k = (find? d k).or (find? e k) := by
  induction d with
  | nil => rfl
  | cons p d ih =>
    rw [List.cons_append, find?, find?, ih]
    split <;> rfl

/-- The first pair whose key becomes `k`. -/
theorem find?_map_key (g : String → String) (d : List (String × α)) (k : String) :
    find? (d.map fun p => (g p.1, p.2)) k = (d.find? fun p => decide (g p.1 = k)).map (·.2) := by
  induction d with
  | nil => rfl
  | cons p d ih =>
    by_cases h : g p.1 = k
    · simp [find?, h]
    · simpa [find?, h] using ih

theorem find?_eq_none_iff {d : List (String × α)} {k : String} :
    find? d k = none ↔ k ∉ keys d := by
  induction d with
  | nil => simp [find?, keys]
  | cons p d ih =>
    by_cases h : p.1 = k
    · simp [find?, keys, h]
    · simpa [find?, keys, h, Ne.symm h] using ih

/-- Where keys are distinct every pair is found. -/
theorem find?_eq_some_iff {d : List (String × α)} (hn : (keys d).Nodup) {k : String} {v : α} :
    find? d k = some v ↔ (k, v) ∈ d := by
  induction d with
  | nil => simp [find?]
  | cons p d ih =>
    obtain ⟨key, value⟩ := p
    obtain ⟨hm, hn⟩ := List.nodup_cons.mp hn
    by_cases h : key = k
    · have hk : (k, v) ∉ d := fun hd => hm (List.mem_map.mpr ⟨(k, v), hd, h.symm⟩)
      simp [find?, h, hk, eq_comm]
    · simpa [find?, h, Ne.symm h] using ih hn

/-- Where keys are distinct their order does not count. -/
theorem find?_of_perm {d e : List (String × α)} (hp : d.Perm e) (hn : (keys d).Nodup)
    (k : String) : find? d k = find? e k := by
  have he : (keys e).Nodup := (hp.map _).nodup_iff.mp hn
  refine Option.ext fun v => ?_
  rw [find?_eq_some_iff hn, find?_eq_some_iff he, hp.mem_iff]

/-- What is written later hides what was there. -/
theorem find?_foldl_insert (pairs d : List (String × α)) (k : String) :
    find? (pairs.foldl (fun d p => insert d p.1 p.2) d) k =
      (find? pairs.reverse k).or (find? d k) := by
  induction pairs generalizing d with
  | nil => rfl
  | cons p pairs ih =>
    rw [List.foldl_cons, ih, find?_insert, List.reverse_cons, find?_append, Option.or_assoc]
    by_cases hk : k = p.1 <;> simp [find?, hk, eq_comm]

/-- Of the pairs with one key the last counts. -/
theorem find?_ofPairs (pairs : List (String × α)) (k : String) :
    find? (ofPairs pairs) k = find? pairs.reverse k := by
  rw [ofPairs, find?_foldl_insert]
  simp [find?]

/-- A new key comes last. -/
theorem insert_of_not_mem {d : List (String × α)} {key : String} (h : key ∉ keys d) (value : α) :
    insert d key value = d ++ [(key, value)] := by
  induction d with
  | nil => rfl
  | cons p d ih =>
    obtain ⟨hne, hm⟩ := not_or.mp fun he => h (List.mem_cons.mpr he)
    rw [insert, if_neg (Ne.symm hne), ih hm, List.cons_append]

theorem foldl_insert_of_nodup {d pairs : List (String × α)} (hn : (keys (d ++ pairs)).Nodup) :
    pairs.foldl (fun d p => insert d p.1 p.2) d = d ++ pairs := by
  induction pairs generalizing d with
  | nil => exact (List.append_nil d).symm
  | cons p pairs ih =>
    have hp : p.1 ∉ keys d := by
      rw [keys, List.map_append, List.nodup_append] at hn
      exact fun hm => hn.2.2 _ hm _ (.head _) rfl
    rw [List.foldl_cons, insert_of_not_mem hp, ih (by simpa using hn), List.append_assoc,
      List.singleton_append]

/-- Pairs of distinct keys are a dictionary as they stand. -/
theorem ofPairs_of_nodup {pairs : List (String × α)} (hn : (keys pairs).Nodup) :
    ofPairs pairs = pairs :=
  foldl_insert_of_nodup hn

theorem mem_of_mem_insert {d : List (String × α)} {key : String} {value : α} {p : String × α}
    (h : p ∈ insert d key value) : p = (key, value) ∨ p ∈ d := by
  induction d with
  | nil => exact List.mem_cons.mp h
  | cons q d ih =>
    rw [insert] at h
    split at h
    · exact (List.mem_cons.mp h).imp_right (.tail _)
    · obtain rfl | hd := List.mem_cons.mp h
      · exact .inr (.head _)
      · exact (ih hd).imp_right (.tail _)

/-- A dictionary has nothing but the pairs it is made of. -/
theorem mem_of_mem_ofPairs {pairs : List (String × α)} {p : String × α} (h : p ∈ ofPairs pairs) :
    p ∈ pairs := by
  have hmem : ∀ d : List (String × α), p ∈ pairs.foldl (fun d p => insert d p.1 p.2) d →
      p ∈ d ∨ p ∈ pairs := by
    clear h
    induction pairs with
    | nil => exact fun d => .inl
    | cons q pairs ih =>
      intro d hp
      obtain hd | hp := ih _ hp
      · obtain rfl | hd := mem_of_mem_insert hd
        · exact .inr (.head _)
        · exact .inl hd
      · exact .inr (.tail _ hp)
  exact (hmem [] h).resolve_left nofun

theorem nodup_keys_insert {d : List (String × α)} (hn : (keys d).Nodup) (key : String)
    (value : α) : (keys (insert d key value)).Nodup := by
  rw [keys_insert]
  split
  next => exact hn
  next hnew =>
    refine List.nodup_append.mpr ⟨hn, by simp, ?_⟩
    rintro k hk _ hkey rfl
    exact hnew (List.mem_singleton.mp hkey ▸ hk)

/-- The keys of a dictionary are distinct. -/
theorem nodup_keys_ofPairs (pairs : List (String × α)) : (keys (ofPairs pairs)).Nodup := by
  have hn : ∀ d : List (String × α), (keys d).Nodup →
      (keys (pairs.foldl (fun d p => insert d p.1 p.2) d)).Nodup := by
    induction pairs with
    | nil => exact fun d hd => hd
    | cons q pairs ih => exact fun d hd => ih _ (nodup_keys_insert hd _ _)
  exact hn [] .nil

end Schemata.Dict
