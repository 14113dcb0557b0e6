import Schemata.Proofs.Names.LowerCamel

/-!
What becomes of a name as it is written in snake case. Cutting it into words loses no character, so
it is the same letters and digits, now all in lower case, with underscores put in between. A name in
lower camel case has a letter in front of it afterwards too.
-/
namespace Schemata

/-! ### Lower case -/

theorem toNat_toLower_of_isUpper {c : Char} (h : c.isUpper) : c.toLower.toNat = c.toNat + 32 := by
  have hv : c.val ≥ 'A'.val ∧ c.val ≤ 'Z'.val := decide_eq_true_iff.mp h
  obtain ⟨-, hle⟩ := isUpper_iff.mp h
  have hval : c.toLower.val = c.val + 32 := congrArg Char.val (dif_pos hv)
  rw [← Char.toNat_val, hval, UInt32.toNat_add, Char.toNat_val]
  simp
  omega

theorem toLower_of_isUpper_eq_false {c : Char} (h : c.isUpper = false) : c.toLower = c :=
  dif_neg (decide_eq_false_iff_not.mp h)

/-- A capital becomes a lower case letter, and nothing else becomes anything else. -/
theorem isLower_toLower_or_isDigit {c : Char} (h : c.isAlphanum) :
    c.toLower.isLower ∨ c.toLower.isDigit := by
  obtain hu | hl := isAlphanum_iff.mp h
  · obtain ⟨hge, hle⟩ := isUpper_iff.mp hu
    rw [isLower_iff, toNat_toLower_of_isUpper hu]
    exact .inl (by omega)
  · have hu : c.isUpper = false := isUpper_eq_false_of_low (by simpa using hl)
    rwa [toLower_of_isUpper_eq_false hu]

namespace Text

theorem isAscii_of_isAlphanum {c : Char} (h : c.isAlphanum) : isAscii c := by
  rw [isAlphanum_iff, isUpper_iff, isLower_iff, isDigit_iff] at h
  simp only [isAscii, decide_eq_true_eq, UInt32.lt_iff_toNat_lt]
  change c.toNat < 128
  omega

theorem isAlphanumeric_of_isAlphanum {c : Char} (h : c.isAlphanum) : isAlphanumeric c := by
  rw [isAlphanumeric, if_pos (isAscii_of_isAlphanum h), h]

theorem lowerWord_of_isAscii {s : List Char} (h : ∀ c ∈ s, isAscii c) :
    lowerWord s = s.map Char.toLower := by
  fun_induction lowerWord s with
  | case1 => rfl
  | case2 => exact absurd (h 'Σ' (.head _)) (by decide)
  | case3 c s _ ih =>
    obtain ⟨hc, hs⟩ := List.forall_mem_cons.mp h
    rw [lowercase_of_isAscii hc, ih hs, List.map_cons, List.singleton_append]

/-! ### Words -/

/-- A text of letters and digits is a single run. -/
theorem runsOf_eq_singleton {s : List Char} (h : ∀ c ∈ s, isAlphanumeric c) (run : List Char) :
    runsOf run s = [run.reverse ++ s] := by
  induction s generalizing run with
  | nil => simp [runsOf]
  | cons c s ih =>
    obtain ⟨hc, hs⟩ := List.forall_mem_cons.mp h
    simp [runsOf, hc, ih hs]

/-- Nothing is lost when a run is cut. -/
theorem flatten_wordsOfRun (w : WordCase) (word : List Char) {s : List Char} (h : s ≠ []) :
    (wordsOfRun w word s).flatten = word.reverse ++ s := by
  fun_induction wordsOfRun w word s with
  | case1 => exact absurd rfl h
  | case2 | case3 | case4 | case5 => simp_all

/-- No word is empty: one that ends before a capital has been begun by another capital. -/
theorem ne_nil_of_mem_wordsOfRun {w : WordCase} {word s v : List Char}
    (hw : w = .upper → word ≠ []) (hv : v ∈ wordsOfRun w word s) : v ≠ [] := by
  fun_induction wordsOfRun w word s with
  | case1 => cases hv
  | case2 c => simp_all
  | case3 _ _ _ _ _ _ ih =>
    obtain rfl | hv := List.mem_cons.mp hv
    · simp
    · exact ih nofun hv
  | case4 _ _ _ _ _ _ _ ih =>
    obtain rfl | hv := List.mem_cons.mp hv
    · simp_all
    · exact ih nofun hv
  | case5 _ word c _ _ _ _ ih => exact ih (fun _ => List.cons_ne_nil c word) hv

theorem words_eq_wordsOfRun {s : List Char} (h : ∀ c ∈ s, c.isAlphanum) :
    words s = wordsOfRun .unknown [] s := by
  simp [words, runsOf_eq_singleton fun c hc => isAlphanumeric_of_isAlphanum (h c hc)]

/-- Letters and digits are cut into words of which none is empty and that are the text again when
put together. -/
theorem words_spec {s : List Char} (h : ∀ c ∈ s, c.isAlphanum) (hs : s ≠ []) :
    (words s).flatten = s ∧ ∀ v ∈ words s, v ≠ [] := by
  rw [words_eq_wordsOfRun h]
  exact ⟨flatten_wordsOfRun _ _ hs, fun v => ne_nil_of_mem_wordsOfRun nofun⟩

theorem mem_of_mem_words {s v : List Char} (h : ∀ c ∈ s, c.isAlphanum) (hs : s ≠ [])
    (hv : v ∈ words s) {c : Char} (hc : c ∈ v) : c ∈ s := by
  rw [← (words_spec h hs).1]
  exact List.mem_flatten_of_mem hv hc

/-! ### Snake case -/

theorem mem_of_mem_intersperse {α : Type} {sep x : α} {xs : List α}
    (h : x ∈ xs.intersperse sep) : x = sep ∨ x ∈ xs := by
  induction xs using List.intersperse.induct with
  | case1 => cases h
  | case2 => exact .inr h
  | case3 y xs hne ih =>
    obtain ⟨z, zs, rfl⟩ := List.exists_cons_of_ne_nil hne
    simp only [List.intersperse_cons_cons, List.mem_cons] at h ih ⊢
    tauto

variable {s : String}

theorem toList_snakeCase (h : ∀ c ∈ s.toList, c.isAlphanum) (hs : s.toList ≠ []) :
    (snakeCase s).toList =
      (((words s.toList).map (·.map Char.toLower)).intersperse ['_']).flatten := by
  have hlower : ∀ v ∈ words s.toList, lowerWord v = v.map Char.toLower := fun v hv =>
    lowerWord_of_isAscii fun c hc => isAscii_of_isAlphanum (h c (mem_of_mem_words h hs hv hc))
  rw [snakeCase, String.toList_ofList, List.map_congr_left hlower]

/-- Nothing but underscores is new. -/
theorem mem_snakeCase (h : ∀ c ∈ s.toList, c.isAlphanum) (hs : s.toList ≠ []) {c : Char}
    (hc : c ∈ (snakeCase s).toList) : c = '_' ∨ ∃ d ∈ s.toList, c = d.toLower := by
  rw [toList_snakeCase h hs] at hc
  obtain ⟨w, hw, hcw⟩ := List.mem_flatten.mp hc
  obtain rfl | hw := mem_of_mem_intersperse hw
  · exact .inl (List.mem_singleton.mp hcw)
  · obtain ⟨v, hv, rfl⟩ := List.mem_map.mp hw
    obtain ⟨d, hd, rfl⟩ := List.mem_map.mp hcw
    exact .inr ⟨d, mem_of_mem_words h hs hv hd, rfl⟩

/-- No underscore comes in front. -/
theorem head_snakeCase (h : ∀ c ∈ s.toList, c.isAlphanum) {c : Char} {rest : List Char}
    (hs : s.toList = c :: rest) : ∃ rest', (snakeCase s).toList = c.toLower :: rest' := by
  have hne : s.toList ≠ [] := by simp [hs]
  obtain ⟨hflat, hwords⟩ := words_spec h hne
  rw [toList_snakeCase h hne]
  match hw : words s.toList with
  | [] =>
    rw [hw] at hflat
    exact absurd hflat.symm hne
  | [] :: vs => exact absurd rfl (hwords [] (by simp [hw]))
  | (d :: v) :: vs =>
    rw [hw, hs] at hflat
    obtain ⟨rfl, -⟩ := List.cons_eq_cons.mp hflat
    cases vs with
    | nil => exact ⟨_, rfl⟩
    | cons _ _ => exact ⟨_, rfl⟩

end Text

namespace Name

/-- What may stand in a name in snake case. -/
def snakeChar (c : Char) : Bool := c.isLower || c.isDigit || c == '_'

/-- A lower case letter in front; lower case letters, digits and underscores only. -/
structure Snake (name : String) : Prop where
  head : ∃ c rest, name.toList = c :: rest ∧ c.isLower
  chars : ∀ c ∈ name.toList, snakeChar c

/-- Only what is in front has to be a letter. -/
theorem Snake.append {s t : String} (hs : Snake s) (ht : t.toList.all snakeChar) :
    Snake (s ++ t) := by
  obtain ⟨c, rest, hn, hc⟩ := hs.head
  refine ⟨⟨c, rest ++ t.toList, by simp [hn], hc⟩, ?_⟩
  rw [String.toList_append]
  exact List.forall_mem_append.mpr ⟨hs.chars, List.all_eq_true.mp ht⟩

theorem Snake.all {s : String} (h : Snake s) : s.toList.all snakeChar :=
  List.all_eq_true.mpr h.chars

/-- Names in lower camel case make names in snake case. -/
theorem LowerCamel.snake {name : String} (h : LowerCamel name.toList) :
    Snake (Text.snakeCase name) := by
  refine ⟨?_, fun c hc => ?_⟩
  · obtain ⟨c, rest, hn, hc⟩ := h.head
    obtain ⟨rest', hs⟩ := Text.head_snakeCase h.alphanum hn
    have hu : c.isUpper = false := isUpper_eq_false_of_low (by simp [hc])
    rw [toLower_of_isUpper_eq_false hu] at hs
    exact ⟨c, rest', hs, hc⟩
  · obtain rfl | ⟨d, hd, rfl⟩ := Text.mem_snakeCase h.alphanum h.ne_nil hc
    · rfl
    · simpa [snakeChar] using Or.inl (isLower_toLower_or_isDigit (h.alphanum d hd))

end Name

end Schemata
