import Schemata.Proofs.Names.SnakeCase

/-!
Columns turned back into names. In the snake case of a name its words stand apart, so they can be
read back, each with its first letter as it was and all other letters in lower case. A name comes
back if its words have no capitals but in front. A capital is swallowed by the one before it if only
digits stand between the two and no lower case letter comes right behind it.
-/
namespace Schemata

theorem toUpper_toLower_of_isUpper {c : Char} (h : c.isUpper) : c.toLower.toUpper = c := by
  have hcodes : ∀ n < 91, 65 ≤ n → (Char.ofNat n).toLower.toUpper = Char.ofNat n := by decide
  obtain ⟨hge, hle⟩ := isUpper_iff.mp h
  simpa using hcodes c.toNat (by omega) hge

namespace Text

theorem isLowercase_of_isAlphanum {c : Char} (h : c.isAlphanum) : isLowercase c = c.isLower :=
  if_pos (isAscii_of_isAlphanum h)

theorem isUppercase_of_isAlphanum {c : Char} (h : c.isAlphanum) : isUppercase c = c.isUpper :=
  if_pos (isAscii_of_isAlphanum h)

/-! ### Capitals within words -/

/-- Digits and then a capital that no lower case letter follows. Behind another capital it begins no
word of its own. -/
def Swallowed (s : List Char) : Prop :=
  ∃ digits c rest, s = digits ++ c :: rest ∧ (∀ d ∈ digits, d.isDigit) ∧ c.isUpper ∧
    ∀ d ∈ rest.head?, ¬ d.isLower

/-- A capital of the text swallows the next one. -/
def Merges (s : List Char) : Prop :=
  ∃ front c rest, s = front ++ c :: rest ∧ c.isUpper ∧ Swallowed rest

@[simp] theorem not_swallowed_nil : ¬ Swallowed [] := by
  rintro ⟨digits, c, rest, h, -⟩
  simp at h

theorem swallowed_cons_iff {c : Char} {s : List Char} :
    Swallowed (c :: s) ↔
      (c.isUpper ∧ ∀ d ∈ s.head?, ¬ d.isLower) ∨ (c.isDigit ∧ Swallowed s) := by
  constructor
  · rintro ⟨digits, d, rest, h, hd, hu, hr⟩
    cases digits with
    | nil =>
      obtain ⟨rfl, rfl⟩ := List.cons_eq_cons.mp h
      exact .inl ⟨hu, hr⟩
    | cons e digits =>
      obtain ⟨rfl, rfl⟩ := List.cons_eq_cons.mp h
      obtain ⟨he, hd⟩ := List.forall_mem_cons.mp hd
      exact .inr ⟨he, digits, d, rest, rfl, hd, hu, hr⟩
  · rintro (⟨hu, hr⟩ | ⟨hc, digits, d, rest, rfl, hd, hu, hr⟩)
    · exact ⟨[], c, s, rfl, nofun, hu, hr⟩
    · exact ⟨c :: digits, d, rest, rfl, List.forall_mem_cons.mpr ⟨hc, hd⟩, hu, hr⟩

@[simp] theorem not_merges_nil : ¬ Merges [] := by
  rintro ⟨front, c, rest, h, -⟩
  simp at h

theorem merges_cons_iff {c : Char} {s : List Char} :
    Merges (c :: s) ↔ (c.isUpper ∧ Swallowed s) ∨ Merges s := by
  constructor
  · rintro ⟨front, d, rest, h, hu, hr⟩
    cases front with
    | nil =>
      obtain ⟨rfl, rfl⟩ := List.cons_eq_cons.mp h
      exact .inl ⟨hu, hr⟩
    | cons e front =>
      obtain ⟨-, rfl⟩ := List.cons_eq_cons.mp h
      exact .inr ⟨front, d, rest, rfl, hu, hr⟩
  · rintro (⟨hu, hr⟩ | ⟨front, d, rest, rfl, hu, hr⟩)
    · exact ⟨[], c, s, rfl, hu, hr⟩
    · exact ⟨c :: front, d, rest, rfl, hu, hr⟩

/-- Where a word is being read: its case is unknown only before a letter, and a capital comes
within the word only if the last letter was one. -/
structure Reading (w : WordCase) (word s : List Char) : Prop where
  alphanum : ∀ c ∈ s, c.isAlphanum
  start : word = [] → w = .unknown
  letter : w = .unknown → ∀ c ∈ s.head?, c.isDigit = false
  capital : word ≠ [] → ∀ c ∈ s.head?, c.isUpper → w = .upper

/-- The word has no capital but in front. -/
def Humped (v : List Char) : Prop := ∀ c ∈ v.tail, c.isUpper = false

theorem humped_reverse_cons {c : Char} {word : List Char} :
    Humped (c :: word).reverse ↔ Humped word.reverse ∧ (word ≠ [] → c.isUpper = false) := by
  cases h : word.reverse with
  | nil =>
    obtain rfl : word = [] := by simpa using h
    simp [Humped]
  | cons d rest =>
    have hne : word ≠ [] := by
      rintro rfl
      cases h
    simp [Humped, h, hne, or_imp, forall_and]

theorem WordCase.after_of_isAlphanum {c : Char} (h : c.isAlphanum) (w : WordCase) :
    w.after c = if c.isLower then .lower else if c.isUpper then .upper else w := by
  rw [after, isLowercase_of_isAlphanum h, isUppercase_of_isAlphanum h]

section Reading

variable {w : WordCase} {word rest : List Char} {c d : Char}

theorem Reading.cut (h : Reading w word (c :: d :: rest)) (hd : d.isUpper) :
    Reading .unknown [] (d :: rest) := by
  refine ⟨(List.forall_mem_cons.mp h.alphanum).2, fun _ => rfl, fun _ e he => ?_, nofun⟩
  obtain rfl := Option.some.inj he
  exact isDigit_eq_false_of_isAlpha (.inl hd)

theorem Reading.cut_before (h : Reading w word (c :: d :: rest)) (hd : d.isLower) :
    Reading .unknown [c] (d :: rest) := by
  have hu : d.isUpper = false := isUpper_eq_false_of_low (by simp [hd])
  refine ⟨(List.forall_mem_cons.mp h.alphanum).2, fun _ => rfl, fun _ e he => ?_,
    fun _ e he he' => ?_⟩
  · obtain rfl := Option.some.inj he
    exact isDigit_eq_false_of_isAlpha (.inr hd)
  · obtain rfl := Option.some.inj he
    simp [hu] at he'

theorem Reading.step (h : Reading w word (c :: d :: rest))
    (hcut : ¬ (w.after c = .lower ∧ d.isUpper)) : Reading (w.after c) (c :: word) (d :: rest) := by
  obtain ⟨hc, ha⟩ := List.forall_mem_cons.mp h.alphanum
  have hafter := WordCase.after_of_isAlphanum hc w
  have hknown : w.after c ≠ .unknown := by
    intro hw
    obtain ⟨hu, hl, -⟩ | ⟨-, hl, -⟩ | ⟨hu, hl, hd⟩ := classes_of_isAlphanum hc
    · simp [hafter, hu, hl] at hw
    · simp [hafter, hl] at hw
    · have hw : w = .unknown := by simpa [hafter, hu, hl] using hw
      simpa [hd] using h.letter hw c rfl
  refine ⟨ha, nofun, fun hw => absurd hw hknown, fun _ e he hu => ?_⟩
  obtain rfl := Option.some.inj he
  cases hw : w.after c with
  | unknown => exact absurd hw hknown
  | lower => exact absurd ⟨hw, hu⟩ hcut
  | upper => rfl

end Reading

/-- No word has a capital but in front exactly if no capital is swallowed, be it by one of the text
or by the last letter of the word being read. -/
theorem forall_humped_wordsOfRun_iff {w : WordCase} {word s : List Char} (hs : s ≠ [])
    (h : Reading w word s) :
    (∀ v ∈ wordsOfRun w word s, Humped v) ↔
      Humped word.reverse ∧ ¬ Merges s ∧ (w = .upper → ¬ Swallowed s) := by
  fun_induction wordsOfRun w word s with
  | case1 => exact absurd rfl hs
  | case2 w word c =>
    have hlast : (word ≠ [] → c.isUpper = false) ↔ (w = .upper → c.isUpper = false) := by
      constructor
      · intro hc hw
        exact hc fun hword => by simp [h.start hword] at hw
      · intro hc hne
        by_contra hu
        exact hu (hc (h.capital hne c rfl (Bool.not_eq_false _ ▸ hu)))
    rw [List.forall_mem_singleton, humped_reverse_cons, hlast]
    simp [merges_cons_iff, swallowed_cons_iff]
  | case3 w word c d rest hcut ih =>
    obtain ⟨hc, hrest⟩ := List.forall_mem_cons.mp h.alphanum
    rw [Bool.and_eq_true, decide_eq_true_iff,
      isUppercase_of_isAlphanum (hrest d (.head _))] at hcut
    obtain ⟨hlower, hd⟩ := hcut
    rw [WordCase.after_of_isAlphanum hc] at hlower
    rw [List.forall_mem_cons, ih (List.cons_ne_nil d rest) (h.cut hd), humped_reverse_cons,
      merges_cons_iff (c := c), swallowed_cons_iff (c := c)]
    obtain ⟨hu, hl, -⟩ | ⟨hu, hl, hn⟩ | ⟨hu, hl, hn⟩ := classes_of_isAlphanum hc
    · simp [hu, hl] at hlower
    · simp [Humped, hu, hn]
    · have hw : w = .lower := by simpa [hu, hl] using hlower
      simp [Humped, hu, hw]
  | case4 w word c d rest hcut hlast ih =>
    obtain ⟨hc, hrest⟩ := List.forall_mem_cons.mp h.alphanum
    have hd := hrest d (.head _)
    simp only [Bool.and_eq_true, decide_eq_true_iff, isUppercase_of_isAlphanum hc,
      isLowercase_of_isAlphanum hd] at hlast
    obtain ⟨⟨hw, hu⟩, hl⟩ := hlast
    have hcapital : c.isDigit = false := isDigit_eq_false_of_isAlpha (.inl hu)
    have hlower : ¬ Swallowed (d :: rest) := by
      have hdu : d.isUpper = false := isUpper_eq_false_of_low (by simp [hl])
      have hdn : d.isDigit = false := isDigit_eq_false_of_isAlpha (.inr hl)
      simp [swallowed_cons_iff, hdu, hdn]
    rw [List.forall_mem_cons, ih (List.cons_ne_nil d rest) (h.cut_before hl),
      merges_cons_iff (c := c), swallowed_cons_iff (c := c)]
    simp [Humped, hl, hcapital, hlower]
  | case5 w word c d rest hcut hlast ih =>
    obtain ⟨hc, hrest⟩ := List.forall_mem_cons.mp h.alphanum
    have hd := hrest d (.head _)
    simp only [Bool.and_eq_true, decide_eq_true_iff, isUppercase_of_isAlphanum hd] at hcut
    simp only [Bool.and_eq_true, decide_eq_true_iff, isUppercase_of_isAlphanum hc,
      isLowercase_of_isAlphanum hd] at hlast
    rw [ih (List.cons_ne_nil d rest) (h.step hcut), humped_reverse_cons,
      merges_cons_iff (c := c), swallowed_cons_iff (c := c), WordCase.after_of_isAlphanum hc]
    obtain ⟨hu, hl, hn⟩ | ⟨hu, hl, hn⟩ | ⟨hu, hl, hn⟩ := classes_of_isAlphanum hc
    · by_cases hword : word = []
      · simp [hu, hl, hn, hword, h.start hword, Humped, and_comm]
      -- Within a word a capital stands behind digits and a capital that swallow it.
      · have hw : w = .upper := h.capital hword c rfl hu
        have hd : ¬ d.isLower := fun hl => hlast ⟨⟨hw, hu⟩, hl⟩
        simp [hu, hword, hw, hd]
    · simp [hu, hl, hn]
    · simp [hu, hl, hn]

/-- The first word has the front of the text, and every other word has a capital in front. -/
theorem heads_wordsOfRun (w : WordCase) (word : List Char) {s : List Char} (hs : s ≠ [])
    (hw : w = .upper → word ≠ []) :
    ∃ v vs, wordsOfRun w word s = v :: vs ∧ v.head? = (word.reverse ++ s).head? ∧
      ∀ u ∈ vs, ∃ c ∈ u.head?, isUppercase c := by
  fun_induction wordsOfRun w word s with
  | case1 => exact absurd rfl hs
  | case2 w word c => exact ⟨_, [], rfl, by simp, by simp⟩
  | case3 w word c d rest hcut ih =>
    obtain ⟨v, vs, hv, hhead, hvs⟩ := ih (List.cons_ne_nil d rest) (by simp)
    have hd : isUppercase d := by simp_all
    refine ⟨_, _, rfl, by cases h : word.reverse <;> simp [h], ?_⟩
    rw [hv]
    exact List.forall_mem_cons.mpr ⟨⟨d, hhead, hd⟩, hvs⟩
  | case4 w word c d rest hcut hlast ih =>
    obtain ⟨v, vs, hv, hhead, hvs⟩ := ih (List.cons_ne_nil d rest) (by simp)
    have hlast : w = .upper ∧ isUppercase c := by simp_all
    have hword : word.reverse ≠ [] := by simpa using hw hlast.1
    refine ⟨_, _, rfl, (List.head?_append_of_ne_nil _ hword).symm, ?_⟩
    rw [hv]
    exact List.forall_mem_cons.mpr ⟨⟨c, hhead, hlast.2⟩, hvs⟩
  | case5 w word c d rest hcut hlast ih =>
    simpa using ih (List.cons_ne_nil d rest) fun _ => List.cons_ne_nil c word

/-! ### Words read back -/

theorem runsOf_append_cons {v : List Char} {c : Char} (hv : ∀ d ∈ v, isAlphanumeric d)
    (hc : isAlphanumeric c = false) (run rest : List Char) :
    runsOf run (v ++ c :: rest) = (run.reverse ++ v) :: runsOf [] rest := by
  induction v generalizing run with
  | nil => simp [runsOf, hc]
  | cons d v ih =>
    obtain ⟨hd, hv⟩ := List.forall_mem_cons.mp hv
    simp [runsOf, hd, ih hv]

/-- Words that are joined by underscores are the runs of the text. -/
theorem runsOf_joined {vs : List (List Char)} (hne : vs ≠ [])
    (h : ∀ v ∈ vs, ∀ c ∈ v, isAlphanumeric c) :
    runsOf [] (vs.intersperse ['_']).flatten = vs := by
  induction vs using List.intersperse.induct with
  | case1 => exact absurd rfl hne
  | case2 v =>
    have hv := h v (.head _)
    simpa using runsOf_eq_singleton hv []
  | case3 v vs hvs ih =>
    obtain ⟨hv, hrest⟩ := List.forall_mem_cons.mp h
    obtain ⟨u, us, rfl⟩ := List.exists_cons_of_ne_nil hvs
    rw [List.intersperse_cons_cons, List.flatten_cons, List.flatten_cons, List.singleton_append,
      runsOf_append_cons hv (by decide), ih hvs hrest, List.reverse_nil, List.nil_append]

/-- Without capitals a run is one word. -/
theorem wordsOfRun_of_not_upper {w : WordCase} {word s : List Char} (hs : s ≠ [])
    (h : ∀ c ∈ s, isUppercase c = false) : wordsOfRun w word s = [word.reverse ++ s] := by
  fun_induction wordsOfRun w word s with
  | case1 => exact absurd rfl hs
  | case2 => simp
  | case3 => simp_all
  | case4 => simp_all
  | case5 => simp_all

variable {s : String}

/-- A word in lower case is of lower case letters and digits. -/
theorem low_of_mem_map_toLower {v : List Char} (h : ∀ c ∈ v, c.isAlphanum) {c : Char}
    (hc : c ∈ v.map Char.toLower) : (c.isLower || c.isDigit) = true := by
  obtain ⟨d, hd, rfl⟩ := List.mem_map.mp hc
  simpa using isLower_toLower_or_isDigit (h d hd)

/-- Words in snake case are read back in lower case. -/
theorem words_snakeCase (h : ∀ c ∈ s.toList, c.isAlphanum) (hs : s.toList ≠ []) :
    words (snakeCase s).toList = (words s.toList).map (·.map Char.toLower) := by
  obtain ⟨hflat, hwords⟩ := words_spec h hs
  have hlow : ∀ v ∈ (words s.toList).map (·.map Char.toLower), v ≠ [] ∧
      ∀ c ∈ v, (c.isLower || c.isDigit) = true := by
    intro v hv
    obtain ⟨u, hu, rfl⟩ := List.mem_map.mp hv
    exact ⟨by simpa using hwords u hu, fun c =>
      low_of_mem_map_toLower fun d hd => h d (mem_of_mem_words h hs hu hd)⟩
  have hruns : ∀ v ∈ (words s.toList).map (·.map Char.toLower), ∀ c ∈ v, isAlphanumeric c :=
    fun v hv c hc => isAlphanumeric_of_isAlphanum (isAlphanum_of_low ((hlow v hv).2 c hc))
  have hsingle : ∀ v ∈ (words s.toList).map (·.map Char.toLower),
      wordsOfRun .unknown [] v = [v] := by
    intro v hv
    refine wordsOfRun_of_not_upper (hlow v hv).1 fun c hc => ?_
    have hc := (hlow v hv).2 c hc
    rw [isUppercase_of_isAlphanum (isAlphanum_of_low hc), isUpper_eq_false_of_low hc]
  have hne : (words s.toList).map (·.map Char.toLower) ≠ [] := by
    intro he
    rw [List.map_eq_nil_iff.mp he] at hflat
    exact hs hflat.symm
  rw [toList_snakeCase h hs, words, runsOf_joined hne hruns, List.flatMap_congr hsingle,
    List.flatMap_singleton']

/-- The word with its first character as it is and all others in lower case. -/
def lowerTail : List Char → List Char
  | [] => []
  | c :: rest => c :: rest.map Char.toLower

theorem length_lowerTail (v : List Char) : (lowerTail v).length = v.length := by
  cases v with
  | nil => rfl
  | cons c rest => simp [lowerTail]

theorem lowerTail_eq_self_iff (v : List Char) : lowerTail v = v ↔ Humped v := by
  cases v with
  | nil => simp [lowerTail, Humped]
  | cons c rest =>
    have hrest : rest.map Char.toLower = rest ↔ ∀ d ∈ rest, d.toLower = d := by
      simpa using List.map_inj_left (l := rest) (f := Char.toLower) (g := id)
    rw [lowerTail, List.cons_inj_right, hrest]
    refine forall₂_congr fun d _ => ⟨fun h => ?_, toLower_of_isUpper_eq_false⟩
    by_contra hu
    have hcode := toNat_toLower_of_isUpper (Bool.not_eq_false d.isUpper ▸ hu)
    rw [h] at hcode
    omega

/-- Replacing words by others of their length changes the text exactly if it changes a word. -/
theorem flatten_map_eq_flatten_iff {f : List Char → List Char}
    (hf : ∀ v, (f v).length = v.length) (vs : List (List Char)) :
    (vs.map f).flatten = vs.flatten ↔ ∀ v ∈ vs, f v = v := by
  induction vs with
  | nil => simp
  | cons v vs ih =>
    rw [List.map_cons, List.flatten_cons, List.flatten_cons, List.forall_mem_cons, ← ih]
    exact ⟨fun h => List.append_inj h (hf v), fun ⟨hv, hvs⟩ => by rw [hv, hvs]⟩

theorem lowerWord_map_toLower {v : List Char} (h : ∀ c ∈ v, c.isAlphanum) :
    lowerWord (v.map Char.toLower) = v.map Char.toLower := by
  have hascii : ∀ c ∈ v.map Char.toLower, isAscii c := fun c hc =>
    isAscii_of_isAlphanum (isAlphanum_of_low (low_of_mem_map_toLower h hc))
  have hsame : ∀ c ∈ v.map Char.toLower, c.toLower = c := fun c hc =>
    toLower_of_isUpper_eq_false (isUpper_eq_false_of_low (low_of_mem_map_toLower h hc))
  rw [lowerWord_of_isAscii hascii, List.map_congr_left hsame]
  exact List.map_id' _

/-- A word that begins with a capital comes back capitalized. -/
theorem capitalWord_map_toLower {c : Char} {v : List Char} (hc : c.isUpper)
    (h : ∀ d ∈ c :: v, d.isAlphanum) :
    capitalWord ((c :: v).map Char.toLower) = lowerTail (c :: v) := by
  obtain ⟨ha, hv⟩ := List.forall_mem_cons.mp h
  have hlow : c.toLower.isAlphanum :=
    isAlphanum_of_low (by simpa using isLower_toLower_or_isDigit ha)
  rw [List.map_cons, capitalWord, uppercase_of_isAscii (isAscii_of_isAlphanum hlow),
    toUpper_toLower_of_isUpper hc, lowerWord_map_toLower hv]
  rfl

instance decidableSwallowed : (s : List Char) → Decidable (Swallowed s)
  | [] => isFalse not_swallowed_nil
  | _ :: s =>
    have := decidableSwallowed s
    -- The instance for the head alone: those for all characters try each of them.
    have : Decidable (∀ d ∈ s.head?, ¬ d.isLower) := s.head?.decidableForallMem
    decidable_of_iff' _ swallowed_cons_iff

instance decidableMerges : (s : List Char) → Decidable (Merges s)
  | [] => isFalse not_merges_nil
  | _ :: s =>
    have := decidableMerges s
    decidable_of_iff' _ merges_cons_iff

end Text

namespace Name

open Text

variable {name : String}

/-- The words of a name come back from its column with no capitals but in front. -/
theorem LowerCamel.toList_ofColumn_column (h : LowerCamel name.toList) :
    (ofColumn (column name)).toList = ((words name.toList).map lowerTail).flatten := by
  obtain ⟨c, rest, hn, hc⟩ := h.head
  obtain ⟨first, later, hwords, hfirst, hlater⟩ :=
    heads_wordsOfRun .unknown [] h.ne_nil nofun
  rw [← words_eq_wordsOfRun h.alphanum] at hwords
  have halpha : ∀ v ∈ first :: later, ∀ c ∈ v, c.isAlphanum := fun v hv c hc =>
    h.alphanum c (mem_of_mem_words h.alphanum h.ne_nil (hwords ▸ hv) hc)
  obtain ⟨hf, hl⟩ := List.forall_mem_cons.mp halpha
  have hfront : lowerWord (first.map Char.toLower) = lowerTail first := by
    obtain ⟨v, rfl⟩ : ∃ v, first = c :: v := by
      rw [← List.head?_eq_some_iff, hfirst, hn]
      rfl
    have hu : c.isUpper = false := isUpper_eq_false_of_low (by simp [hc])
    rw [lowerWord_map_toLower hf, List.map_cons, toLower_of_isUpper_eq_false hu, lowerTail]
  have hback : ∀ v ∈ later, capitalWord (v.map Char.toLower) = lowerTail v := by
    intro v hv
    obtain ⟨d, hd, hu⟩ := hlater v hv
    obtain ⟨u, rfl⟩ := List.head?_eq_some_iff.mp hd
    have hu : d.isUpper := isUppercase_of_isAlphanum (hl _ hv d (.head _)) ▸ hu
    exact capitalWord_map_toLower hu (hl _ hv)
  have hsnake := words_snakeCase h.alphanum h.ne_nil
  rw [hwords, List.map_cons] at hsnake
  have hothers : (later.map (·.map Char.toLower)).map capitalWord = later.map lowerTail := by
    rw [List.map_map]
    exact List.map_congr_left hback
  rw [ofColumn, column, lowerCamelCase, hsnake, hwords]
  simp only [String.toList_ofList, List.map_cons, List.flatten_cons, hfront, List.flatMap_def,
    hothers]

theorem LowerCamel.ofColumn_column_eq_iff (h : LowerCamel name.toList) :
    ofColumn (column name) = name ↔ ¬ Merges name.toList := by
  have hread : Reading .unknown [] name.toList := by
    refine ⟨h.alphanum, fun _ => rfl, fun _ d hd => ?_, nofun⟩
    obtain ⟨c, rest, hn, hc⟩ := h.head
    rw [hn] at hd
    obtain rfl := Option.some.inj hd
    exact isDigit_eq_false_of_isAlpha (.inr hc)
  have hflat : (words name.toList).flatten = name.toList := (words_spec h.alphanum h.ne_nil).1
  calc ofColumn (column name) = name
      ↔ ((words name.toList).map lowerTail).flatten = (words name.toList).flatten := by
        rw [← String.toList_inj, h.toList_ofColumn_column, hflat]
    _ ↔ ∀ v ∈ words name.toList, lowerTail v = v := flatten_map_eq_flatten_iff length_lowerTail _
    _ ↔ ∀ v ∈ wordsOfRun .unknown [] name.toList, Humped v := by
        simp only [words_eq_wordsOfRun h.alphanum, lowerTail_eq_self_iff]
    _ ↔ ¬ Merges name.toList := by
        rw [forall_humped_wordsOfRun_iff h.ne_nil hread]
        simp [Humped]

/-- A declared name comes back from its column exactly if none of its capitals is swallowed by
another, and no two declared names without swallowed capitals have the same column. -/
theorem column_tells_name (kind : Kind) (name : String) (h : checkDeclared kind name = .ok ()) :
    (ofColumn (column name) = name ↔ ¬ Merges name.toList) ∧
      ∀ (kind' : Kind) (other : String), checkDeclared kind' other = .ok () →
        ¬ Merges name.toList → ¬ Merges other.toList → column name = column other →
          name = other := by
  have hback := ((checkDeclared_eq_ok_iff kind name).mp h).camel.ofColumn_column_eq_iff
  refine ⟨hback, fun kind' other h' hn ho hc => ?_⟩
  have hother := ((checkDeclared_eq_ok_iff kind' other).mp h').camel.ofColumn_column_eq_iff
  calc name = ofColumn (column name) := (hback.mpr hn).symm
    _ = ofColumn (column other) := by rw [hc]
    _ = other := hother.mpr ho

/-- A lower case letter behind the second capital makes it begin a word. -/
theorem column_tells_name_aB1Cd :
    checkDeclared .field "aB1Cd" = .ok () ∧ ofColumn (column "aB1Cd") = "aB1Cd" ∧
      ∀ other, checkDeclared .field other = .ok () → ¬ Merges other.toList →
        column other = "a_b1_cd" → other = "aB1Cd" := by
  have h : checkDeclared .field "aB1Cd" = .ok () := by decide +kernel
  have hm : ¬ Merges "aB1Cd".toList := by decide +kernel
  obtain ⟨hback, hinj⟩ := column_tells_name .field "aB1Cd" h
  refine ⟨h, hback.mpr hm, fun other ho hmo hc => (hinj .field other ho hm hmo ?_).symm⟩
  rw [hc]
  decide +kernel

/-- Two names that may be declared have one column, and one of them does not come back from it. -/
theorem not_column_tells_name_aB1C :
    checkDeclared .field "aB1C" = .ok () ∧ checkDeclared .field "aB1c" = .ok () ∧
      column "aB1C" = "a_b1c" ∧ column "aB1c" = "a_b1c" ∧
      ofColumn (column "aB1C") ≠ "aB1C" := by
  decide +kernel

end Name

end Schemata
