import Schemata.Name
import Schemata.Proofs.Characters
import Mathlib.Data.List.Chain

/-!
What names may be declared, character by character. The pattern for the names of formats and fields
accepts exactly lower camel case: a lower case letter in front, letters and digits only, and no
capital next to another. The pattern for accessor names accepts letters, digits and underscores
without a digit in front. Such names hold no separators and no white space.
-/
namespace Schemata

open Text

namespace Text.Pattern

@[simp] theorem accepts_never (s : List Char) : Pattern.never.accepts s = false := by
  induction s with
  | nil => rfl
  | cons c s ih => rw [accepts_cons, after, ih]

end Text.Pattern

namespace Name

/-! ### Lower camel case -/

/-- A lower case letter in front, letters and digits only, no capital next to another. -/
structure LowerCamel (name : List Char) : Prop where
  head : ∃ c rest, name = c :: rest ∧ c.isLower
  alphanum : ∀ c ∈ name, c.isAlphanum
  humps : name.IsChain fun c d => ¬ (c.isUpper ∧ d.isUpper)

/-- What may stand within a hump. -/
def low : Pattern := .one fun c => c.isLower || c.isDigit

def hump : Pattern := .seq (.one Char.isUpper) (.some low)

/-- What can follow a letter or digit of the first hump. -/
def afterFirst : Pattern := .seq (.many low) (.seq (.many hump) (.optional (.one Char.isUpper)))

/-- What can follow a letter or digit of a later hump. -/
def afterLow : Pattern := .seq (.seq (.many low) (.many hump)) (.optional (.one Char.isUpper))

/-- What can follow a capital: it begins a hump or ends the name. -/
def afterCapital : Pattern :=
  .either (.seq (.seq (.seq low (.many low)) (.many hump)) (.optional (.one Char.isUpper))) .empty

theorem after_declared (c : Char) :
    declared.after c = if c.isLower then afterFirst else .never := by
  by_cases h : c.isLower <;>
    simp [declared, afterFirst, hump, low, Pattern.after, Pattern.nullable, Pattern.join, h]

/-- Within a hump, the first or a later one, a letter or digit goes on and a capital begins anew. -/
theorem after_within {p : Pattern} (hp : p = afterFirst ∨ p = afterLow) (c : Char) :
    p.after c =
      if c.isLower || c.isDigit then p else if c.isUpper then afterCapital else .never := by
  by_cases hl : (c.isLower || c.isDigit) = true
  · have hu := isUpper_eq_false_of_low hl
    obtain rfl | rfl := hp <;>
      simp [afterFirst, afterLow, hump, low, Pattern.after, Pattern.nullable, Pattern.join,
        Pattern.union, Pattern.some, Pattern.optional, hl, hu]
  · by_cases hu : c.isUpper = true <;> obtain rfl | rfl := hp <;>
      simp [afterFirst, afterLow, afterCapital, hump, low, Pattern.after, Pattern.nullable,
        Pattern.join, Pattern.union, Pattern.some, Pattern.optional, hl, hu]

theorem after_afterCapital (c : Char) :
    afterCapital.after c = if c.isLower || c.isDigit then afterLow else .never := by
  by_cases hl : (c.isLower || c.isDigit) = true <;>
    simp [afterCapital, afterLow, hump, low, Pattern.after, Pattern.nullable, Pattern.join,
      Pattern.union, Pattern.optional, hl]

/-- The patterns for what can stand behind a character. -/
inductive Behind : Char → Pattern → Prop where
  | first {c : Char} (h : c.isUpper = false) : Behind c afterFirst
  | low {c : Char} (h : c.isUpper = false) : Behind c afterLow
  | capital {c : Char} (h : c.isUpper = true) : Behind c afterCapital

theorem Behind.nullable {c : Char} {p : Pattern} (h : Behind c p) : p.nullable = true := by
  cases h <;> rfl

/-- A letter or digit can follow, but no capital a capital. -/
theorem Behind.after {c d : Char} {p : Pattern} (h : Behind c p) :
    if d.isAlphanum ∧ ¬ (c.isUpper ∧ d.isUpper) then Behind d (p.after d)
    else p.after d = .never := by
  by_cases hl : (d.isLower || d.isDigit) = true
  · have hu := isUpper_eq_false_of_low hl
    rw [if_pos ⟨isAlphanum_of_low hl, by simp [hu]⟩]
    cases h with
    | first _ => rw [after_within (.inl rfl), if_pos hl]; exact .first hu
    | low _ => rw [after_within (.inr rfl), if_pos hl]; exact .low hu
    | capital _ => rw [after_afterCapital, if_pos hl]; exact .low hu
  · have ha : d.isAlphanum ↔ d.isUpper := by
      rw [isAlphanum_iff]
      exact or_iff_left (by simpa using hl)
    cases h with
    | first hc =>
      rw [after_within (.inl rfl), if_neg hl]
      by_cases hu : d.isUpper <;> simp [ha, hu, hc, Behind.capital]
    | low hc =>
      rw [after_within (.inr rfl), if_neg hl]
      by_cases hu : d.isUpper <;> simp [ha, hu, hc, Behind.capital]
    | capital hc => simp [after_afterCapital, hl, ha, hc]

/-- The run of the pattern over what stands behind a character. -/
theorem Behind.accepts_iff {c : Char} {p : Pattern} (h : Behind c p) (rest : List Char) :
    p.accepts rest ↔
      (∀ d ∈ rest, d.isAlphanum) ∧ (c :: rest).IsChain fun c d => ¬ (c.isUpper ∧ d.isUpper) := by
  induction rest generalizing c p with
  | nil => simp [h.nullable]
  | cons d rest ih =>
    have hd := h.after (d := d)
    rw [Pattern.accepts_cons, List.isChain_cons_cons, List.forall_mem_cons]
    split at hd
    · rename_i ha
      rw [ih hd]
      tauto
    · rename_i ha
      rw [hd, Pattern.accepts_never]
      tauto

theorem accepts_declared_iff (name : List Char) : declared.accepts name ↔ LowerCamel name := by
  cases name with
  | nil =>
    refine ⟨fun h => absurd h (by decide), fun h => ?_⟩
    obtain ⟨c, rest, hn, -⟩ := h.head
    cases hn
  | cons c rest =>
    rw [Pattern.accepts_cons, after_declared]
    by_cases hc : c.isLower
    · have hu : c.isUpper = false := isUpper_eq_false_of_low (by simp [hc])
      have ha : c.isAlphanum := isAlphanum_of_low (by simp [hc])
      rw [if_pos hc, (Behind.first hu).accepts_iff]
      constructor
      · rintro ⟨hr, hh⟩
        exact ⟨⟨c, rest, rfl, hc⟩, List.forall_mem_cons.mpr ⟨ha, hr⟩, hh⟩
      · intro h
        exact ⟨(List.forall_mem_cons.mp h.alphanum).2, h.humps⟩
    · rw [if_neg hc, Pattern.accepts_never]
      refine ⟨fun h => absurd h (by simp), fun h => ?_⟩
      obtain ⟨d, rest', hn, hd⟩ := h.head
      cases hn
      exact absurd hd hc

namespace LowerCamel

variable {name : List Char}

theorem ne_nil (h : LowerCamel name) : name ≠ [] := by
  obtain ⟨c, rest, rfl, -⟩ := h.head
  exact List.cons_ne_nil c rest

/-- No separator occurs in the name. -/
theorem not_mem (h : LowerCamel name) {c : Char} (hc : c.isAlphanum = false) : c ∉ name := by
  intro hm
  rw [h.alphanum c hm] at hc
  cases hc

theorem isBlank_eq_false (h : LowerCamel name) {c : Char} (hc : c ∈ name) : isBlank c = false :=
  isBlank_eq_false_of_isAlphanum (h.alphanum c hc)

end LowerCamel

/-- A name that a format or a field can have: in lower camel case, and short enough in the
database. -/
structure Declarable (name : String) : Prop where
  camel : LowerCamel name.toList
  length : (column name).utf8ByteSize ≤ maxLength

/-- Why a declared name is refused. Its characters are looked at before its length. -/
theorem checkDeclared_eq_error_iff (kind : Kind) (name : String) (fault : Fault) :
    checkDeclared kind name = .error fault ↔
      (name = "" ∧ fault = .empty kind) ∨
        (name ≠ "" ∧ ¬ LowerCamel name.toList ∧ fault = .notLowerCamelCase kind name) ∨
        (LowerCamel name.toList ∧ maxLength < (column name).utf8ByteSize ∧
          fault = .tooLong kind name) := by
  have hd : declared.accepts name.toList = true ↔ LowerCamel name.toList := accepts_declared_iff _
  unfold checkDeclared
  split
  · rename_i he
    obtain rfl : name = "" := by simpa using he
    have hl : ¬ LowerCamel [] := fun hl => hl.ne_nil rfl
    simp [hl, eq_comm]
  rename_i he
  have hn : name ≠ "" := by simpa using he
  split
  · rename_i ha
    have hl : ¬ LowerCamel name.toList := by
      rw [← hd]
      simpa using ha
    simp [hn, hl, eq_comm]
  rename_i ha
  have hl : LowerCamel name.toList := hd.mp (by simpa using ha)
  split
  · rename_i hlong
    simp [hn, hl, hlong, eq_comm]
  · rename_i hshort
    simp [hn, hl, hshort]

theorem checkDeclared_eq_ok_iff (kind : Kind) (name : String) :
    checkDeclared kind name = .ok () ↔ Declarable name := by
  have hfault := checkDeclared_eq_error_iff kind name
  constructor
  · intro h
    simp only [h, reduceCtorEq, false_iff] at hfault
    have hn : name ≠ "" := fun hn => hfault _ (.inl ⟨hn, rfl⟩)
    have hl : LowerCamel name.toList := by
      by_contra hl
      exact hfault _ (.inr (.inl ⟨hn, hl, rfl⟩))
    exact ⟨hl, Nat.not_lt.mp fun hlong => hfault _ (.inr (.inr ⟨hl, hlong, rfl⟩))⟩
  · intro h
    cases hc : checkDeclared kind name with
    | ok _ => rfl
    | error fault =>
      obtain ⟨rfl, -⟩ | ⟨-, hl, -⟩ | ⟨-, hlong, -⟩ := (hfault fault).mp hc
      · exact absurd rfl h.camel.ne_nil
      · exact absurd h.camel hl
      · exact absurd h.length (Nat.not_le.mpr hlong)

/-! ### Accessor names -/

/-- Letters, digits and underscores, no digit in front. -/
structure FunctionName (name : List Char) : Prop where
  ne_nil : name ≠ []
  head : ∀ c ∈ name.head?, ¬ c.isDigit
  chars : ∀ c ∈ name, c.isAlphanum ∨ c = '_'

/-- Repetitions of a class of characters are texts over the class. -/
theorem accepts_many_one (p : Char → Bool) (s : List Char) :
    (Pattern.many (.one p)).accepts s = s.all p := by
  induction s with
  | nil => rfl
  | cons c s ih =>
    cases h : p c with
    | true => simpa [Pattern.after, Pattern.join, h] using ih
    | false => simp [Pattern.after, Pattern.join, h]

/-- In front of an accessor name stands what may stand anywhere in it, digits apart. -/
theorem functionFront_iff {c : Char} :
    (c.isAlpha || c == '_') = true ↔ (c.isAlphanum ∨ c = '_') ∧ ¬ c.isDigit := by
  by_cases hu : c = '_'
  · subst hu
    decide
  · have hne : (c == '_') = false := by simpa using hu
    rw [hne, Bool.or_false, isAlpha_iff, isAlphanum_iff, isDigit_iff, isUpper_iff, isLower_iff]
    constructor
    · intro h
      exact ⟨.inl (by omega), by omega⟩
    · rintro ⟨h, hn⟩
      have h := h.resolve_right hu
      omega

theorem accepts_function_cons (c : Char) (rest : List Char) :
    function.accepts (c :: rest) =
      ((c.isAlpha || c == '_') && rest.all fun d => d.isAlphanum || d == '_') := by
  rw [← accepts_many_one]
  cases h : c.isAlpha || c == '_' <;>
    simp [function, Pattern.after, Pattern.nullable, Pattern.join, h]

theorem accepts_function_iff (name : List Char) : function.accepts name ↔ FunctionName name := by
  cases name with
  | nil => exact ⟨fun h => absurd h (by decide), fun h => absurd rfl h.ne_nil⟩
  | cons c rest =>
    have hr : rest.all (fun d => d.isAlphanum || d == '_') = true ↔
        ∀ d ∈ rest, d.isAlphanum ∨ d = '_' := by
      simp
    rw [accepts_function_cons, Bool.and_eq_true, functionFront_iff, hr]
    constructor
    · rintro ⟨⟨hw, hd⟩, hs⟩
      exact ⟨List.cons_ne_nil c rest, by simpa using hd, List.forall_mem_cons.mpr ⟨hw, hs⟩⟩
    · intro h
      obtain ⟨hw, hs⟩ := List.forall_mem_cons.mp h.chars
      exact ⟨⟨hw, h.head c rfl⟩, hs⟩

theorem checkFunction_eq_ok_iff (name : String) :
    checkFunction name = .ok () ↔ FunctionName name.toList := by
  have hf : function.accepts name.toList = true ↔ FunctionName name.toList :=
    accepts_function_iff _
  unfold checkFunction
  split
  · rename_i he
    have hn : name.toList = [] := by simpa using he
    exact ⟨nofun, fun h => absurd hn h.ne_nil⟩
  split
  · rename_i _ ha
    rw [← hf]
    simpa using ha
  · rename_i _ ha
    rw [← hf]
    simpa using ha

theorem checkGenerated_eq_ok_iff (kind : Kind) (identifier : String) :
    checkGenerated kind identifier = .ok () ↔ identifier.utf8ByteSize ≤ maxLength := by
  unfold checkGenerated
  split <;> simp <;> omega

end Name

end Schemata
