import Schemata.Proofs.Success

/-!
When two computations fail alike. They may give values of different types, but where one is refused
so is the other, and for the same reason. Such computations can stand for each other in front of
anything and at every place of a traversal.
-/
namespace Schemata

variable {ε ε' α β γ δ : Type}

/-- The computations fail with the same errors, and so succeed together. -/
def FailAlike (x : Except ε α) (y : Except ε β) : Prop := ∀ e, x = .error e ↔ y = .error e

theorem exists_ok_iff {x : Except ε α} : (∃ a, x = .ok a) ↔ ∀ e, x ≠ .error e := by
  cases x <;> simp

theorem bind_eq_error_iff {x : Except ε α} {f : α → Except ε β} {e : ε} :
    x >>= f = .error e ↔ x = .error e ∨ ∃ a, x = .ok a ∧ f a = .error e := by
  cases x <;> simp

theorem map_eq_error_iff {x : Except ε α} {f : α → β} {e : ε} :
    x.map f = .error e ↔ x = .error e := by
  cases x <;> simp [Except.map]

/-- A traversal fails as it does at the first place where it does not succeed. -/
theorem mapM_eq_error_iff {f : α → Except ε β} {xs : List α} {e : ε} :
    xs.mapM f = .error e ↔
      ∃ before x after, xs = before ++ x :: after ∧ (∀ y ∈ before, ∃ b, f y = .ok b) ∧
        f x = .error e := by
  induction xs with
  | nil => simp [pure, Except.pure]
  | cons x xs ih =>
    rw [List.mapM_cons, bind_eq_error_iff]
    constructor
    · rintro (hx | ⟨y, hy, h⟩)
      · exact ⟨[], x, xs, rfl, by simp, hx⟩
      · obtain hxs | ⟨ys, -, h⟩ := bind_eq_error_iff.mp h
        · obtain ⟨before, z, after, rfl, hb, he⟩ := ih.mp hxs
          exact ⟨x :: before, z, after, rfl, List.forall_mem_cons.mpr ⟨⟨y, hy⟩, hb⟩, he⟩
        · cases h
    · rintro ⟨before, z, after, hs, hb, he⟩
      cases before with
      | nil =>
        obtain ⟨rfl, -⟩ := List.cons.inj hs
        exact .inl he
      | cons w before =>
        obtain ⟨rfl, rfl⟩ := List.cons.inj hs
        obtain ⟨⟨y, hy⟩, hb⟩ := List.forall_mem_cons.mp hb
        have hxs := ih.mpr ⟨before, z, after, rfl, hb, he⟩
        exact .inr ⟨y, hy, bind_eq_error_iff.mpr (.inl hxs)⟩

theorem exists_of_mapM_eq_error {f : α → Except ε β} {xs : List α} {e : ε}
    (h : xs.mapM f = .error e) : ∃ x ∈ xs, f x = .error e := by
  obtain ⟨before, x, after, rfl, -, he⟩ := mapM_eq_error_iff.mp h
  exact ⟨x, by simp, he⟩

theorem mapError_eq_ok_iff {x : Except ε α} {f : ε → ε'} {a : α} :
    x.mapError f = .ok a ↔ x = .ok a := by
  cases x <;> simp [Except.mapError]

theorem mapError_eq_error_iff {x : Except ε α} {f : ε → ε'} {e : ε'} :
    x.mapError f = .error e ↔ ∃ e', x = .error e' ∧ f e' = e := by
  cases x <;> simp [Except.mapError]

theorem mapError_bind (x : Except ε α) (f : α → Except ε β) (g : ε → ε') :
    (x >>= f).mapError g = x.mapError g >>= fun a => (f a).mapError g := by
  cases x <;> rfl

namespace FailAlike

variable {x : Except ε α} {y : Except ε β} {z : Except ε γ}

theorem refl (x : Except ε α) : FailAlike x x := fun _ => .rfl

theorem symm (h : FailAlike x y) : FailAlike y x := fun e => (h e).symm

theorem trans (h : FailAlike x y) (h' : FailAlike y z) : FailAlike x z :=
  fun e => (h e).trans (h' e)

theorem ok (a : α) (b : β) : FailAlike (.ok a : Except ε α) (.ok b : Except ε β) := by
  intro e
  simp

theorem error (e : ε) : FailAlike (.error e : Except ε α) (.error e : Except ε β) := by
  intro e'
  simp

theorem exists_ok_iff (h : FailAlike x y) : (∃ a, x = .ok a) ↔ ∃ b, y = .ok b := by
  rw [Schemata.exists_ok_iff, Schemata.exists_ok_iff]
  exact forall_congr' fun e => not_congr (h e)

/-- What follows must fail alike only behind values that are given. -/
theorem bind (h : FailAlike x y) {f : α → Except ε γ} {g : β → Except ε δ}
    (hfg : ∀ a b, x = .ok a → y = .ok b → FailAlike (f a) (g b)) :
    FailAlike (x >>= f) (y >>= g) := by
  cases x with
  | error e =>
    obtain rfl := (h e).mp rfl
    exact error e
  | ok a =>
    obtain ⟨b, rfl⟩ := h.exists_ok_iff.mp ⟨a, rfl⟩
    exact hfg a b rfl rfl

/-- What cannot fail can be left out behind a computation. -/
theorem bind_ok (x : Except ε α) {f : α → Except ε β} (hf : ∀ a, x = .ok a → ∃ b, f a = .ok b) :
    FailAlike (x >>= f) x := by
  cases x with
  | error e => exact error e
  | ok a =>
    obtain ⟨b, hb⟩ := hf a rfl
    rw [ok_bind, hb]
    exact ok b a

theorem mapM {f : α → Except ε β} {g : α → Except ε γ} {xs : List α}
    (h : ∀ x ∈ xs, FailAlike (f x) (g x)) : FailAlike (xs.mapM f) (xs.mapM g) := by
  induction xs with
  | nil => exact ok _ _
  | cons x xs ih =>
    obtain ⟨hx, hxs⟩ := List.forall_mem_cons.mp h
    rw [List.mapM_cons, List.mapM_cons]
    exact hx.bind fun _ _ _ _ => (ih hxs).bind fun _ _ _ _ => ok _ _

theorem mapError (h : FailAlike x y) (f : ε → ε') : FailAlike (x.mapError f) (y.mapError f) := by
  cases x with
  | error e =>
    obtain rfl := (h e).mp rfl
    exact error (f e)
  | ok a =>
    obtain ⟨b, rfl⟩ := h.exists_ok_iff.mp ⟨a, rfl⟩
    exact ok a b

/-- One computation after another fails as the first or, where that succeeds, as the second. -/
theorem eq_error_iff (h : FailAlike z (x >>= fun _ => y)) (e : ε) :
    z = .error e ↔ x = .error e ∨ ((∃ a, x = .ok a) ∧ y = .error e) := by
  rw [h e, bind_eq_error_iff, exists_and_right]

theorem exists_ok_iff_and (h : FailAlike z (x >>= fun _ => y)) :
    (∃ c, z = .ok c) ↔ (∃ a, x = .ok a) ∧ ∃ b, y = .ok b := by
  rw [h.exists_ok_iff]
  simp only [bind_eq_ok_iff, ← exists_and_left, ← exists_and_right]

end FailAlike

end Schemata
