import Mathlib.Data.List.Induction
import Mathlib.Data.List.Nodup

/-!
Lists without their repetitions. Of elements that are alike the first stays, so a list can be
followed element by element from its beginning: the last one either adds itself or changes nothing.
-/
namespace Schemata

variable {α : Type}

theorem eraseDupsBy_loop_append_singleton (p : α → α → Bool) (xs : List α) (x : α) (kept : List α) :
    List.eraseDupsBy.loop p (xs ++ [x]) kept =
      if (List.eraseDupsBy.loop p xs kept).any (p x) then List.eraseDupsBy.loop p xs kept
      else List.eraseDupsBy.loop p xs kept ++ [x] := by
  induction xs generalizing kept with
  | nil => cases h : kept.any (p x) <;> simp [List.eraseDupsBy.loop, h]
  | cons y xs ih =>
    cases h : kept.any (p y) <;>
      simpa only [List.cons_append, List.eraseDupsBy.loop, h] using ih _

/-- A last element stays unless it repeats one of those that have stayed. -/
theorem eraseDupsBy_append_singleton (p : α → α → Bool) (xs : List α) (x : α) :
    (xs ++ [x]).eraseDupsBy p =
      if (xs.eraseDupsBy p).any (p x) then xs.eraseDupsBy p else xs.eraseDupsBy p ++ [x] :=
  eraseDupsBy_loop_append_singleton p xs x []

variable [DecidableEq α]

theorem eraseDups_append_singleton (xs : List α) (x : α) :
    (xs ++ [x]).eraseDups = if x ∈ xs then xs.eraseDups else xs.eraseDups ++ [x] := by
  have hany : xs.eraseDups.any (x == ·) = decide (x ∈ xs) := by
    rw [Bool.eq_iff_iff]
    simp
  rw [List.eraseDups] at hany ⊢
  rw [eraseDupsBy_append_singleton, hany]
  simp [List.eraseDups]

theorem nodup_eraseDups (xs : List α) : xs.eraseDups.Nodup := by
  induction xs using List.reverseRecOn with
  | nil => exact List.nodup_nil
  | append_singleton xs x ih =>
    rw [eraseDups_append_singleton]
    split
    · exact ih
    · rw [← List.concat_eq_append, List.nodup_concat, List.mem_eraseDups]
      exact ⟨‹_›, ih⟩

theorem eraseDups_of_nodup {xs : List α} (h : xs.Nodup) : xs.eraseDups = xs := by
  induction xs using List.reverseRecOn with
  | nil => rfl
  | append_singleton xs x ih =>
    rw [← List.concat_eq_append, List.nodup_concat] at h
    rw [eraseDups_append_singleton, if_neg h.1, ih h.2]

end Schemata
