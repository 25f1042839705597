import Mathlib.Data.Rat.Floor

/-!
# Iterations that settle

A map on the integers that rises, and by less than `r < 1` for each unit up to a rounding of one, is iterated
from a start that it does not lower. The steps shrink like the powers of `r` down to what the rounding allows,
and each of them is at least one, so the iteration meets a fixed point after a number of rounds that the first
step bounds.
-/

namespace Mayatoko.Core

/-- From `s` on the map rises, by less than `r` for each unit and one for the rounding, and it does not lower
`s`. -/
structure RisesSlowly (f : ℤ → ℤ) (r : ℚ) (s : ℤ) : Prop where
  mono : ∀ m n, s ≤ m → m ≤ n → f m ≤ f n
  slow : ∀ m n, s ≤ m → m ≤ n → ((f n : ℚ) - f m) < r * (n - m) + 1
  start : s ≤ f s

namespace RisesSlowly

variable {f : ℤ → ℤ} {r : ℚ} {s : ℤ} (h : RisesSlowly f r s)
include h

lemma iterate_le (k : ℕ) : s ≤ f^[k] s ∧ f^[k] s ≤ f^[k + 1] s := by
  induction k with
  | zero => exact ⟨le_rfl, h.start⟩
  | succ k ih =>
    refine ⟨ih.1.trans ih.2, ?_⟩
    rw [Function.iterate_succ_apply', Function.iterate_succ_apply']
    exact h.mono _ _ ih.1 ih.2

lemma iterate_mono {j k : ℕ} (hjk : j ≤ k) : f^[j] s ≤ f^[k] s := by
  induction k, hjk using Nat.le_induction with
  | base => exact le_rfl
  | succ k _ ih => exact ih.trans (h.iterate_le k).2

/-- The steps shrink like the powers of `r`, up to the rounding. -/
lemma step_le (hr : 0 ≤ r) (hr' : r < 1) (k : ℕ) :
    (f^[k + 1] s : ℚ) - f^[k] s ≤ r ^ k * (f s - s) + 1 / (1 - r) := by
  have hpos : 0 < 1 - r := by linarith
  have hlast : 1 / (1 - r) = r * (1 / (1 - r)) + 1 := by
    field_simp
    ring
  induction k with
  | zero =>
    have hround : 0 ≤ 1 / (1 - r) := by positivity
    rw [pow_zero, one_mul]
    exact le_add_of_nonneg_right hround
  | succ k ih =>
    have hslow := h.slow _ _ (h.iterate_le k).1 (h.iterate_le k).2
    rw [← Function.iterate_succ_apply' f, ← Function.iterate_succ_apply' f] at hslow
    calc (f^[k + 1 + 1] s : ℚ) - f^[k + 1] s
        ≤ r * (f^[k + 1] s - f^[k] s) + 1 := hslow.le
      _ ≤ r * (r ^ k * (f s - s) + 1 / (1 - r)) + 1 := by
          have hmul := mul_le_mul_of_nonneg_left ih hr
          linarith
      _ = r ^ (k + 1) * (f s - s) + (r * (1 / (1 - r)) + 1) := by ring
      _ = r ^ (k + 1) * (f s - s) + 1 / (1 - r) := by rw [← hlast]

/-- From one round on, all that is still added is bounded by the step of that round. -/
lemma growth_le (hr : 0 ≤ r) (hr' : r < 1) (j k : ℕ) :
    (f^[j + k] s : ℚ) - f^[j] s ≤ ((f^[j + 1] s : ℚ) - f^[j] s + 1) / (1 - r) := by
  have hpos : 0 < 1 - r := by linarith
  have hstep : (0 : ℚ) ≤ (f^[j + 1] s : ℚ) - f^[j] s := by
    have hle := (h.iterate_le j).2
    have hcast : (f^[j] s : ℚ) ≤ f^[j + 1] s := by exact_mod_cast hle
    linarith
  induction k with
  | zero =>
    rw [add_zero, sub_self]
    positivity
  | succ k ih =>
    have hslow := h.slow _ _ (h.iterate_le j).1 (h.iterate_mono (Nat.le_add_right j k))
    rw [← Function.iterate_succ_apply' f, ← Function.iterate_succ_apply' f] at hslow
    have hmul := mul_le_mul_of_nonneg_left ih hr
    have hsplit : ((f^[j + 1] s : ℚ) - f^[j] s + 1) / (1 - r) =
        ((f^[j + 1] s : ℚ) - f^[j] s + 1) + r * (((f^[j + 1] s : ℚ) - f^[j] s + 1) / (1 - r)) := by
      field_simp
      ring
    rw [hsplit, ← add_assoc]
    linarith

/-- While nothing settles, every round adds at least one. -/
lemma le_growth {j k : ℕ} (hmoves : ∀ i < j + k, f (f^[i] s) ≠ f^[i] s) : (k : ℤ) ≤ f^[j + k] s - f^[j] s := by
  induction k with
  | zero =>
    rw [add_zero, sub_self]
    rfl
  | succ k ih =>
    have hlast : f^[j + k + 1] s ≠ f^[j + k] s := by
      rw [Function.iterate_succ_apply']
      exact hmoves (j + k) (by omega)
    have hle := (h.iterate_le (j + k)).2
    have hrest := ih fun i hi => hmoves i (by omega)
    rw [← add_assoc]
    push_cast
    omega

/-- The iteration settles in the given number of rounds: `j` rounds in which the first step shrinks, and one for
each unit that can still be added after them. -/
theorem exists_settled (hr : 0 ≤ r) (hr' : r < 1) {j n : ℕ}
    (hn : j + (r ^ j * (f s - s) + 1 / (1 - r) + 1) / (1 - r) < n) : ∃ k < n, f (f^[k] s) = f^[k] s := by
  by_contra hcon
  have hmoves : ∀ i < n, f (f^[i] s) ≠ f^[i] s := fun i hi hfix => hcon ⟨i, hi, hfix⟩
  have hpos : 0 < 1 - r := by linarith
  have hfirst : (0 : ℚ) ≤ f s - s := by
    have hcast : (s : ℚ) ≤ f s := by exact_mod_cast h.start
    linarith
  have hrest : 0 ≤ (r ^ j * (f s - s) + 1 / (1 - r) + 1) / (1 - r) := by positivity
  have hj : j ≤ n := by
    have hcast : (j : ℚ) ≤ n := by linarith
    exact_mod_cast hcast
  obtain ⟨k, rfl⟩ := Nat.exists_eq_add_of_le hj
  have hlow : (k : ℚ) ≤ f^[j + k] s - f^[j] s := by exact_mod_cast h.le_growth hmoves
  have hhigh := h.growth_le hr hr' j k
  have hstep := h.step_le hr hr' j
  have hbound : ((f^[j + 1] s : ℚ) - f^[j] s + 1) / (1 - r) ≤
      (r ^ j * (f s - s) + 1 / (1 - r) + 1) / (1 - r) := by
    apply div_le_div_of_nonneg_right _ hpos.le
    linarith
  push_cast at hn
  linarith

end RisesSlowly

end Mayatoko.Core
