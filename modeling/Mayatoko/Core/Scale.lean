import Mathlib.Algebra.Order.Field.Basic
import Mathlib.Algebra.Order.Group.MinMax
import Mathlib.Tactic.Linarith
import Mathlib.Tactic.Ring

/-!
# Progressive scales

A scale charges each piece of an amount at the rate of that piece. The pieces follow each other; one without a
top is the last. What a scale charges rises with the amount, by at most the highest rate.
-/

namespace Mayatoko.Core

variable {K : Type*} [Field K] [LinearOrder K] [IsStrictOrderedRing K]

/-- What the pieces above `bottom` charge: of each piece, what the amount has of it at its rate. -/
def charge (amount : K) : K → List (Option K × K) → K
  | _, [] => 0
  | bottom, (none, rate) :: _ => max 0 (amount - bottom) * rate
  | bottom, (some top, rate) :: pieces => max 0 (min amount top - bottom) * rate + charge amount top pieces

/-- The pieces go up from `bottom`, one without a top is the last, and their rates are from zero to `r`. -/
def Ascends (r : K) : K → List (Option K × K) → Prop
  | _, [] => True
  | _, (none, rate) :: pieces => 0 ≤ rate ∧ rate ≤ r ∧ pieces = []
  | bottom, (some top, rate) :: pieces => 0 ≤ rate ∧ rate ≤ r ∧ bottom < top ∧ Ascends r top pieces

variable {r amount amount' bottom : K} {pieces : List (Option K × K)}

/-- An amount below the pieces is not charged. -/
lemma charge_of_le (h : Ascends r bottom pieces) (hle : amount ≤ bottom) : charge amount bottom pieces = 0 := by
  induction pieces generalizing bottom with
  | nil => rfl
  | cons piece pieces ih =>
    obtain ⟨_ | top, rate⟩ := piece
    · rw [charge, max_eq_left (sub_nonpos.mpr hle), zero_mul]
    · obtain ⟨_, _, htop, hpieces⟩ := h
      rw [charge, ih hpieces (hle.trans htop.le), min_eq_left (hle.trans htop.le),
        max_eq_left (sub_nonpos.mpr hle), zero_mul, add_zero]

/-- What a piece has of an amount, and what is above it. -/
lemma piece_add_above (amount : K) {top : K} (h : bottom ≤ top) :
    max 0 (min amount top - bottom) + max amount top = max amount bottom + (top - bottom) := by
  rcases le_total amount top with htop | htop
  · rw [min_eq_left htop, max_eq_right htop]
    rcases le_total amount bottom with hbottom | hbottom
    · rw [max_eq_left (sub_nonpos.mpr hbottom), max_eq_right hbottom]
      ring
    · rw [max_eq_right (sub_nonneg.mpr hbottom), max_eq_left hbottom]
      ring
  · rw [min_eq_right htop, max_eq_left htop, max_eq_right (sub_nonneg.mpr h), max_eq_left (h.trans htop)]
    ring

/-- The charge rises with the amount, by at most the highest rate. -/
lemma charge_sub_charge (hr : 0 ≤ r) (h : Ascends r bottom pieces) (hle : amount ≤ amount') :
    0 ≤ charge amount' bottom pieces - charge amount bottom pieces ∧
      charge amount' bottom pieces - charge amount bottom pieces ≤
        r * (max amount' bottom - max amount bottom) := by
  have hmax {b : K} : 0 ≤ max amount' b - max amount b := sub_nonneg.mpr (max_le_max_right b hle)
  induction pieces generalizing bottom with
  | nil =>
    rw [charge, charge, sub_self]
    exact ⟨le_rfl, mul_nonneg hr hmax⟩
  | cons piece pieces ih =>
    obtain ⟨_ | top, rate⟩ := piece
    · obtain ⟨hrate, hrate', _⟩ := h
      have hpart (x : K) : max 0 (x - bottom) = max x bottom - bottom := by
        rw [← max_sub_sub_right, sub_self, max_comm]
      have hdiff : charge amount' bottom ((none, rate) :: pieces) -
          charge amount bottom ((none, rate) :: pieces) =
          (max amount' bottom - max amount bottom) * rate := by
        rw [charge, charge, hpart, hpart]
        ring
      rw [hdiff, mul_comm r]
      exact ⟨mul_nonneg hmax hrate, mul_le_mul_of_nonneg_left hrate' hmax⟩
    · obtain ⟨hrate, hrate', htop, hpieces⟩ := h
      obtain ⟨hrest, hrest'⟩ := ih hpieces
      have hpiece : 0 ≤ max 0 (min amount' top - bottom) - max 0 (min amount top - bottom) :=
        sub_nonneg.mpr (max_le_max_left 0 (sub_le_sub_right (min_le_min_right top hle) bottom))
      have hlow := mul_nonneg hpiece hrate
      have hhigh := mul_le_mul_of_nonneg_left hrate' hpiece
      have hamount := piece_add_above amount htop.le
      have hamount' := piece_add_above amount' htop.le
      have hsplit : max amount' bottom - max amount bottom =
          (max 0 (min amount' top - bottom) - max 0 (min amount top - bottom)) +
            (max amount' top - max amount top) := by
        linarith
      rw [charge, charge, hsplit]
      constructor
      · linarith
      · linarith

lemma charge_mono (hr : 0 ≤ r) (h : Ascends r bottom pieces) (hle : amount ≤ amount') :
    charge amount bottom pieces ≤ charge amount' bottom pieces :=
  sub_nonneg.mp (charge_sub_charge hr h hle).1

/-- Above the bottom, the charge of more is at most the highest rate on the difference. -/
lemma charge_le_add (hr : 0 ≤ r) (h : Ascends r bottom pieces) (hbottom : bottom ≤ amount)
    (hle : amount ≤ amount') :
    charge amount' bottom pieces ≤ charge amount bottom pieces + r * (amount' - amount) := by
  have hdiff := (charge_sub_charge hr h hle).2
  rw [max_eq_left hbottom, max_eq_left (hbottom.trans hle)] at hdiff
  linarith

end Mayatoko.Core
