import Mathlib.Algebra.Order.BigOperators.Group.List
import Mathlib.Algebra.Order.Group.MinMax
import Mathlib.Tactic.Abel

/-!
# Lots, oldest first

Amounts come in lots with a label and are taken from the oldest lot that has something left. What is
taken comes from lots with a property only if no other lot with something left is older than them.
-/

namespace Mayatoko.Core

/-- What is left of an amount that came in with a label. -/
structure Lot (κ M : Type*) where
  label : κ
  remaining : M

section

variable {κ M : Type*} [AddCommGroup M]

/-- What is left of the lots whose label meets `p`. -/
def held (p : κ → Bool) (lots : List (Lot κ M)) : M :=
  (lots.map fun lot => if p lot.label then lot.remaining else 0).sum

variable {p q : κ → Bool} {lot : Lot κ M} {lots : List (Lot κ M)}

@[simp] lemma held_nil : held p ([] : List (Lot κ M)) = 0 := rfl

@[simp] lemma held_cons : held p (lot :: lots) = (if p lot.label then lot.remaining else 0) + held p lots := by
  simp [held]

@[simp] lemma held_append {lots' : List (Lot κ M)} : held p (lots ++ lots') = held p lots + held p lots' := by
  simp [held]

lemma held_congr (h : ∀ lot ∈ lots, p lot.label = q lot.label) : held p lots = held q lots := by
  rw [held, held]
  congr 1
  exact List.map_congr_left fun lot hlot => by rw [h lot hlot]

end

section

variable {κ M : Type*} [AddCommGroup M] [LinearOrder M]

/-- Take an amount from the lots in their order. -/
def takeLots : List (Lot κ M) → M → List (Lot κ M)
  | [], _ => []
  | lot :: lots, n =>
    if n ≤ 0 then lot :: lots
    else if lot.remaining ≤ 0 then lot :: takeLots lots n
    else
      let used := min lot.remaining n
      { lot with remaining := lot.remaining - used } :: takeLots lots (n - used)

/-- Nothing is left below zero. -/
def Stocked (lots : List (Lot κ M)) : Prop := ∀ lot ∈ lots, 0 ≤ lot.remaining

/-- Of the lots with something left, those whose label meets `p` are the oldest. -/
def OldestFirst (p : κ → Bool) (lots : List (Lot κ M)) : Prop :=
  lots.Pairwise fun a b => 0 < a.remaining → 0 < b.remaining → p b.label = true → p a.label = true

instance (p : κ → Bool) (lots : List (Lot κ M)) : Decidable (OldestFirst p lots) := by
  unfold OldestFirst
  infer_instance

variable {p q : κ → Bool} {lot : Lot κ M} {lots : List (Lot κ M)} {n : M}

lemma stocked_cons : Stocked (lot :: lots) ↔ 0 ≤ lot.remaining ∧ Stocked lots := by
  simp [Stocked]

lemma takeLots_of_nonpos (h : n ≤ 0) : takeLots lots n = lots := by
  cases lots with
  | nil => rfl
  | cons lot lots => rw [takeLots, if_pos h]

lemma map_label_takeLots : (takeLots lots n).map Lot.label = lots.map Lot.label := by
  induction lots generalizing n with
  | nil => rfl
  | cons lot lots ih =>
    rw [takeLots]
    split_ifs
    · rfl
    · rw [List.map_cons, ih, List.map_cons]
    · dsimp only
      rw [List.map_cons, ih, List.map_cons]

/-- The first lot gives what it can, the others the rest. -/
lemma takeLots_cons (h : 0 ≤ lot.remaining) (hn : 0 ≤ n) : takeLots (lot :: lots) n =
    { lot with remaining := lot.remaining - min lot.remaining n } ::
      takeLots lots (n - min lot.remaining n) := by
  rw [takeLots]
  split_ifs with hzero hempty
  · obtain rfl := le_antisymm hzero hn
    rw [min_eq_right h, sub_zero, sub_zero, takeLots_of_nonpos (le_refl _)]
  · have hnone : lot.remaining = 0 := le_antisymm hempty h
    rw [hnone, min_eq_left hn, sub_zero, sub_zero, ← hnone]
  · rfl

variable [IsOrderedAddMonoid M]

lemma Stocked.held_nonneg (h : Stocked lots) : 0 ≤ held p lots := by
  refine List.sum_nonneg fun x hx => ?_
  obtain ⟨lot, hlot, rfl⟩ := List.mem_map.mp hx
  split
  · exact h lot hlot
  · exact le_refl _

lemma Stocked.takeLots (h : Stocked lots) (hn : 0 ≤ n) : Stocked (takeLots lots n) := by
  induction lots generalizing n with
  | nil => exact h
  | cons lot lots ih =>
    obtain ⟨hlot, hlots⟩ := stocked_cons.mp h
    rw [takeLots_cons hlot hn, stocked_cons]
    exact ⟨sub_nonneg.mpr (min_le_left _ _), ih hlots (sub_nonneg.mpr (min_le_right _ _))⟩

/-- Taking leaves no more. -/
lemma Stocked.held_takeLots_le (h : Stocked lots) (hn : 0 ≤ n) :
    held p (Core.takeLots lots n) ≤ held p lots := by
  induction lots generalizing n with
  | nil => exact le_refl _
  | cons lot lots ih =>
    obtain ⟨hlot, hlots⟩ := stocked_cons.mp h
    rw [takeLots_cons hlot hn, held_cons, held_cons]
    refine add_le_add ?_ (ih hlots (sub_nonneg.mpr (min_le_right _ _)))
    split
    · exact sub_le_self _ (le_min hlot hn)
    · exact le_refl _

/-- Where the lots that meet `p` are the oldest, what they hold can be taken from them alone. -/
lemma Stocked.held_takeLots (h : Stocked lots) (hfirst : OldestFirst p lots)
    (hpq : ∀ lot ∈ lots, p lot.label = true → q lot.label = true) (hn : 0 ≤ n)
    (hle : n ≤ held p lots) : held q (Core.takeLots lots n) = held q lots - n := by
  induction lots generalizing n with
  | nil =>
    obtain rfl := le_antisymm hle hn
    exact (sub_zero _).symm
  | cons lot lots ih =>
    obtain ⟨hlot, hlots⟩ := stocked_cons.mp h
    obtain ⟨hbefore, hfirst⟩ := List.pairwise_cons.mp hfirst
    obtain ⟨hlabel, hpq⟩ := List.forall_mem_cons.mp hpq
    have hrest := hlots.held_nonneg (p := p)
    rw [takeLots_cons hlot hn, held_cons, held_cons]
    by_cases hp : p lot.label = true
    · rw [held_cons, if_pos hp] at hle
      have htail : n - min lot.remaining n ≤ held p lots := by
        rcases le_total lot.remaining n with hmin | hmin
        · rw [min_eq_left hmin, sub_le_iff_le_add']
          exact hle
        · rw [min_eq_right hmin, sub_self]
          exact hrest
      dsimp only
      rw [ih hlots hfirst hpq (sub_nonneg.mpr (min_le_right _ _)) htail, if_pos (hlabel hp), if_pos (hlabel hp)]
      abel
    · rw [held_cons, if_neg hp, zero_add] at hle
      rcases hlot.eq_or_lt with hzero | hpos
      · rw [← hzero, min_eq_left hn, sub_zero, sub_zero, ih hlots hfirst hpq hn hle, add_sub]
      · -- a lot that does not meet `p` is live, so that no later one meets it
        have hnone : held p lots = 0 := by
          refine List.sum_eq_zero fun x hx => ?_
          obtain ⟨later, hlater, rfl⟩ := List.mem_map.mp hx
          split_ifs with hlive
          · refine le_antisymm (not_lt.mp fun hleft => ?_) (hlots later hlater)
            exact hp (hbefore later hlater hpos hleft hlive)
          · rfl
        obtain rfl := le_antisymm (hnone ▸ hle) hn
        rw [min_eq_right hlot, sub_zero, sub_zero, takeLots_of_nonpos (le_refl _), sub_zero]

end

end Mayatoko.Core
