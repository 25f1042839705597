import Mathlib.Algebra.Order.Group.Defs
import Mathlib.Tactic.Abel

/-!
# Settling an amount in parts

A total is settled in parts; parts that are not settled yet reserve some of it. What is left never
counts as negative. A debt is also reduced by returns: as much of a return as is still open is set
off against the debt, and the rest is owed back.
-/

namespace Mayatoko.Core

variable {α : Type*} [AddCommGroup α] [LinearOrder α]

/-- What is left of a total. -/
def rest (total part : α) : α := max 0 (total - part)

lemma rest_nonneg (total part : α) : 0 ≤ rest total part := le_max_left _ _

variable [IsOrderedAddMonoid α]

/-- A positive amount that fits into what is left fits into the total together with the part. -/
lemma add_le_of_le_rest {total part amount : α} (hpos : 0 < amount) (h : amount ≤ rest total part) :
    part + amount ≤ total := by
  rcases le_max_iff.mp h with h | h
  · exact absurd h (not_le.mpr hpos)
  · rwa [add_comm, ← le_sub_iff_add_le]

/-- A total with what has been settled of it and what is reserved. -/
structure Position (α : Type*) where
  (total settled pending : α)

namespace Position

def outstanding (p : Position α) : α := rest p.total p.settled

def available (p : Position α) : α := rest p.outstanding p.pending

/-- An amount that is available is outstanding. -/
lemma le_outstanding {p : Position α} {amount : α} (hpos : 0 < amount) (hpending : 0 ≤ p.pending)
    (h : amount ≤ p.available) : amount ≤ p.outstanding :=
  (le_add_of_nonneg_left hpending).trans (add_le_of_le_rest hpos h)

end Position

/-! ### Debts -/

/-- A debt: what was paid, what was returned, and what of the returns was set off. -/
structure Debt (α : Type*) where
  (total paid returned offset : α)

namespace Debt

/-- What is neither paid nor returned. -/
def openAmount (d : Debt α) : α := rest (d.total - d.returned) d.paid

/-- A payment or a return. -/
inductive Step : Debt α → Debt α → Prop
  | pay {d : Debt α} {amount : α} : 0 < amount → amount ≤ d.openAmount →
      Step d { d with paid := d.paid + amount }
  | credit {d : Debt α} {amount : α} : 0 ≤ amount →
      Step d { d with
        returned := d.returned + amount, offset := d.offset + min amount d.openAmount }

/-- No more has been paid and set off than the total, and no more set off than returned. -/
structure Sound (d : Debt α) : Prop where
  settled : d.paid + d.offset ≤ d.total
  offset_le : d.offset ≤ d.returned

omit [IsOrderedAddMonoid α] in
/-- What is set off is never negative. -/
lemma offset_nonneg {d : Debt α} {amount : α} (h : 0 ≤ amount) : 0 ≤ min amount d.openAmount :=
  le_min h (rest_nonneg _ _)

lemma Step.sound {d d' : Debt α} (hd : d.Sound) (h : Step d d') : d'.Sound := by
  obtain ⟨hsettled, hoffset⟩ := hd
  cases h with
  | @pay amount hpos hle =>
    have hfits := add_le_of_le_rest hpos hle
    refine ⟨?_, hoffset⟩
    calc d.paid + amount + d.offset ≤ d.total - d.returned + d.offset := by gcongr
      _ ≤ d.total - d.returned + d.returned := by gcongr
      _ = d.total := sub_add_cancel _ _
  | @credit amount hnonneg =>
    refine ⟨?_, add_le_add hoffset (min_le_left _ _)⟩
    by_cases hopen : 0 ≤ d.total - d.returned - d.paid
    · have hmin : min amount d.openAmount ≤ d.total - d.returned - d.paid := by
        refine (min_le_right _ _).trans ?_
        rw [openAmount, rest, max_eq_right hopen]
      calc d.paid + (d.offset + min amount d.openAmount)
          ≤ d.paid + (d.returned + (d.total - d.returned - d.paid)) := by gcongr
        _ = d.total := by abel
    · have hmin : min amount d.openAmount = 0 := by
        rw [openAmount, rest, max_eq_left (not_le.mp hopen).le, min_eq_right hnonneg]
      dsimp only
      rwa [hmin, add_zero]

end Debt

end Mayatoko.Core
