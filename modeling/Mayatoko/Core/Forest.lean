import Mathlib.Logic.Function.Basic
import Mathlib.Logic.Relation

/-!
# Forests of parents

What is above what, where everything has at most one parent. It is a forest if nothing is above itself.
-/

namespace Mayatoko.Core

open Relation

variable {α : Type*} {parent parent' : α → Option α} {a b x y : α}

/-- `y` is above `x`, by one parent or more. -/
def Above (parent : α → Option α) : α → α → Prop := TransGen fun x y => parent x = some y

def Forest (parent : α → Option α) : Prop := ∀ a, ¬ Above parent a a

/-- A forest in which everything that is there and has a parent keeps it, or loses it, is one still. -/
lemma Forest.mono (h : Forest parent) (hle : ∀ x y, parent' x = some y → parent x = some y) : Forest parent' :=
  fun a ha => h a (TransGen.mono hle a a ha)

lemma not_above_of_root (ha : parent a = none) : ¬ Above parent a y := by
  intro h
  obtain ⟨b, hb, _⟩ := TransGen.head'_iff.mp h
  rw [ha] at hb
  cases hb

/-- What is above something is its parent, or is above its parent. -/
lemma Above.through (h : Above parent a y) (ha : parent a = some b) : b = y ∨ Above parent b y := by
  obtain ⟨c, hc, hrest⟩ := TransGen.head'_iff.mp h
  obtain rfl : b = c := Option.some.inj (ha.symm.trans hc)
  exact (reflTransGen_iff_eq_or_transGen.mp hrest).imp_left Eq.symm

variable [DecidableEq α]

/-- What is above something after `b` has been made the parent of `a` has been above it, or is now through `a`. -/
lemma above_update (hab : ¬ (b = a ∨ Above parent b a)) (h : Above (Function.update parent a (some b)) x y) :
    Above parent x y ∨ (x = a ∨ Above parent x a) ∧ (y = b ∨ Above parent b y) := by
  have hedge {x y : α} (hxy : Function.update parent a (some b) x = some y) :
      x = a ∧ y = b ∨ x ≠ a ∧ parent x = some y := by
    by_cases hx : x = a
    · subst hx
      rw [Function.update_self, Option.some.injEq] at hxy
      exact .inl ⟨rfl, hxy.symm⟩
    · rw [Function.update_of_ne hx] at hxy
      exact .inr ⟨hx, hxy⟩
  induction h with
  | single hxy =>
    obtain ⟨rfl, rfl⟩ | ⟨_, hxy⟩ := hedge hxy
    · exact .inr ⟨.inl rfl, .inl rfl⟩
    · exact .inl (.single hxy)
  | tail _ hyz ih =>
    obtain ⟨rfl, rfl⟩ | ⟨_, hold⟩ := hedge hyz
    · obtain hxy | ⟨hxa, _⟩ := ih
      · exact .inr ⟨.inr hxy, .inl rfl⟩
      · exact .inr ⟨hxa, .inl rfl⟩
    · obtain hxy | ⟨hxa, rfl | hby⟩ := ih
      · exact .inl (hxy.tail hold)
      · exact .inr ⟨hxa, .inr (.single hold)⟩
      · exact .inr ⟨hxa, .inr (hby.tail hold)⟩

/-- A forest stays one where something gets a parent that is not below it. -/
lemma Forest.update (h : Forest parent) (hab : ¬ (b = a ∨ Above parent b a)) :
    Forest (Function.update parent a (some b)) := by
  intro x hx
  obtain hx | ⟨hxa, hbx⟩ := above_update hab hx
  · exact h x hx
  · obtain rfl | hbx := hbx
    · exact hab hxa
    · obtain rfl | hxa := hxa
      · exact hab (.inr hbx)
      · exact hab (.inr (hbx.trans hxa))

/-- To make something a root keeps a forest. -/
lemma Forest.update_none (h : Forest parent) : Forest (Function.update parent a none) := by
  refine h.mono fun x y hxy => ?_
  by_cases hx : x = a
  · subst hx
    rw [Function.update_self] at hxy
    cases hxy
  · rw [Function.update_of_ne hx] at hxy
    exact hxy

end Mayatoko.Core
