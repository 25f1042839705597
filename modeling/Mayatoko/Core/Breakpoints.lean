import Mathlib.Algebra.BigOperators.Group.List.Basic
import Mathlib.Algebra.Order.Ring.Int
import Mathlib.Data.List.Chain
import Mathlib.Data.List.Sort

/-!
# Breakpoints

A list of increasing breakpoints cuts the range from the first to the last of them into pieces, each from one
point up to the next. The pieces follow one another, cover the range, and no breakpoint lies within one.
-/

namespace Mayatoko.Core

variable {α : Type*}

/-- Each breakpoint with the next one. -/
def pieces (l : List α) : List (α × α) := l.zip l.tail

@[simp] lemma pieces_cons_cons (a b : α) (l : List α) : pieces (a :: b :: l) = (a, b) :: pieces (b :: l) := rfl

/-- A piece starts where the one before it ends. -/
lemma isChain_pieces (l : List α) : (pieces l).IsChain fun p q => p.2 = q.1 := by
  induction l with
  | nil => exact .nil
  | cons a l ih =>
    match l with
    | [] => exact .nil
    | [b] => exact .singleton _
    | b :: c :: l => exact .cons_cons rfl ih

variable {l : List α}

lemma mem_of_mem_pieces {p : α × α} (h : p ∈ pieces l) : p.1 ∈ l ∧ p.2 ∈ l :=
  ⟨(List.of_mem_zip h).1, List.mem_of_mem_tail (List.of_mem_zip h).2⟩

/-- The lengths of the pieces add up to that of the range. -/
lemma sum_pieces (f : α → ℤ) (a : α) (l : List α) :
    ((pieces (a :: l)).map fun p => f p.2 - f p.1).sum = f ((a :: l).getLast (List.cons_ne_nil a l)) - f a := by
  induction l generalizing a with
  | nil => simp [pieces]
  | cons b l ih =>
    rw [pieces_cons_cons, List.map_cons, List.sum_cons, ih b, List.getLast_cons (List.cons_ne_nil b l)]
    change f b - f a + _ = _
    omega

variable [LinearOrder α]

lemma lt_of_mem_pieces (h : l.Pairwise (· < ·)) {p : α × α} (hp : p ∈ pieces l) : p.1 < p.2 := by
  induction l with
  | nil => cases hp
  | cons a l ih =>
    obtain ⟨ha, hl⟩ := List.pairwise_cons.mp h
    cases l with
    | nil => cases hp
    | cons b l =>
      obtain rfl | hp := List.mem_cons.mp hp
      · exact ha b List.mem_cons_self
      · exact ih hl hp

/-- No breakpoint lies within a piece. -/
lemma le_or_le_of_mem_pieces (h : l.Pairwise (· < ·)) {p : α × α} (hp : p ∈ pieces l) {x : α}
    (hx : x ∈ l) : x ≤ p.1 ∨ p.2 ≤ x := by
  induction l with
  | nil => cases hp
  | cons a l ih =>
    obtain ⟨ha, hl⟩ := List.pairwise_cons.mp h
    cases l with
    | nil => cases hp
    | cons b l =>
      obtain rfl | hrest := List.mem_cons.mp hp
      · obtain rfl | hx := List.mem_cons.mp hx
        · exact .inl le_rfl
        · obtain rfl | hx := List.mem_cons.mp hx
          · exact .inr le_rfl
          · exact .inr ((List.pairwise_cons.mp hl).1 x hx).le
      · obtain rfl | hx := List.mem_cons.mp hx
        · exact .inl (ha p.1 (mem_of_mem_pieces hrest).1).le
        · exact ih hl hrest hx

/-- A range starts with the least breakpoint and ends with the greatest. -/
lemma exists_eq_cons (h : l.Pairwise (· < ·)) {a b : α} (ha : a ∈ l) (hleast : ∀ x ∈ l, a ≤ x)
    (hb : b ∈ l) (hgreatest : ∀ x ∈ l, x ≤ b) :
    ∃ rest, l = a :: rest ∧ (a :: rest).getLast (List.cons_ne_nil a rest) = b := by
  cases l with
  | nil => cases ha
  | cons c rest =>
    obtain rfl : a = c := by
      obtain heq | hmem := List.mem_cons.mp ha
      · exact heq
      · exact absurd ((List.pairwise_cons.mp h).1 a hmem) (not_lt.mpr (hleast c List.mem_cons_self))
    refine ⟨rest, rfl, le_antisymm (hgreatest _ (List.getLast_mem _)) ?_⟩
    exact List.Pairwise.rel_getLast (h.imp fun hlt : _ < _ => le_of_lt hlt) hb

/-- Every point of the range lies in a piece. -/
lemma exists_mem_pieces {a : α} (h : (a :: l).Pairwise (· < ·)) {x : α} (ha : a ≤ x)
    (hx : x < (a :: l).getLast (List.cons_ne_nil a l)) : ∃ p ∈ pieces (a :: l), p.1 ≤ x ∧ x < p.2 := by
  induction l generalizing a with
  | nil => exact absurd hx (not_lt.mpr ha)
  | cons b l ih =>
    by_cases hb : b ≤ x
    · rw [List.getLast_cons (List.cons_ne_nil b l)] at hx
      obtain ⟨p, hp, hle, hlt⟩ := ih (List.pairwise_cons.mp h).2 hb hx
      exact ⟨p, List.mem_cons_of_mem _ hp, hle, hlt⟩
    · exact ⟨(a, b), List.mem_cons_self, ha, not_le.mp hb⟩

/-- The pieces lie in the range. -/
lemma range_of_mem_pieces {a : α} (h : (a :: l).Pairwise (· < ·)) {p : α × α}
    (hp : p ∈ pieces (a :: l)) : a ≤ p.1 ∧ p.2 ≤ (a :: l).getLast (List.cons_ne_nil a l) := by
  obtain ⟨hfst, hsnd⟩ := mem_of_mem_pieces hp
  have hle := h.imp (fun hlt : _ < _ => le_of_lt hlt)
  constructor
  · obtain hsame | hmem := List.mem_cons.mp hfst
    · exact hsame.ge
    · exact (List.pairwise_cons.mp hle).1 _ hmem
  · exact List.Pairwise.rel_getLast hle hsnd

/-- A later piece starts where an earlier one ends, or after. -/
lemma pairwise_pieces (h : l.Pairwise (· < ·)) : (pieces l).Pairwise fun p q => p.2 ≤ q.1 := by
  induction l with
  | nil => exact .nil
  | cons a l ih =>
    obtain ⟨_, hl⟩ := List.pairwise_cons.mp h
    cases l with
    | nil => exact .nil
    | cons b l => exact List.pairwise_cons.mpr ⟨fun p hp => (range_of_mem_pieces hl hp).1, ih hl⟩

/-- Two points of a piece are on the same side of a threshold that is a breakpoint. -/
lemma le_iff_of_mem_pieces (h : l.Pairwise (· < ·)) {p : α × α} (hp : p ∈ pieces l) {t x y : α}
    (ht : t ∈ l) (hx : p.1 ≤ x ∧ x < p.2) (hy : p.1 ≤ y ∧ y < p.2) : t ≤ x ↔ t ≤ y := by
  obtain hle | hle := le_or_le_of_mem_pieces h hp ht
  · exact iff_of_true (hle.trans hx.1) (hle.trans hy.1)
  · exact iff_of_false (not_le.mpr (hx.2.trans_le hle)) (not_le.mpr (hy.2.trans_le hle))

end Mayatoko.Core
