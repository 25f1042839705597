import Mathlib.Algebra.BigOperators.Group.List.Basic
import Mathlib.Algebra.Order.Monoid.Defs
import Mathlib.Data.List.Sort
import Mathlib.Order.Bounds.Defs

/-!
# The best of what has come

A place that keeps the best of what has come, by some order. What comes next takes the place exactly if it is at
least as good as what is there, and the place may stay as it is exactly if what is there is at least as good.

`cheapest k l` is what the `k` least elements of a list come to. No other choice of `k` elements comes to
less, and the order of the list does not matter.
-/

namespace Mayatoko.Core

variable {α : Type*} {le : α → α → Prop} {l : List α} {o : Option α} {a : α}

/-- The best of a list, none where it is empty. -/
def Best (le : α → α → Prop) (l : List α) : Option α → Prop
  | none => l = []
  | some a => a ∈ l ∧ ∀ b ∈ l, le a b

lemma best_nil : Best le [] none := rfl

/-- What comes next is the best exactly if it is as good as the best so far. -/
lemma Best.append_self_iff [IsPreorder α le] (h : Best le l o) :
    Best le (l ++ [a]) (some a) ↔ ∀ b, o = some b → le a b := by
  constructor
  · rintro hbest b rfl
    exact hbest.2 b (List.mem_append_left _ h.1)
  · refine fun hle => ⟨List.mem_append_right _ List.mem_cons_self, fun b hb => ?_⟩
    obtain hb | hb := List.mem_append.mp hb
    · cases o with
      | none => exact absurd hb (by rw [show l = [] from h]; exact List.not_mem_nil)
      | some c => exact trans_of le (hle c rfl) (h.2 b hb)
    · rw [List.mem_singleton.mp hb]
      exact refl_of le a

/-- The best so far is the best still exactly if there is one, as good as what comes next. -/
lemma Best.append_iff (h : Best le l o) : Best le (l ++ [a]) o ↔ ∃ b, o = some b ∧ le b a := by
  cases o with
  | none =>
    refine iff_of_false (fun hnil => ?_) ?_
    · exact absurd hnil (List.append_ne_nil_of_right_ne_nil l (List.cons_ne_nil a []))
    · rintro ⟨_, hnone, _⟩
      cases hnone
  | some b =>
    constructor
    · exact fun hbest => ⟨b, rfl, hbest.2 a (List.mem_append_right _ List.mem_cons_self)⟩
    · rintro ⟨c, hc, hle⟩
      obtain rfl := Option.some.inj hc
      refine ⟨List.mem_append_left _ h.1, fun d hd => ?_⟩
      obtain hd | hd := List.mem_append.mp hd
      · exact h.2 d hd
      · exact List.mem_singleton.mp hd ▸ hle

/-- Where what comes next takes the place under a condition, and is no better than something before where it
does not, the place has the best exactly if it is taken by something as good as what was there. -/
lemma Best.replace_iff [IsPreorder α le] {c : Prop} [Decidable c] (h : Best le l o)
    (hkeep : ¬ c → ∃ b ∈ l, le b a) :
    Best le (l ++ [a]) (if c then some a else o) ↔ (c → ∀ b, o = some b → le a b) := by
  by_cases hc : c
  · rw [if_pos hc, h.append_self_iff]
    exact ⟨fun hle _ => hle, fun hle => hle hc⟩
  · rw [if_neg hc, h.append_iff]
    refine iff_of_true ?_ fun hc' => absurd hc' hc
    obtain ⟨b, hb, hba⟩ := hkeep hc
    cases o with
    | none => exact absurd hb (by rw [show l = [] from h]; exact List.not_mem_nil)
    | some d => exact ⟨d, rfl, trans_of le (h.2 b hb) hba⟩

/-- What a sort puts first is the best. -/
lemma best_head_insertionSort [DecidableRel le] [Std.Total le] [IsTrans α le]
    (h : (l.insertionSort le).head? = some a) : Best le l (some a) := by
  have hsorted := List.pairwise_insertionSort le l
  have hperm := List.perm_insertionSort le l
  obtain ⟨rest, hrest⟩ := List.head?_eq_some_iff.mp h
  rw [hrest] at hsorted hperm
  refine ⟨hperm.mem_iff.mp List.mem_cons_self, fun b hb => ?_⟩
  rcases List.mem_cons.mp (hperm.mem_iff.mpr hb) with rfl | hb
  · exact (Std.Total.total b b).elim id id
  · exact List.rel_of_pairwise_cons hsorted hb

/-- The first of the best of what a function makes of the elements of a list. -/
def FirstBest {β : Type*} (le : α → α → Prop) (f : β → Option α) (l : List β) (a : α) : Prop :=
  ∃ before b after, l = before ++ b :: after ∧ f b = some a ∧
    (∀ c ∈ before, ∀ x, f c = some x → ¬ le x a) ∧ ∀ c ∈ after, ∀ x, f c = some x → le a x

variable {β : Type*} {f : β → Option α}

lemma not_firstBest_nil : ¬ FirstBest le f [] a := by
  rintro ⟨before, b, after, hsplit, -⟩
  exact List.append_ne_nil_of_right_ne_nil before (List.cons_ne_nil b after) hsplit.symm

lemma FirstBest.mem {l : List β} (h : FirstBest le f l a) : ∃ b ∈ l, f b = some a := by
  obtain ⟨before, b, after, rfl, hb, -⟩ := h
  exact ⟨b, List.mem_append_right _ List.mem_cons_self, hb⟩

lemma firstBest_cons_none {l : List β} {b : β} (hb : f b = none) :
    FirstBest le f (b :: l) a ↔ FirstBest le f l a := by
  constructor
  · rintro ⟨before, c, after, hsplit, hc, hbefore, hafter⟩
    cases before with
    | nil =>
      cases hsplit
      rw [hb] at hc
      cases hc
    | cons d before =>
      cases hsplit
      exact ⟨before, c, after, rfl, hc, fun x hx => hbefore x (List.mem_cons_of_mem _ hx), hafter⟩
  · rintro ⟨before, c, after, rfl, hc, hbefore, hafter⟩
    refine ⟨b :: before, c, after, rfl, hc, List.forall_mem_cons.mpr ⟨fun x hx => ?_, hbefore⟩, hafter⟩
    rw [hb] at hx
    cases hx

lemma firstBest_cons_some {l : List β} {b : β} {x : α} (hb : f b = some x) : FirstBest le f (b :: l) a ↔
      a = x ∧ (∀ c ∈ l, ∀ y, f c = some y → le x y) ∨ ¬ le x a ∧ FirstBest le f l a := by
  constructor
  · rintro ⟨before, c, after, hsplit, hc, hbefore, hafter⟩
    cases before with
    | nil =>
      cases hsplit
      obtain rfl := Option.mem_unique hb hc
      exact .inl ⟨rfl, hafter⟩
    | cons d before =>
      cases hsplit
      obtain ⟨hfirst, hbefore⟩ := List.forall_mem_cons.mp hbefore
      exact .inr ⟨hfirst x hb, before, c, after, rfl, hc, hbefore, hafter⟩
  · rintro (⟨rfl, hall⟩ | ⟨hnot, before, c, after, rfl, hc, hbefore, hafter⟩)
    · exact ⟨[], b, l, rfl, hb, fun c hc => absurd hc List.not_mem_nil, hall⟩
    · refine ⟨b :: before, c, after, rfl, hc, List.forall_mem_cons.mpr ⟨fun y hy => ?_, hbefore⟩, hafter⟩
      rw [← Option.mem_unique hb hy]
      exact hnot

lemma FirstBest.le_all {l : List β} [Std.Total le] (h : FirstBest le f l a) :
    ∀ c ∈ l, ∀ x, f c = some x → le a x := by
  obtain ⟨before, b, after, rfl, hb, hbefore, hafter⟩ := h
  intro c hc x hx
  rcases List.mem_append.mp hc with hc | hc
  · exact (Std.Total.total x a).resolve_left (hbefore c hc x hx)
  · rcases List.mem_cons.mp hc with rfl | hc
    · rw [← Option.mem_unique hb hx]
      exact (Std.Total.total a a).elim id id
    · exact hafter c hc x hx

/-- A stable sort puts the first of the best first. -/
lemma head_insertionSort_iff [DecidableRel le] [Std.Total le] [IsTrans α le]
    {l : List β} : ((l.filterMap f).insertionSort le).head? = some a ↔ FirstBest le f l a := by
  induction l generalizing a with
  | nil => exact iff_of_false (fun h => absurd h (Option.some_ne_none a).symm) not_firstBest_nil
  | cons b l ih =>
    cases hb : f b with
    | none => rw [List.filterMap_cons_none hb, firstBest_cons_none hb, ih]
    | some x =>
      rw [List.filterMap_cons_some hb, firstBest_cons_some hb, List.insertionSort_cons, ← ih]
      cases hsorted : (l.filterMap f).insertionSort le with
      | nil =>
        have hnone : l.filterMap f = [] := List.length_eq_zero_iff.mp (by
          rw [← List.length_insertionSort le, hsorted, List.length_nil])
        have hall : ∀ c ∈ l, ∀ y, f c = some y → le x y := fun c hc y hy =>
          absurd (List.mem_filterMap.mpr ⟨c, hc, hy⟩) (hnone ▸ List.not_mem_nil)
        simp only [List.orderedInsert_nil, List.head?_cons, List.head?_nil, Option.some.injEq, reduceCtorEq,
          and_false, or_false, and_iff_left hall, eq_comm]
      | cons y rest =>
        have hbest : FirstBest le f l y := ih.mp (by rw [hsorted, List.head?_cons])
        rw [List.orderedInsert_cons]
        split_ifs with hle
        · have hall : ∀ c ∈ l, ∀ z, f c = some z → le x z :=
            fun c hc z hz => trans_of le hle (hbest.le_all c hc z hz)
          simp only [List.head?_cons, Option.some.injEq, and_iff_left hall]
          refine ⟨fun h => .inl h.symm, ?_⟩
          rintro (rfl | ⟨hnot, rfl⟩)
          · rfl
          · exact absurd hle hnot
        · simp only [List.head?_cons, Option.some.injEq]
          constructor
          · rintro rfl
            exact .inr ⟨hle, rfl⟩
          · rintro (⟨rfl, hall⟩ | ⟨_, rfl⟩)
            · obtain ⟨c, hc, hy⟩ := hbest.mem
              exact absurd (hall c hc y hy) hle
            · rfl

/-! ### The cheapest of a list -/

section

variable {α : Type*} [LinearOrder α] {l l' m : List α} {k : ℕ}

/-- The sum of the `k` least elements. -/
def cheapest [AddMonoid α] (k : ℕ) (l : List α) : α := ((l.insertionSort (· ≤ ·)).take k).sum

lemma insertionSort_of_perm (h : l.Perm l') (hl : l.Pairwise (· ≤ ·)) : l'.insertionSort (· ≤ ·) = l :=
  List.Perm.eq_of_pairwise' (List.pairwise_insertionSort _ l') hl ((List.perm_insertionSort _ l').trans h.symm)

lemma cheapest_of_pairwise [AddMonoid α] (h : l.Perm l') (hl : l.Pairwise (· ≤ ·)) :
    cheapest k l' = (l.take k).sum := by
  rw [cheapest, insertionSort_of_perm h hl]

lemma cheapest_congr [AddMonoid α] (h : l.Perm l') : cheapest k l = cheapest k l' := by
  have hsorted := ((List.perm_insertionSort (· ≤ ·) l).trans h)
  rw [cheapest_of_pairwise hsorted (List.pairwise_insertionSort _ l), cheapest]

variable [AddCommMonoid α] [IsOrderedAddMonoid α]

/-- The first elements of a sorted list come to no more than any others. -/
lemma sum_take_le (hl : l.Pairwise (· ≤ ·)) (h : m.Sublist l) : (l.take m.length).sum ≤ m.sum := by
  induction l generalizing m with
  | nil =>
    obtain rfl := List.sublist_nil.mp h
    exact le_rfl
  | cons a l ih =>
    obtain ⟨ha, hl⟩ := List.pairwise_cons.mp hl
    match m, h with
    | [], _ => exact le_rfl
    | b :: m, h =>
      rw [List.length_cons, List.take_succ_cons, List.sum_cons, List.sum_cons]
      -- the element taken first is the least, or not the first of the list
      cases h with
      | cons _ hm =>
        exact add_le_add (ha b (hm.subset List.mem_cons_self)) (ih hl (List.sublist_of_cons_sublist hm))
      | cons_cons _ hm => exact add_le_add le_rfl (ih hl hm)

lemma cheapest_le (h : m.Subperm l) : cheapest m.length l ≤ m.sum := by
  obtain ⟨m', hperm, hsub⟩ := h.trans (List.perm_insertionSort (· ≤ ·) l).symm.subperm
  rw [cheapest, ← hperm.length_eq, ← hperm.sum_eq]
  exact sum_take_le (List.pairwise_insertionSort _ l) hsub

/-- The `k` least elements come to the least that a choice of `k` elements can. -/
theorem isLeast_cheapest (hk : k ≤ l.length) :
    IsLeast {total | ∃ choice : List α, choice.Subperm l ∧ choice.length = k ∧ choice.sum = total}
      (cheapest k l) := by
  constructor
  · refine ⟨(l.insertionSort (· ≤ ·)).take k, ?_, ?_, rfl⟩
    · exact (List.take_sublist k _).subperm.trans (List.perm_insertionSort _ l).subperm
    · rw [List.length_take, List.length_insertionSort, min_eq_left hk]
  · rintro _ ⟨choice, hsub, rfl, rfl⟩
    exact cheapest_le hsub

end

end Mayatoko.Core
