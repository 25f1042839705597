import Mathlib.Tactic.Common

/-!
# Computations that may throw

Inversion rules for `Except`: what it means that a computation returns a value.
-/

namespace Mayatoko.Core

variable {ε α β : Type}

@[simp] lemma bind_eq_ok {x : Except ε α} {f : α → Except ε β} {b : β} :
    x >>= f = .ok b ↔ ∃ a, x = .ok a ∧ f a = .ok b := by
  cases x with
  | error e => simp [bind, Except.bind]
  | ok a => simp [bind, Except.bind]

@[simp] lemma pure_eq_ok {a b : α} : (pure a : Except ε α) = .ok b ↔ a = b := by
  simp [pure, Except.pure]

@[simp] lemma throw_ne_ok {e : ε} {a : α} : ¬ (throw e : Except ε α) = .ok a := by
  intro h
  cases h

@[simp] lemma ite_eq_ok {c : Prop} [Decidable c] {x y : Except ε α} {a : α} :
    (if c then x else y) = .ok a ↔ c ∧ x = .ok a ∨ ¬ c ∧ y = .ok a := by
  by_cases h : c <;> simp [h]

lemma forM_eq_ok {f : β → Except ε Unit} {l : List β} {u : Unit} :
    l.forM f = .ok u ↔ ∀ x ∈ l, f x = .ok () := by
  induction l with
  | nil => simp [pure, Except.pure]
  | cons x xs ih =>
    change f x >>= (fun _ => xs.forM f) = .ok u ↔ _
    rw [bind_eq_ok, List.forall_mem_cons, ← ih]
    constructor
    · rintro ⟨_, hx, hxs⟩
      exact ⟨hx, hxs⟩
    · rintro ⟨hx, hxs⟩
      exact ⟨(), hx, hxs⟩

lemma filterMapM_eq_ok {f : α → Except ε (Option β)} {l : List α} {bs : List β} : l.filterMapM f = .ok bs ↔
      (∀ a ∈ l, ∃ o, f a = .ok o) ∧ l.filterMap (fun a => (f a).toOption.join) = bs := by
  induction l generalizing bs with
  | nil => simp [pure, Except.pure]
  | cons a l ih =>
    rw [List.filterMapM_cons, List.forall_mem_cons, List.filterMap_cons]
    cases ha : f a with
    | error e =>
      refine iff_of_false (fun h => ?_) fun h => ?_
      · cases h
      · obtain ⟨⟨⟨o, ho⟩, _⟩, _⟩ := h
        cases ho
    | ok o =>
      have hok : ∃ o', (Except.ok o : Except ε (Option β)) = .ok o' := ⟨o, rfl⟩
      rw [and_iff_right hok]
      cases o with
      | none => exact ih
      | some b =>
        change l.filterMapM f >>= (fun bs => pure (b :: bs)) = .ok bs ↔
          _ ∧ b :: l.filterMap (fun a => (f a).toOption.join) = bs
        simp only [bind_eq_ok, pure_eq_ok, ih]
        constructor
        · rintro ⟨_, ⟨hall, rfl⟩, rfl⟩
          exact ⟨hall, rfl⟩
        · rintro ⟨hall, rfl⟩
          exact ⟨_, ⟨hall, rfl⟩, rfl⟩

end Mayatoko.Core
