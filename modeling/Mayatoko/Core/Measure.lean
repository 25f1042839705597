import Mathlib.Algebra.BigOperators.Group.List.Lemmas
import Mayatoko.Core.Frame

/-!
# What a transaction adds to a measure

A measure of a state is a value in a commutative group: a total, or a total for each group of
rows. `Adds μ δ x` says that whenever `x` commits, the measure `μ` has grown by `δ`. It follows the
construction of `x`: a sequence adds the sum of what its steps add, a loop the sum over its list.
A statement on a table adds to the sums of that table what it adds to the row it writes.
-/

namespace Mayatoko.Core

variable {σ ε α β ρ κ γ M : Type} [AddCommGroup M] {μ ν : σ → M} {δ δ' : M}

/-- A committed run of `x` moves the measure by `δ`. -/
def Adds (μ : σ → M) (δ : M) (x : Tx σ ε α) : Prop :=
  ∀ s a s', Commits x s a s' → μ s' = μ s + δ

lemma Leaves.adds {x : Tx σ ε α} (h : Leaves μ x) : Adds μ 0 x := by
  intro s a s' hc
  rw [h s a s' hc, add_zero]

lemma Adds.leaves {x : Tx σ ε α} (h : Adds μ 0 x) : Leaves μ x := by
  intro s a s' hc
  rw [h s a s' hc, add_zero]

namespace Adds

lemma bind {x : Tx σ ε α} {f : α → Tx σ ε β} (hx : Adds μ δ x) (hf : ∀ a, Adds μ δ' (f a)) :
    Adds μ (δ + δ') (x >>= f) := by
  intro s b s' h
  obtain ⟨a, t, h₁, h₂⟩ := commits_bind.mp h
  rw [hf a t b s' h₂, hx s a t h₁, add_assoc]

/-- Only the second part adds. -/
lemma after {x : Tx σ ε α} {f : α → Tx σ ε β} (hx : Leaves μ x) (hf : ∀ a, Adds μ δ (f a)) :
    Adds μ δ (x >>= f) := by
  have h := hx.adds.bind hf
  rwa [zero_add] at h

/-- Only the first part adds. -/
lemma before {x : Tx σ ε α} {f : α → Tx σ ε β} (hx : Adds μ δ x) (hf : ∀ a, Leaves μ (f a)) :
    Adds μ δ (x >>= f) := by
  have h := hx.bind fun a => (hf a).adds
  rwa [add_zero] at h

lemma ite {c : Prop} [Decidable c] {x y : Tx σ ε α} (hx : c → Adds μ δ x)
    (hy : ¬ c → Adds μ δ' y) : Adds μ (if c then δ else δ') (if c then x else y) := by
  by_cases hc : c
  · rw [if_pos hc, if_pos hc]
    exact hx hc
  · rw [if_neg hc, if_neg hc]
    exact hy hc

lemma forM {f : β → Tx σ ε Unit} {d : β → M} {l : List β} (hf : ∀ x ∈ l, Adds μ (d x) (f x)) :
    Adds μ (l.map d).sum (l.forM f) := by
  induction l with
  | nil => exact leaves_pure.adds
  | cons x xs ih =>
    rw [map_cons, sum_cons]
    have hxs := ih fun y hy => hf y (mem_cons_of_mem x hy)
    intro s u s' h
    obtain ⟨t, h₁, h₂⟩ := commits_forM_cons.mp h
    rw [hxs t () s' h₂, hf x mem_cons_self s () t h₁, add_assoc]

lemma sub {x : Tx σ ε α} (hμ : Adds μ δ x) (hν : Adds ν δ' x) : Adds (fun s => μ s - ν s) (δ - δ') x := by
  intro s a s' h
  dsimp only
  rw [hμ s a s' h, hν s a s' h]
  abel

end Adds

/-! ### Sums over a table -/

namespace TableOf

variable {key : ρ → κ} {T : TableOf σ key} {g : ρ → γ} {f : ρ → M} [DecidableEq γ] [DecidableEq κ]

/-- What is written to the table is read back from it. -/
structure Lawful (T : TableOf σ key) : Prop where
  table_setTable : ∀ s t, T.table (T.setTable s t) = t

/-- The sums of `f` over the groups of a table. -/
def sums (T : TableOf σ key) (g : ρ → γ) (f : ρ → M) (s : σ) : γ → M := (T.table s).sumBy g f

/-- Replacing a row of a group by one of that group. -/
lemma Lawful.sums_write (hT : T.Lawful) {s : σ} {o r : ρ} (ho : o ∈ T.table s)
    (hk : key o = key r) (hg : g o = g r) :
    T.sums g f (T.write s r) = T.sums g f s + Pi.single (g r) (f r - f o) := by
  rw [sums, write, hT.table_setTable]
  exact Table.sumBy_put_of_mem ho hk hg f

lemma Lawful.adds_update (hT : T.Lawful) {k : κ} {h : ρ → ρ} {e : ε} {i : γ} {d : M}
    (hh : ∀ r, key r = k → key (h r) = k ∧ g r = i ∧ g (h r) = i ∧ f (h r) = f r + d) :
    Adds (T.sums g f) (Pi.single i d) (T.update k h e) := by
  intro s r' s' hc
  obtain ⟨r, hr, rfl, rfl⟩ := commits_update.mp hc
  obtain ⟨hmem, hk⟩ := find?_eq_some.mp hr
  obtain ⟨hkey, hg, hg', hf⟩ := hh r hk
  rw [hT.sums_write hmem (hk.trans hkey.symm) (hg.trans hg'.symm), hg', hf, add_sub_cancel_left]

lemma Lawful.adds_updateOne (hT : T.Lawful) {p : ρ → Bool} {h : ρ → ρ} {e : ε} {hk} {i : γ} {d : M}
    (hh : ∀ r, p r = true → g r = i ∧ g (h r) = i ∧ f (h r) = f r + d) :
    Adds (T.sums g f) (Pi.single i d) (T.updateOne p h e hk) := by
  intro s u s' hc
  obtain ⟨r, hr, hp, rfl⟩ := updateOne_commits hc
  obtain ⟨hg, hg', hf⟩ := hh r hp
  rw [hT.sums_write hr (hk r).symm (hg.trans hg'.symm), hg', hf, add_sub_cancel_left]

/-- What an upsert adds, given what it writes in this state. -/
lemma Lawful.sums_upsert (hT : T.Lawful) {s s' : σ} {new r' : ρ} {h : ρ → ρ} {i : γ} {d : M}
    (hc : Commits (T.upsert new h : Tx σ ε ρ) s r' s')
    (hnew : (T.table s).find? (key new) = none → g new = i ∧ f new = d)
    (hh : ∀ r, (T.table s).find? (key new) = some r →
      key (h r) = key new ∧ g r = i ∧ g (h r) = i ∧ f (h r) = f r + d) :
    T.sums g f s' = T.sums g f s + Pi.single i d := by
  obtain ⟨hr', rfl⟩ := commits_upsert.mp hc
  cases ho : (T.table s).find? (key new) with
  | none =>
    rw [ho, Option.elim_none] at hr'
    subst hr'
    obtain ⟨hg, hf⟩ := hnew ho
    rw [sums, write, hT.table_setTable, Table.sumBy_put_of_not_mem (find?_eq_none.mp ho), hg, hf]
    rfl
  | some r =>
    rw [ho, Option.elim_some] at hr'
    subst hr'
    obtain ⟨hmem, hk⟩ := find?_eq_some.mp ho
    obtain ⟨hkey, hg, hg', hf⟩ := hh r ho
    rw [hT.sums_write hmem (hk.trans hkey.symm) (hg.trans hg'.symm), hg', hf, add_sub_cancel_left]

lemma Lawful.adds_upsert (hT : T.Lawful) {new : ρ} {h : ρ → ρ} {i : γ} {d : M} (hnew : g new = i)
    (hfnew : f new = d)
    (hh : ∀ r, key r = key new → key (h r) = key new ∧ g r = i ∧ g (h r) = i ∧ f (h r) = f r + d) :
    Adds (T.sums g f) (Pi.single i d) (T.upsert new h : Tx σ ε ρ) := fun _ _ _ hc =>
  hT.sums_upsert hc (fun _ => ⟨hnew, hfnew⟩) fun r hr => hh r (find?_eq_some.mp hr).2

/-- Where the groups are the keys, the sum of a group is the value of its row. -/
lemma sums_key (s : σ) (k : κ) : T.sums key f s k = ((T.table s).find? k).elim 0 f := by
  cases h : (T.table s).find? k with
  | none => exact Table.sumBy_eq_zero (find?_eq_none.mp h) f
  | some r =>
    obtain ⟨hr, hk⟩ := find?_eq_some.mp h
    exact Table.sumBy_key hr hk f

end TableOf

end Mayatoko.Core
