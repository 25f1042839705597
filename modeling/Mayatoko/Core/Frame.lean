import Mayatoko.Core.Store

/-!
# What a transaction leaves alone

`Leaves f x` says that whenever `x` commits, the part `f` of the state is as before. It follows
the construction of `x`; a statement on a table leaves `f` alone if `f` does not look at that
table (`TableOf.Apart`).

`Maintains I x` says that whenever `x` commits, what held of the state holds of it again. It follows the
construction of `x` too; what looks only at a part of the state is maintained by what leaves that part alone.
-/

namespace Mayatoko.Core

variable {σ τ ε α β ρ κ : Type} {f : σ → τ}

/-- A committed run of `x` does not change the part `f` of the state. -/
def Leaves (f : σ → τ) (x : Tx σ ε α) : Prop := ∀ s a s', Commits x s a s' → f s' = f s

/-- A committed run of `x` changes nothing. -/
abbrev ReadOnly (x : Tx σ ε α) : Prop := Leaves (fun s : σ => s) x

variable {x : Tx σ ε α}

lemma ReadOnly.eq (hx : ReadOnly x) {s s' : σ} {a : α} (h : Commits x s a s') : s = s' :=
  (hx s a s' h).symm

lemma ReadOnly.leaves (hx : ReadOnly x) : Leaves f x :=
  fun s a s' h => congrArg f (hx s a s' h)

lemma leaves_throw {e : ε} : Leaves f (throw e : Tx σ ε α) := by
  intro s a s' h
  cases h

lemma leaves_pure {a : α} : Leaves f (pure a : Tx σ ε α) := by
  intro s b s' h
  rw [(commits_pure.mp h).2]

lemma leaves_get : Leaves f (get : Tx σ ε σ) := by
  intro s t s' h
  rw [(commits_get.mp h).2]

lemma leaves_require {c : Prop} [Decidable c] {e : ε} : Leaves f (require c e) := by
  intro s u s' h
  rw [(commits_require.mp h).2]

lemma leaves_orThrow {o : Option α} {e : ε} : Leaves f (orThrow o e) := by
  intro s a s' h
  rw [(commits_orThrow.mp h).2]

lemma leaves_refuse {o : Option α} {e : α → ε} : Leaves f (refuse o e) := by
  intro s u s' h
  rw [(commits_refuse.mp h).2]

lemma Leaves.bind {g : α → Tx σ ε β} (hx : Leaves f x) (hg : ∀ a, Leaves f (g a)) : Leaves f (x >>= g) := by
  intro s b s' h
  obtain ⟨a, t, h₁, h₂⟩ := commits_bind.mp h
  exact (hg a t b s' h₂).trans (hx s a t h₁)

lemma Leaves.ite {c : Prop} [Decidable c] {x y : Tx σ ε α} (hx : Leaves f x)
    (hy : Leaves f y) : Leaves f (if c then x else y) := by
  split
  · exact hx
  · exact hy

lemma Leaves.forM {g : β → Tx σ ε Unit} {l : List β} (hg : ∀ x, Leaves f (g x)) :
    Leaves f (l.forM g) := fun s _ _ h =>
  h.forM (I := fun _ t => f t = f s) (fun x _ t t' hI hx => (hg x t () t' hx).trans hI) rfl

lemma Leaves.allocate {g : ρ → ℤ → Tx σ ε ℤ} {l : List ρ} {need : ℤ}
    (hg : ∀ r n, Leaves f (g r n)) : Leaves f (allocate g l need) := fun s _ _ h =>
  h.allocate (I := fun _ t => f t = f s)
    (fun r _ n t a t' _ hI hr => (hg r n t a t' hr).trans hI) rfl

/-- A committed run of `x` leaves the part `f` of the state alone, or moves it once by `R`. -/
def MovesOnce (f : σ → τ) (R : τ → τ → Prop) (x : Tx σ ε α) : Prop :=
  ∀ s a s', Commits x s a s' → f s' = f s ∨ R (f s) (f s')

section MovesOnce

variable {R : τ → τ → Prop}

variable {x : Tx σ ε α}

lemma Leaves.movesOnce (hx : Leaves f x) : MovesOnce f R x :=
  fun s a s' h => .inl (hx s a s' h)

variable {g : α → Tx σ ε β}

lemma Leaves.bind_movesOnce (hx : Leaves f x) (hg : ∀ a, MovesOnce f R (g a)) : MovesOnce f R (x >>= g) := by
  intro s b s' h
  obtain ⟨a, t, h₁, h₂⟩ := commits_bind.mp h
  have hmoves := hg a t b s' h₂
  rwa [hx s a t h₁] at hmoves

lemma MovesOnce.bind_leaves (hx : MovesOnce f R x) (hg : ∀ a, Leaves f (g a)) : MovesOnce f R (x >>= g) := by
  intro s b s' h
  obtain ⟨a, t, h₁, h₂⟩ := commits_bind.mp h
  rw [hg a t b s' h₂]
  exact hx s a t h₁

lemma MovesOnce.ite {c : Prop} [Decidable c] {x y : Tx σ ε α} (hx : MovesOnce f R x)
    (hy : MovesOnce f R y) : MovesOnce f R (if c then x else y) := by
  split
  · exact hx
  · exact hy

end MovesOnce

/-- The part `f` of the state does not depend on the table. -/
structure TableOf.Apart {key : ρ → κ} (T : TableOf σ key) (f : σ → τ) : Prop where
  setTable : ∀ s t, f (T.setTable s t) = f s

namespace TableOf.Apart

variable {key : ρ → κ} {T : TableOf σ key}

lemma updateMany (hT : T.Apart f) {p : ρ → Bool} {g : ρ → ρ} {hg} :
    Leaves f (T.updateMany p g hg : Tx σ ε ℕ) := by
  intro s n s' h
  obtain ⟨_, rfl⟩ := commits_updateMany.mp h
  exact hT.setTable s _

lemma updateOne (hT : T.Apart f) {p : ρ → Bool} {g : ρ → ρ} {e : ε} {hg} : Leaves f (T.updateOne p g e hg) :=
  hT.updateMany.bind fun _ => leaves_require

variable [DecidableEq κ]

lemma create (hT : T.Apart f) {r : ρ} {e : ε} : Leaves f (T.create r e) := by
  intro s u s' h
  obtain ⟨_, rfl⟩ := commits_create.mp h
  exact hT.setTable s _

lemma update (hT : T.Apart f) {k : κ} {g : ρ → ρ} {e : ε} : Leaves f (T.update k g e) := by
  intro s r s' h
  obtain ⟨_, _, _, rfl⟩ := commits_update.mp h
  exact hT.setTable s _

lemma upsert (hT : T.Apart f) {r : ρ} {g : ρ → ρ} : Leaves f (T.upsert r g : Tx σ ε ρ) := by
  intro s r' s' h
  obtain ⟨_, rfl⟩ := commits_upsert.mp h
  exact hT.setTable s _

end TableOf.Apart

/-- Updating rows leaves alone what the update leaves alone of every row. -/
lemma TableOf.leaves_update_map {γ : Type} {key : ρ → κ} [DecidableEq κ] {T : TableOf σ key}
    (hT : ∀ s t, T.table (T.setTable s t) = t) {p : ρ → γ} {g : ρ → ρ}
    (hg : ∀ r, key (g r) = key r ∧ p (g r) = p r) {k : κ} {e : ε} :
    Leaves (fun s => (T.table s).rows.map p) (T.update k g e) := by
  intro s r s' h
  obtain ⟨o, ho, _, rfl⟩ := commits_update.mp h
  have hk := (find?_eq_some.mp ho).2
  dsimp only
  rw [write, hT, Table.rows_put_of_find ho ((hg o).1.trans hk), map_map]
  refine map_congr_left fun x _ => ?_
  simp only [Function.comp_apply]
  split
  · exact (hg x).2
  · rfl

/-! ### What a transaction maintains -/

variable {I : σ → Prop}

/-- A committed run of `x` leads from a state with `I` to a state with `I`. -/
def Maintains (I : σ → Prop) (x : Tx σ ε α) : Prop := ∀ s a s', I s → Commits x s a s' → I s'

lemma Leaves.maintains {f : σ → τ} (hx : Leaves f x) (hI : ∀ s s', f s' = f s → I s → I s') : Maintains I x :=
  fun s a s' hs h => hI s s' (hx s a s' h) hs

namespace Maintains

lemma bind {x : Tx σ ε α} {g : α → Tx σ ε β} (hx : Maintains I x) (hg : ∀ a, Maintains I (g a)) :
    Maintains I (x >>= g) := by
  intro s b s' hs h
  obtain ⟨a, t, h₁, h₂⟩ := commits_bind.mp h
  exact hg a t b s' (hx s a t hs h₁) h₂

lemma ite {c : Prop} [Decidable c] {x y : Tx σ ε α} (hx : Maintains I x) (hy : Maintains I y) :
    Maintains I (if c then x else y) := by
  split
  · exact hx
  · exact hy

lemma forM {g : β → Tx σ ε Unit} {l : List β} (hg : ∀ x ∈ l, Maintains I (g x)) : Maintains I (l.forM g) := by
  induction l with
  | nil =>
    intro s u s' hs h
    rwa [← commits_forM_nil.mp h]
  | cons x xs ih =>
    intro s u s' hs h
    obtain ⟨t, h₁, h₂⟩ := commits_forM_cons.mp h
    have ht := hg x mem_cons_self s () t hs h₁
    exact ih (fun y hy => hg y (mem_cons_of_mem x hy)) t u s' ht h₂

lemma allocate {g : ρ → ℤ → Tx σ ε ℤ} {l : List ρ} {need : ℤ} (hg : ∀ r n, Maintains I (g r n)) :
    Maintains I (allocate g l need) := fun _ _ _ hs h =>
  h.allocate (I := fun _ t => I t) (fun r _ n t a t' _ hI hr => hg r n t a t' hI hr) hs

end Maintains

end Mayatoko.Core
