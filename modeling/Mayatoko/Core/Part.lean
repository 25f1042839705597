import Mayatoko.Core.Frame

/-!
# Transactions on a part of the state

A state may hold the states of several components. A transaction of one component runs on its part
of the whole and leaves the rest alone.

`Ignores F x` says that `x` also commits on a state that was changed by `F`, with the same result, and that the
change is still there afterwards. It follows the construction of `x`; a statement on a table ignores a change of
the other tables (`TableOf.Unread`).
-/

namespace Mayatoko.Core

/-- A part of a state that can be read and written. -/
structure Part (σ τ : Type) where
  get : σ → τ
  set : σ → τ → σ
  get_set : ∀ s t, get (set s t) = t := by intros; rfl

namespace Part

variable {σ τ υ υ' ε α : Type}

/-- A transaction on a part, as a transaction on the whole. -/
def lift (P : Part σ τ) (x : Tx τ ε α) : Tx σ ε α := fun s =>
  match x (P.get s) with
  | .ok (a, t) => .ok (a, P.set s t)
  | .error e => .error e

variable {P : Part σ τ}

@[simp] lemma commits_lift {x : Tx τ ε α} {s s' : σ} {a : α} :
    Commits (P.lift x) s a s' ↔ ∃ t, Commits x (P.get s) a t ∧ P.set s t = s' := by
  simp only [Commits, StateT.run, lift]
  cases h : x (P.get s) with
  | error e => simp
  | ok r =>
    obtain ⟨b, t⟩ := r
    simp only [Except.ok.injEq, Prod.mk.injEq]
    constructor
    · rintro ⟨rfl, rfl⟩
      exact ⟨t, ⟨rfl, rfl⟩, rfl⟩
    · rintro ⟨_, ⟨rfl, rfl⟩, rfl⟩
      exact ⟨rfl, rfl⟩

/-- Two transactions on a part in a row. -/
lemma lift_bind {β : Type} (hset : ∀ s t u, P.set (P.set s t) u = P.set s u) {x : Tx τ ε α}
    {g : α → Tx τ ε β} : P.lift x >>= (fun a => P.lift (g a)) = P.lift (x >>= g) := by
  funext s
  simp only [lift, Bind.bind, StateT.bind]
  cases x (P.get s) with
  | error e => rfl
  | ok r =>
    simp only [Except.bind, P.get_set, hset]

/-- A loop of transactions on a part is a transaction on the part. -/
lemma commits_forM_lift {β : Type} (hget : ∀ s, P.set s (P.get s) = s)
    (hset : ∀ s t u, P.set (P.set s t) u = P.set s u) {f : β → Tx τ ε Unit} {l : List β} {s s' : σ}
    {u : Unit} : Commits (l.forM fun x => P.lift (f x)) s u s' ↔
      ∃ t, Commits (l.forM f) (P.get s) u t ∧ P.set s t = s' := by
  induction l generalizing s with
  | nil =>
    simp only [commits_forM_nil]
    constructor
    · rintro rfl
      exact ⟨P.get s, rfl, hget s⟩
    · rintro ⟨_, rfl, rfl⟩
      exact (hget s).symm
  | cons x xs ih =>
    simp only [commits_forM_cons, commits_lift, ih]
    constructor
    · rintro ⟨_, ⟨t₁, hx, rfl⟩, t, hxs, rfl⟩
      rw [P.get_set] at hxs
      exact ⟨t, ⟨t₁, hx, hxs⟩, (hset s t₁ t).symm⟩
    · rintro ⟨t, ⟨t₁, hx, hxs⟩, rfl⟩
      refine ⟨P.set s t₁, ⟨t₁, hx, rfl⟩, t, ?_, hset s t₁ t⟩
      rwa [P.get_set]

/-- The part `f` of the state does not depend on the part `P`. -/
structure Apart (P : Part σ τ) (f : σ → υ) : Prop where
  set : ∀ s t, f (P.set s t) = f s

lemma Apart.lift {f : σ → υ} (hP : P.Apart f) {x : Tx τ ε α} : Leaves f (P.lift x) := by
  intro s a s' h
  obtain ⟨t, _, rfl⟩ := commits_lift.mp h
  exact hP.set s t

/-- A transaction on a part leaves alone what depends on the part through `g` only. -/
lemma leaves_lift {f : σ → υ} {g : τ → υ'}
    (hf : ∀ s t, g t = g (P.get s) → f (P.set s t) = f s) {x : Tx τ ε α} (hx : Leaves g x) :
    Leaves f (P.lift x) := by
  intro s a s' h
  obtain ⟨t, hc, rfl⟩ := commits_lift.mp h
  exact hf s t (hx _ _ _ hc)

/-- What only looks at a part only looks at the whole. -/
lemma readOnly_lift (hset : ∀ s, P.set s (P.get s) = s) {x : Tx τ ε α}
    (hx : ReadOnly x) : ReadOnly (P.lift x) := by
  intro s a s' h
  obtain ⟨t, hc, rfl⟩ := commits_lift.mp h
  rw [← hx.eq hc]
  exact hset s

end Part

/-! ### What a transaction does not look at -/

variable {σ τ ε α β ρ κ : Type} {F : σ → σ}

/-- `x` commits on the changed state as it does on the state. -/
def Ignores (F : σ → σ) (x : Tx σ ε α) : Prop := ∀ s a s', Commits x s a s' → Commits x (F s) a (F s')

lemma ignores_pure {a : α} : Ignores F (pure a : Tx σ ε α) := by
  intro s b s' h
  obtain ⟨rfl, rfl⟩ := commits_pure.mp h
  exact commits_pure.mpr ⟨rfl, rfl⟩

lemma ignores_require {c : Prop} [Decidable c] {e : ε} : Ignores F (require c e) := by
  intro s u s' h
  obtain ⟨hc, rfl⟩ := commits_require.mp h
  exact commits_require.mpr ⟨hc, rfl⟩

lemma Ignores.bind {x : Tx σ ε α} {g : α → Tx σ ε β} (hx : Ignores F x) (hg : ∀ a, Ignores F (g a)) :
    Ignores F (x >>= g) := by
  intro s b s' h
  obtain ⟨a, t, h₁, h₂⟩ := commits_bind.mp h
  exact commits_bind.mpr ⟨a, F t, hx s a t h₁, hg a t b s' h₂⟩

/-- What is read does not depend on the change. -/
lemma ignores_get_bind {g : σ → Tx σ ε β} (hread : ∀ s, g (F s) = g s) (hg : ∀ s, Ignores F (g s)) :
    Ignores F (get >>= g) := by
  intro s b s' h
  rw [commits_get_bind] at h ⊢
  rw [hread]
  exact hg s s b s' h

lemma Ignores.ite {c : Prop} [Decidable c] {x y : Tx σ ε α} (hx : Ignores F x) (hy : Ignores F y) :
    Ignores F (if c then x else y) := by
  split
  · exact hx
  · exact hy

lemma Ignores.allocate {g : ρ → ℤ → Tx σ ε ℤ} {l : List ρ} {need : ℤ} (hg : ∀ r n, Ignores F (g r n)) :
    Ignores F (allocate g l need) := by
  induction l generalizing need with
  | nil => exact ignores_pure
  | cons r rs ih => exact ignores_pure.ite ((hg r need).bind fun _ => ih.bind fun _ => ignores_pure)

/-- The change leaves the table alone, and commutes with writing it. -/
structure TableOf.Unread {key : ρ → κ} (T : TableOf σ key) (F : σ → σ) : Prop where
  table : ∀ s, T.table (F s) = T.table s
  setTable : ∀ s t, F (T.setTable s t) = T.setTable (F s) t

namespace TableOf.Unread

variable {key : ρ → κ} {T : TableOf σ key}

lemma updateMany (hT : T.Unread F) {p : ρ → Bool} {g : ρ → ρ} {hg} :
    Ignores F (T.updateMany p g hg : Tx σ ε ℕ) := by
  intro s n s' h
  obtain ⟨rfl, rfl⟩ := commits_updateMany.mp h
  rw [commits_updateMany, hT.table, hT.setTable]
  exact ⟨rfl, rfl⟩

lemma updateOne (hT : T.Unread F) {p : ρ → Bool} {g : ρ → ρ} {e : ε} {hg} : Ignores F (T.updateOne p g e hg) :=
  hT.updateMany.bind fun _ => ignores_require

end TableOf.Unread

/-- A transaction that neither looks at a part nor writes it runs on a changed part as it did before. -/
lemma Ignores.commits_set {P : Part σ τ} (hget : ∀ s, P.set s (P.get s) = s)
    (hset : ∀ s t u, P.set (P.set s t) u = P.set s u) {x : Tx σ ε α} (hx : ∀ t, Ignores (fun s => P.set s t) x)
    (hleaves : Leaves P.get x) {s s' : σ} {t : τ} {a : α} :
    Commits x (P.set s t) a s' ↔ ∃ u, Commits x s a u ∧ P.set u t = s' := by
  constructor
  · intro h
    have hback := hx (P.get s) _ _ _ h
    dsimp only at hback
    rw [hset, hget] at hback
    refine ⟨_, hback, ?_⟩
    have hpart := hleaves _ _ _ h
    rw [P.get_set] at hpart
    rw [hset, ← hpart, hget]
  · rintro ⟨u, h, rfl⟩
    exact hx t _ _ _ h

end Mayatoko.Core
