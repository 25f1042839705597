import Mathlib.Algebra.Order.Group.Int
import Mayatoko.Core.Run

/-!
# Transactions

A transaction reads and writes a state and may throw. `Commits x s a s'` says that `x`, started
in `s`, runs to its end, returns `a` and leaves `s'`. Each constructor of a transaction has one
inversion rule for `Commits`; the rules are a simp set that takes a committed transaction apart
into its steps. A loop has one invariant rule. A transaction that throws is rolled back by
`execute`.
-/

namespace Mayatoko.Core

/-- A transaction over a state `σ` that may throw an `ε`. -/
abbrev Tx (σ ε α : Type) := StateT σ (Except ε) α

variable {σ ε α β ρ : Type}

/-- `x` runs from `s` to its end, returns `a` and leaves `s'`. -/
def Commits (x : Tx σ ε α) (s : σ) (a : α) (s' : σ) : Prop := x.run s = .ok (a, s')

instance [DecidableEq σ] [DecidableEq ε] [DecidableEq α] (x : Tx σ ε α) (s : σ) (a : α) (s' : σ) :
    Decidable (Commits x s a s') :=
  decidable_of_iff ((x.run s).toOption = some (a, s')) (by
    unfold Commits
    cases x.run s <;> simp [Except.toOption])

/-- Run a transaction: what it returns or throws, and the state left behind. -/
def execute (x : Tx σ ε α) (s : σ) : Except ε α × σ :=
  match x.run s with
  | .ok (a, s') => (.ok a, s')
  | .error e => (.error e, s)

/-- Throw `e` unless `c` holds. -/
def require (c : Prop) [Decidable c] (e : ε) : Tx σ ε Unit :=
  if c then pure () else throw e

/-- The value of an option, or throw `e`. -/
def orThrow (o : Option α) (e : ε) : Tx σ ε α :=
  match o with
  | some a => pure a
  | none => throw e

/-- Throw where a search has found something that must not be there. -/
def refuse (o : Option α) (e : α → ε) : Tx σ ε Unit :=
  match o with
  | some a => throw (e a)
  | none => pure ()

/-- Take an amount `need` from rows in turn: `f r n` takes from `r` at most the `n` still needed
and returns how much it took. Rows after the need is met are left alone, rows from which nothing
was taken are not recorded. The result is what was taken where, and what is still needed. -/
def allocate (f : ρ → ℤ → Tx σ ε ℤ) : List ρ → ℤ → Tx σ ε (List (ρ × ℤ) × ℤ)
  | [], need => pure ([], need)
  | r :: rs, need =>
    if need ≤ 0 then pure ([], need) else do
      let taken ← f r need
      let rest ← allocate f rs (need - taken)
      pure (if taken = 0 then rest.1 else (r, taken) :: rest.1, rest.2)

/-! ### Inversion -/

variable {a : α} {s s' : σ}

@[simp] lemma commits_pure {b : α} : Commits (pure a : Tx σ ε α) s b s' ↔ a = b ∧ s = s' := by
  rw [Commits, StateT.run_pure]
  simp [pure, Except.pure]

variable {x : Tx σ ε α} {b : β}

@[simp] lemma commits_bind {f : α → Tx σ ε β} :
    Commits (x >>= f) s b s' ↔ ∃ a t, Commits x s a t ∧ Commits (f a) t b s' := by
  simp only [Commits, StateT.run_bind]
  cases h : x.run s with
  | error e => simp [bind, Except.bind]
  | ok r => simp [bind, Except.bind, Prod.ext_iff, eq_comm]

@[simp] lemma commits_map {f : α → β} : Commits (f <$> x) s b s' ↔ ∃ a, Commits x s a s' ∧ f a = b := by
  simp only [Commits, StateT.run_map]
  cases h : x.run s with
  | error e => simp [Functor.map, Except.map]
  | ok r =>
    obtain ⟨a, t⟩ := r
    simp [Functor.map, Except.map, and_comm, and_assoc]

variable {u : Unit}

/-- Dropping the result of a transaction. -/
lemma commits_discard : Commits (discard x : Tx σ ε Unit) s u s' ↔ ∃ a, Commits x s a s' := by
  have h : (discard x : Tx σ ε Unit) = (fun _ => ()) <$> x := rfl
  rw [h, commits_map]
  simp

variable {e : ε}

@[simp] lemma commits_throw : ¬ Commits (throw e : Tx σ ε α) s a s' := by
  simp [Commits, throw, throwThe, MonadExceptOf.throw, StateT.run, StateT.lift, bind, Except.bind]

@[simp] lemma commits_get {t : σ} : Commits (get : Tx σ ε σ) s t s' ↔ s = t ∧ s = s' := by
  rw [Commits, StateT.run_get]
  simp [pure, Except.pure]

@[simp] lemma commits_set {t : σ} {u : PUnit} : Commits (set t : Tx σ ε PUnit) s u s' ↔ t = s' := by
  rw [Commits, StateT.run_set]
  simp [pure, Except.pure]

@[simp] lemma commits_modify {f : σ → σ} : Commits (modify f : Tx σ ε Unit) s u s' ↔ f s = s' := by
  rw [Commits, StateT.run_modify]
  simp [pure, Except.pure]

@[simp] lemma commits_ite {c : Prop} [Decidable c] {x y : Tx σ ε α} {s s' : σ} {a : α} :
    Commits (if c then x else y) s a s' ↔
      c ∧ Commits x s a s' ∨ ¬ c ∧ Commits y s a s' := by
  by_cases h : c <;> simp [h]

@[simp] lemma commits_require {c : Prop} [Decidable c] {e : ε} {s s' : σ} {u : Unit} :
    Commits (require c e) s u s' ↔ c ∧ s = s' := by
  simp [require]

variable {o : Option α}

@[simp] lemma commits_orThrow : Commits (orThrow o e) s a s' ↔ o = some a ∧ s = s' := by
  cases o <;> simp [orThrow]

@[simp] lemma commits_ofExcept {x : Except ε α} :
    Commits (ofExcept x : Tx σ ε α) s a s' ↔ x = .ok a ∧ s = s' := by
  cases x <;> simp [ofExcept]

@[simp] lemma commits_refuse {e : α → ε} : Commits (refuse o e) s u s' ↔ o = none ∧ s = s' := by
  cases o <;> simp [refuse]

/-! A step that reads or checks, before the rest. -/

lemma commits_get_bind {f : σ → Tx σ ε β} : Commits (get >>= f) s b s' ↔ Commits (f s) s b s' := by
  simp only [commits_bind, commits_get]
  constructor
  · rintro ⟨_, _, ⟨rfl, rfl⟩, h⟩
    exact h
  · exact fun h => ⟨s, s, ⟨rfl, rfl⟩, h⟩

lemma commits_require_bind {c : Prop} [Decidable c] {e : ε} {f : Unit → Tx σ ε β} {s s' : σ} {b : β} :
    Commits (require c e >>= f) s b s' ↔ c ∧ Commits (f ()) s b s' := by
  simp only [commits_bind, commits_require]
  constructor
  · rintro ⟨_, _, ⟨hc, rfl⟩, h⟩
    exact ⟨hc, h⟩
  · exact fun ⟨hc, h⟩ => ⟨(), s, ⟨hc, rfl⟩, h⟩

lemma commits_orThrow_bind {f : α → Tx σ ε β} :
    Commits (orThrow o e >>= f) s b s' ↔ ∃ a, o = some a ∧ Commits (f a) s b s' := by
  simp only [commits_bind, commits_orThrow]
  constructor
  · rintro ⟨a, _, ⟨ha, rfl⟩, h⟩
    exact ⟨a, ha, h⟩
  · exact fun ⟨a, ha, h⟩ => ⟨a, s, ⟨ha, rfl⟩, h⟩

/-- A step whose result is returned, changed by `f`. -/
lemma commits_bind_pure {f : α → β} :
    Commits (x >>= fun a => pure (f a)) s b s' ↔ ∃ a, Commits x s a s' ∧ f a = b := by
  rw [bind_pure_comp, commits_map]

/-- The rules that take a transaction apart, as one set for `simp only`. The last three drop the state between two
steps of which the first only reads. -/
lemma commits_steps : (∀ {σ ε α β : Type} {x : Tx σ ε α} {f : α → Tx σ ε β} {s s' b},
      Commits (x >>= f) s b s' ↔ ∃ a t, Commits x s a t ∧ Commits (f a) t b s') ∧
    (∀ {σ ε : Type} {s t s' : σ}, Commits (get : Tx σ ε σ) s t s' ↔ s = t ∧ s = s') ∧
    (∀ {σ ε α : Type} {a b s s'}, Commits (pure a : Tx σ ε α) s b s' ↔ a = b ∧ s = s') ∧
    (∀ {σ ε : Type} {c} [Decidable c] {e : ε} {s s' : σ} {u}, Commits (require c e) s u s' ↔ c ∧ s = s') ∧
    (∀ {σ ε α : Type} {o : Option α} {e : ε} {a} {s s' : σ}, Commits (orThrow o e) s a s' ↔ o = some a ∧ s = s') ∧
    (∀ {σ ε α : Type} {o} {e : α → ε} {u} {s s' : σ}, Commits (refuse o e) s u s' ↔ o = none ∧ s = s') ∧
    (∀ {σ ε α : Type} {x} {a s s'}, Commits (ofExcept x : Tx σ ε α) s a s' ↔ x = .ok a ∧ s = s') ∧
    (∀ {σ α : Type} {a : α} {s : σ} {Q : α → σ → Prop}, (∃ b t, (a = b ∧ s = t) ∧ Q b t) ↔ Q a s) ∧
    (∀ {c} {Q : Unit → Prop}, (∃ u, c ∧ Q u) ↔ c ∧ Q ()) ∧
    ∀ {σ α : Type} {P : α → Prop} {s : σ} {Q : α → σ → Prop},
      (∃ a t, (P a ∧ s = t) ∧ Q a t) ↔ ∃ a, P a ∧ Q a s := by
  refine ⟨commits_bind, commits_get, commits_pure, commits_require, commits_orThrow, commits_refuse,
    commits_ofExcept, ?_, ?_, ?_⟩
  · simp
  · simp +contextual [Unique.exists_iff]
  · simp

/-- A transaction commits in one way. -/
lemma Commits.unique {s₁ s₂ : σ} {a₁ a₂ : α} (h₁ : Commits x s a₁ s₁)
    (h₂ : Commits x s a₂ s₂) : a₁ = a₂ ∧ s₁ = s₂ :=
  Prod.mk.inj (Except.ok.inj (h₁.symm.trans h₂))

/-! ### Loops -/

variable {f : β → Tx σ ε Unit}

@[simp] lemma commits_forM_nil : Commits (([] : List β).forM f) s u s' ↔ s = s' := by
  simp [List.forM]

@[simp] lemma commits_forM_cons {x : β} {xs : List β} :
    Commits ((x :: xs).forM f) s u s' ↔ ∃ t, Commits (f x) s () t ∧ Commits (xs.forM f) t () s' := by
  constructor
  · intro h
    obtain ⟨_, t, hx, hxs⟩ := commits_bind.mp h
    exact ⟨t, hx, hxs⟩
  · rintro ⟨t, hx, hxs⟩
    exact commits_bind.mpr ⟨_, t, hx, hxs⟩

lemma commits_forM_iff_run {l : List β} :
    Commits (l.forM f) s u s' ↔ Run (fun s x s' => Commits (f x) s () s') s l s' := by
  induction l generalizing s with
  | nil => rw [commits_forM_nil, Run.nil_iff]
  | cons x xs ih => simp only [commits_forM_cons, Run.cons_iff, ih]

/-- A loop over a list keeps an invariant that speaks of the elements still to come. -/
lemma Commits.forM {I : List β → σ → Prop}
    (step : ∀ x xs s s', I (x :: xs) s → Commits (f x) s () s' → I xs s') {l : List β} {s s' : σ}
    {u : Unit} (h : Commits (l.forM f) s u s') (hI : I l s) : I [] s' := by
  induction l generalizing s with
  | nil =>
    obtain rfl := commits_forM_nil.mp h
    exact hI
  | cons x xs ih =>
    obtain ⟨t, hx, hxs⟩ := commits_forM_cons.mp h
    exact ih hxs (step x xs s t hI hx)

/-- A loop of checks leaves the state alone, and every element has passed its check. -/
lemma Commits.forM_check {P : β → σ → Prop}
    (check : ∀ x s s', Commits (f x) s () s' → s = s' ∧ P x s) {l : List β} {s s' : σ} {u : Unit}
    (h : Commits (l.forM f) s u s') : s = s' ∧ ∀ x ∈ l, P x s := by
  induction l with
  | nil => exact ⟨commits_forM_nil.mp h, fun x hx => absurd hx List.not_mem_nil⟩
  | cons x xs ih =>
    obtain ⟨t, hx, hxs⟩ := commits_forM_cons.mp h
    obtain ⟨rfl, hP⟩ := check x s t hx
    obtain ⟨hs, hrest⟩ := ih hxs
    exact ⟨hs, List.forall_mem_cons.mpr ⟨hP, hrest⟩⟩

/-- A greedy allocation keeps an invariant that speaks of the amount still needed. -/
lemma Commits.allocate {f : ρ → ℤ → Tx σ ε ℤ} {I : ℤ → σ → Prop} {l : List ρ}
    (step : ∀ r ∈ l, ∀ n s t s', 0 < n → I n s → Commits (f r n) s t s' → I (n - t) s')
    {need : ℤ} {s s' : σ} {res : List (ρ × ℤ) × ℤ} (h : Commits (allocate f l need) s res s')
    (hI : I need s) : I res.2 s' := by
  induction l generalizing need s res with
  | nil =>
    obtain ⟨rfl, rfl⟩ := commits_pure.mp h
    exact hI
  | cons r rs ih =>
    simp only [Core.allocate, commits_ite, commits_bind, commits_pure] at h
    obtain ⟨_, rfl, rfl⟩ | ⟨hneed, taken, t, hf, rest, t', hrest, hres, rfl⟩ := h
    · exact hI
    · have hstep := step r List.mem_cons_self need s taken t (not_le.mp hneed) hI hf
      have hrec := ih (fun r' hr' => step r' (List.mem_cons_of_mem r hr')) hrest hstep
      rwa [← hres]

lemma execute_of_commits (h : Commits x s a s') : execute x s = (.ok a, s') := by
  rw [execute, show x.run s = .ok (a, s') from h]

/-- Running a transaction either commits it or leaves the state as it was. -/
lemma execute_cases (x : Tx σ ε α) (s : σ) : (∃ a, (execute x s).1 = .ok a ∧ Commits x s a (execute x s).2) ∨
      ∃ e, (execute x s).1 = .error e ∧ (execute x s).2 = s := by
  cases h : x.run s with
  | ok r =>
    obtain ⟨a, s'⟩ := r
    have he : execute x s = (.ok a, s') := execute_of_commits h
    exact .inl ⟨a, by rw [he], by rw [he]; exact h⟩
  | error e => exact .inr ⟨e, by simp [execute, h], by simp [execute, h]⟩

lemma commits_of_execute (h : (execute x s).1 = .ok a) : Commits x s a (execute x s).2 := by
  rcases execute_cases x s with ⟨b, hb, hc⟩ | ⟨e, he, _⟩
  · rw [hb, Except.ok.injEq] at h
    exact h ▸ hc
  · rw [he] at h
    cases h

/-- A transaction that throws leaves the state as it was. -/
lemma execute_state_of_error (h : (execute x s).1 = .error e) : (execute x s).2 = s := by
  rcases execute_cases x s with ⟨a, ha, _⟩ | ⟨_, _, hs⟩
  · rw [ha] at h
    cases h
  · exact hs

end Mayatoko.Core
