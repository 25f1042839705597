import Mayatoko.Core.Protocol

/-!
# Processes on a state of which something always holds

Where a fact `G` holds of every state, what a process has read before stays true as far as it follows from
`G`: the steps of a process need to satisfy a relation only on such states, and what it returns may be known
to satisfy a property.
-/

namespace Mayatoko.Core

variable {ρ ℓ σ ε α β : Type} {G : σ → Prop} {P : σ → ℓ → σ → Prop}

namespace Process

/-- On states with `G` all steps of the process satisfy `P`, and its result satisfies `R`. -/
def Yields (G : σ → Prop) (P : σ → ℓ → σ → Prop) (R : α → Prop) : Process ℓ σ α → Prop
  | done a => R a
  | step act next => ∀ s, G s → P s (act s).1 (act s).2 ∧ (next s).Yields G P R

variable {R R' : α → Prop} {S : β → Prop}

lemma Yields.mono {x : Process ℓ σ α} (hx : x.Yields G P R) (hR : ∀ a, R a → R' a) : x.Yields G P R' := by
  induction x with
  | done a => exact hR a hx
  | step act next ih => exact fun s hs => ⟨(hx s hs).1, ih s (hx s hs).2⟩

lemma Yields.bind {x : Process ℓ σ α} {k : α → Process ℓ σ β} (hx : x.Yields G P R)
    (hk : ∀ a, R a → (k a).Yields G P S) : (x >>= k).Yields G P S := by
  induction x with
  | done a => exact hk a hx
  | step act next ih => exact fun s hs => ⟨(hx s hs).1, ih s (hx s hs).2⟩

lemma Steps.yields {x : Process ℓ σ α} (hx : x.Steps P) : x.Yields G P fun _ => True := by
  induction x with
  | done a => trivial
  | step act next ih => exact fun s _ => ⟨(hx s).1, ih s (hx s).2⟩

end Process

/-! ### Services -/

/-- On states with `G` all steps of the service satisfy `P`, and what it returns satisfies `R`. -/
def Assures (G : σ → Prop) (P : σ → ℓ → σ → Prop) (R : α → Prop) (x : Service ℓ σ ε α) : Prop :=
  x.run.Yields G P fun r => match r with
    | .ok a => R a
    | .error _ => True

variable {R R' : α → Prop} {S : β → Prop} {x : Service ℓ σ ε α}

lemma assures_pure {a : α} (h : R a) : Assures G P R (pure a : Service ℓ σ ε α) := h

lemma assures_throw {e : ε} : Assures G P R (throw e : Service ℓ σ ε α) := trivial

lemma Assures.mono (hx : Assures G P R x) (hR : ∀ a, R a → R' a) : Assures G P R' x := by
  refine Process.Yields.mono hx fun r hr => ?_
  cases r with
  | ok a => exact hR a hr
  | error e => trivial

lemma Assures.bind {k : α → Service ℓ σ ε β} (hx : Assures G P R x)
    (hk : ∀ a, R a → Assures G P S (k a)) : Assures G P S (x >>= k) := by
  refine Process.Yields.bind hx fun r hr => ?_
  cases r with
  | ok a => exact hk a hr
  | error e => trivial

lemma Does.assures (hx : Does P x) : Assures G P (fun _ => True) x := by
  refine (Process.Steps.yields hx).mono fun r _ => ?_
  cases r <;> trivial

lemma Assures.yields (hx : Assures G P R x) : x.run.Yields G P fun _ => True :=
  Process.Yields.mono hx fun _ _ => trivial

lemma Assures.ite {c : Prop} [Decidable c] {y : Service ℓ σ ε α} (hx : c → Assures G P R x)
    (hy : ¬ c → Assures G P R y) : Assures G P R (if c then x else y) := by
  split
  · exact hx ‹_›
  · exact hy ‹_›

lemma assures_lookup {l : ℓ} {f : σ → α} (h : ∀ s, G s → P s l s ∧ R (f s)) :
    Assures G P R (lookup l f : Service ℓ σ ε α) := h

lemma assures_check {c : Prop} [Decidable c] {e : ε} :
    Assures G P (fun _ => c) (check c e : Service ℓ σ ε Unit) :=
  Assures.ite (fun hc => assures_pure hc) fun _ => assures_throw

lemma assures_expect {o : Option α} {e : ε} :
    Assures G P (fun a => o = some a) (expect o e : Service ℓ σ ε α) := by
  cases o with
  | none => exact assures_throw
  | some a => exact assures_pure rfl

/-! ### Pools -/

namespace Pool

variable {serve : ρ → Process ℓ σ α} {env : σ → σ → Prop} {p q : Pool ℓ σ α}

/-- On states with `G` all steps that are still to be made satisfy `P`. -/
def Assured (G : σ → Prop) (P : σ → ℓ → σ → Prop) (p : Pool ℓ σ α) : Prop :=
  ∀ i x, p.running i = some x → x.Yields G P fun _ => True

lemma Idle.assured (h : p.Idle) : p.Assured G P := by
  intro i x hx
  cases (h i).symm.trans hx

lemma Assured.update {i : ℕ} {x : Option (Process ℓ σ α)} {s : σ} (h : p.Assured G P)
    (hx : ∀ y, x = some y → y.Yields G P fun _ => True) :
    Assured G P ⟨s, Function.update p.running i x⟩ := by
  intro j y hy
  by_cases hj : j = i
  · subst hj
    dsimp only at hy
    rw [Function.update_self] at hy
    exact hx y hy
  · dsimp only at hy
    rw [Function.update_of_ne hj] at hy
    exact h j y hy

variable {c : PoolAction ρ ℓ α}

lemma Assured.step (hserve : ∀ r, (serve r).Yields G P fun _ => True)
    (h : p.Assured G P) (hG : G p.state) (hstep : PoolStep serve env p c q) : q.Assured G P := by
  cases hstep with
  | starts _ =>
    refine h.update fun y hy => ?_
    obtain rfl := Option.some.inj hy
    exact hserve _
  | steps hi =>
    refine h.update fun y hy => ?_
    obtain rfl := Option.some.inj hy
    exact (h _ _ hi p.state hG).2
  | answers _ => exact h.update (by simp)
  | crashes => exact h.update (by simp)
  | outside _ => exact h

lemma Assured.state (h : p.Assured G P) (hG : G p.state)
    (hstep : PoolStep serve env p c q) : StateStep P env p.state c.label q.state := by
  cases hstep with
  | starts _ | answers _ | crashes => exact .idle
  | steps hi => exact .step (h _ _ hi p.state hG).1
  | outside henv => exact .outside henv

/-- Every step of the pool keeps what is known of it. -/
lemma Assured.both (hserve : ∀ r, (serve r).Yields G P fun _ => True)
    (hG : ∀ s l s', G s → StateStep P env s l s' → G s') (h : p.Assured G P ∧ G p.state)
    (hstep : PoolStep serve env p c q) : q.Assured G P ∧ G q.state :=
  ⟨h.1.step hserve h.2 hstep, hG _ _ _ h.2 (h.1.state h.2 hstep)⟩

end Pool

end Mayatoko.Core
