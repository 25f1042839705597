import Mayatoko.Core.Process

/-!
# Processes that follow a protocol

A protocol gives a process a stage, and says for each stage which steps may be made there and to which
stage they lead. Where all processes of a pool follow the protocol, every step of the pool is a step of a
system in which each process is known by its stage alone. What a process did before, and what it has seen,
is then in its stage, so that an invariant can speak of it.
-/

namespace Mayatoko.Core

variable {Q ρ ℓ σ ε α β : Type} {P : Q → σ → ℓ → σ → Q → Prop}

namespace Process

/-- From stage `q` every step is one of the protocol, whatever the others do to the state; the result comes
in a stage that `R` allows. -/
def Follows (P : Q → σ → ℓ → σ → Q → Prop) (R : α → Q → Prop) : Q → Process ℓ σ α → Prop
  | q, done a => R a q
  | q, step act next => ∀ s, ∃ q', P q s (act s).1 (act s).2 q' ∧ (next s).Follows P R q'

lemma Follows.mono {R R' : α → Q → Prop} (hR : ∀ a q, R a q → R' a q) {x : Process ℓ σ α} {q : Q}
    (hx : x.Follows P R q) : x.Follows P R' q := by
  induction x generalizing q with
  | done a => exact hR a q hx
  | step act next ih =>
    intro s
    obtain ⟨q', hstep, hnext⟩ := hx s
    exact ⟨q', hstep, ih s hnext⟩

lemma Follows.bind {R : α → Q → Prop} {R' : β → Q → Prop} {x : Process ℓ σ α}
    {k : α → Process ℓ σ β} {q : Q} (hx : x.Follows P R q) (hk : ∀ a q, R a q → (k a).Follows P R' q) :
    (x >>= k).Follows P R' q := by
  induction x generalizing q with
  | done a => exact hk a q hx
  | step act next ih =>
    intro s
    obtain ⟨q', hstep, hnext⟩ := hx s
    exact ⟨q', hstep, ih s hnext⟩

end Process

/-! ### Services -/

/-- Run `x`, and `h` on what it throws. -/
def attempt (x : Service ℓ σ ε α) (h : ε → Service ℓ σ ε α) : Service ℓ σ ε α :=
  ExceptT.mk (x.run >>= fun r => match r with
    | .ok a => .done (.ok a)
    | .error e => (h e).run)

/-- The service follows the protocol from stage `q`, returns in a stage that `R` allows and throws in one
that `E` allows. -/
def Obeys (P : Q → σ → ℓ → σ → Q → Prop) (R : α → Q → Prop) (E : Q → Prop) (q : Q)
    (x : Service ℓ σ ε α) : Prop :=
  x.run.Follows P (fun r q' => match r with
    | .ok a => R a q'
    | .error _ => E q') q

variable {R : α → Q → Prop} {R' : β → Q → Prop} {E E' : Q → Prop} {q : Q}

lemma obeys_pure {a : α} (h : R a q) : Obeys P R E q (pure a : Service ℓ σ ε α) := h

lemma obeys_throw {e : ε} (h : E q) : Obeys P R E q (throw e : Service ℓ σ ε α) := h

lemma obeys_ofExcept {x : Except ε α} :
    Obeys P (fun _ q' => q' = q) (fun q' => q' = q) q (ofExcept x : Service ℓ σ ε α) := by
  cases x with
  | error e => exact obeys_throw rfl
  | ok a => exact obeys_pure rfl

variable {x : Service ℓ σ ε α}

lemma Obeys.bind {k : α → Service ℓ σ ε β} (hx : Obeys P R E q x)
    (hk : ∀ a q', R a q' → Obeys P R' E q' (k a)) : Obeys P R' E q (x >>= k) := by
  refine Process.Follows.bind hx fun r q' hr => ?_
  cases r with
  | ok a => exact hk a q' hr
  | error e => exact hr

variable {h : ε → Service ℓ σ ε α}

lemma Obeys.attempt (hx : Obeys P R E q x)
    (hh : ∀ e q', E q' → Obeys P R E' q' (h e)) : Obeys P R E' q (attempt x h) := by
  refine Process.Follows.bind hx fun r q' hr => ?_
  cases r with
  | ok a => exact hr
  | error e => exact hh e q' hr

variable {D : σ → ℓ → σ → Prop}

lemma Does.attempt
    (hx : Does D x) (hh : ∀ e, Does D (h e)) : Does D (Core.attempt x h) := by
  refine Process.Steps.bind hx fun r => ?_
  cases r with
  | ok a => trivial
  | error e => exact hh e

lemma Obeys.ite {c : Prop} [Decidable c] {x y : Service ℓ σ ε α} (hx : c → Obeys P R E q x)
    (hy : ¬ c → Obeys P R E q y) : Obeys P R E q (if c then x else y) := by
  split
  · exact hx ‹_›
  · exact hy ‹_›

lemma Obeys.mono {S : α → Q → Prop} (hx : Obeys P R E q x)
    (hR : ∀ a q', R a q' → S a q') (hE : ∀ q', E q' → E' q') : Obeys P S E' q x := by
  refine Process.Follows.mono (fun r q' hr => ?_) hx
  cases r with
  | ok a => exact hR a q' hr
  | error e => exact hE q' hr

/-- A loop whose body comes back to the stage it started from. -/
lemma Obeys.forM {f : β → Service ℓ σ ε Unit} {l : List β} {S : Q → Prop} (hq : S q)
    (hf : ∀ b q', S q' → Obeys P (fun _ => S) E q' (f b)) : Obeys P (fun _ => S) E q (l.forM f) := by
  induction l generalizing q with
  | nil => exact obeys_pure hq
  | cons b l ih => exact (hf b q hq).bind fun _ _ hq' => ih hq'

/-- A service whose steps all leave the stage as it is. -/
lemma Does.obeys (hD : ∀ s l s', D s l s' → P q s l s' q) {x : Service ℓ σ ε α}
    (hx : Does D x) : Obeys P (fun _ q' => q' = q) (fun q' => q' = q) q x := by
  have hprocess (y : Process ℓ σ (Except ε α)) (hy : y.Steps D) : y.Follows P (fun r q' => match r with
      | .ok _ => q' = q
      | .error _ => q' = q) q := by
    induction y with
    | done r => cases r <;> rfl
    | step act next ih => exact fun s => ⟨q, hD _ _ _ (hy s).1, ih s (hy s).2⟩
  exact hprocess x.run hx

lemma obeys_lookup {l : ℓ} {f : σ → α} (h : ∀ s, ∃ q', P q s l s q' ∧ R (f s) q') :
    Obeys P R E q (lookup l f : Service ℓ σ ε α) := h

lemma obeys_atomically {label : Except ε α → ℓ} {x : Tx σ ε α}
    (hcommits : ∀ s a s', Commits x s a s' → ∃ q', P q s (label (.ok a)) s' q' ∧ R a q')
    (herror : ∀ s e, (execute x s).1 = .error e → ∃ q', P q s (label (.error e)) s q' ∧ E q') :
    Obeys P R E q (atomically label x) := by
  intro s
  rcases execute_cases x s with ⟨a, ha, hc⟩ | ⟨e, he, hs⟩
  · obtain ⟨q', hstep, hq'⟩ := hcommits s a _ hc
    refine ⟨q', ?_, ?_⟩
    · dsimp only
      rw [ha]
      exact hstep
    · dsimp only
      rw [ha]
      exact hq'
  · obtain ⟨q', hstep, hq'⟩ := herror s e he
    refine ⟨q', ?_, ?_⟩
    · dsimp only
      rw [he, hs]
      exact hstep
    · dsimp only
      rw [he]
      exact hq'

/-! ### Pools -/

/-- A state and the stages of the processes that run on it. -/
structure Staged (σ Q : Type) where
  state : σ
  stage : ℕ → Option Q

/-- The steps of processes that all start in stage `q₀` and follow the protocol. -/
inductive StagedStep (P : Q → σ → ℓ → σ → Q → Prop) (q₀ : Q) (env : σ → σ → Prop) (p : Staged σ Q) :
    Option ℓ → Staged σ Q → Prop
  | starts {i : ℕ} (h : p.stage i = none) :
      StagedStep P q₀ env p none { p with stage := Function.update p.stage i (some q₀) }
  | steps {i : ℕ} {q q' : Q} {l : ℓ} {s' : σ} (h : p.stage i = some q) (hstep : P q p.state l s' q') :
      StagedStep P q₀ env p (some l) { state := s', stage := Function.update p.stage i (some q') }
  | ends {i : ℕ} : StagedStep P q₀ env p none { p with stage := Function.update p.stage i none }
  | outside {s' : σ} (h : env p.state s') : StagedStep P q₀ env p none { p with state := s' }

/-- The steps of a pool in which each process is known by its stage: who does what, and a process that ends does
so in a stage that `R` allows. -/
inductive StagedMove (P : Q → σ → ℓ → σ → Q → Prop) (R : α → Q → Prop) (q₀ : Q) (env : σ → σ → Prop)
    (p : Staged σ Q) : PoolAction ρ ℓ α → Staged σ Q → Prop
  | starts {i : ℕ} {r : ρ} (h : p.stage i = none) :
      StagedMove P R q₀ env p (.starts i r) { p with stage := Function.update p.stage i (some q₀) }
  | steps {i : ℕ} {q q' : Q} {l : ℓ} {s' : σ} (h : p.stage i = some q) (hstep : P q p.state l s' q') :
      StagedMove P R q₀ env p (.steps i l) { state := s', stage := Function.update p.stage i (some q') }
  | answers {i : ℕ} {a : α} {q : Q} (h : p.stage i = some q) (hR : R a q) :
      StagedMove P R q₀ env p (.answers i a) { p with stage := Function.update p.stage i none }
  | crashes {i : ℕ} : StagedMove P R q₀ env p (.crashes i) { p with stage := Function.update p.stage i none }
  | outside {s' : σ} (h : env p.state s') : StagedMove P R q₀ env p .outside { p with state := s' }

/-- Which process it is that moves is left out. -/
lemma StagedMove.step {env : σ → σ → Prop} {q₀ : Q} {p p' : Staged σ Q} {a : PoolAction ρ ℓ α}
    (h : StagedMove P R q₀ env p a p') :
    StagedStep P q₀ env p a.label p' := by
  cases h with
  | starts h => exact .starts h
  | steps h hstep => exact .steps h hstep
  | answers _ _ | crashes => exact .ends
  | outside h => exact .outside h

namespace Pool

variable {serve : ρ → Process ℓ σ α} {env : σ → σ → Prop} {q₀ : Q} {p p' : Pool ℓ σ α} {stage : ℕ → Option Q}
  {R : α → Q → Prop}

/-- Every process that runs follows the protocol from its stage, and ends in a stage that `R` allows. -/
def Along (P : Q → σ → ℓ → σ → Q → Prop) (R : α → Q → Prop) (p : Pool ℓ σ α) (stage : ℕ → Option Q) : Prop :=
  ∀ i, match p.running i with
    | none => stage i = none
    | some x => ∃ q, stage i = some q ∧ x.Follows P R q

lemma Idle.along (h : p.Idle) : p.Along P R (fun _ => none) := by
  intro i
  rw [h i]

lemma Along.isSome {i : ℕ} {q : Q} (h : p.Along P R stage) (hq : stage i = some q) :
    (p.running i).isSome = true := by
  have hi := h i
  cases hx : p.running i with
  | none =>
    rw [hx] at hi
    cases hi.symm.trans hq
  | some x => rfl

lemma Along.update {i : ℕ} {x : Option (Process ℓ σ α)} {q : Option Q} {s : σ} (h : p.Along P R stage)
    (hx : match x with
      | none => q = none
      | some x => ∃ q', q = some q' ∧ x.Follows P R q') :
    Along P R ⟨s, Function.update p.running i x⟩ (Function.update stage i q) := by
  intro j
  by_cases hj : j = i
  · subst hj
    simp only [Function.update_self]
    exact hx
  · simp only [Function.update_of_ne hj]
    exact h j

variable {a : PoolAction ρ ℓ α}

lemma Along.move (hserve : ∀ r, (serve r).Follows P R q₀) (h : p.Along P R stage)
    (hstep : PoolStep serve env p a p') :
    ∃ stage', p'.Along P R stage' ∧ StagedMove P R q₀ env ⟨p.state, stage⟩ a ⟨p'.state, stage'⟩ := by
  cases hstep with
  | @starts i r hi =>
    have hfree := h i
    rw [hi] at hfree
    exact ⟨_, h.update ⟨q₀, rfl, hserve r⟩, .starts hfree⟩
  | @steps i act next hi =>
    have hat := h i
    rw [hi] at hat
    obtain ⟨q, hq, hx⟩ := hat
    obtain ⟨q', hmove, hnext⟩ := hx p.state
    exact ⟨_, h.update ⟨q', rfl, hnext⟩, .steps hq hmove⟩
  | @answers i a hi =>
    have hat := h i
    rw [hi] at hat
    obtain ⟨q, hq, hx⟩ := hat
    exact ⟨_, h.update rfl, .answers hq hx⟩
  | crashes => exact ⟨_, h.update rfl, .crashes⟩
  | outside henv => exact ⟨stage, h, .outside henv⟩

/-! #### With an invariant of the stages -/

/-- Every process that runs follows the protocol from its stage. -/
def At (P : Q → σ → ℓ → σ → Q → Prop) (p : Pool ℓ σ α) (stage : ℕ → Option Q) : Prop :=
  ∀ i, match p.running i with
    | none => stage i = none
    | some x => ∃ q, stage i = some q ∧ x.Follows P (fun _ _ => True) q

lemma Idle.at (h : p.Idle) : p.At P (fun _ => none) := h.along

lemma At.step (hserve : ∀ r, (serve r).Follows P (fun _ _ => True) q₀)
    (h : p.At P stage) (hstep : PoolStep serve env p a p') :
    ∃ stage', p'.At P stage' ∧
      StagedStep P q₀ env ⟨p.state, stage⟩ a.label ⟨p'.state, stage'⟩ := by
  have halong : p.Along P (fun _ _ => True) stage := h
  obtain ⟨stage', hat, hmove⟩ := halong.move hserve hstep
  exact ⟨stage', hat, hmove.step⟩

/-- The processes are at stages with which `I` holds. -/
def Holds (P : Q → σ → ℓ → σ → Q → Prop) (I : Staged σ Q → Prop) (p : Pool ℓ σ α) : Prop :=
  ∃ stage, p.At P stage ∧ I ⟨p.state, stage⟩

variable {I : Staged σ Q → Prop}

lemma Idle.holds (h : p.Idle) (hI : I ⟨p.state, fun _ => none⟩) : p.Holds P I :=
  ⟨_, h.at, hI⟩

variable {c : σ → Option ℓ → Prop}

/-- An invariant of the stages is one of the pool. -/
lemma Holds.step
    (hserve : ∀ r, (serve r).Follows P (fun _ _ => True) q₀)
    (hI : ∀ s l s', I s → c s.state l → StagedStep P q₀ env s l s' → I s') {a : PoolAction ρ ℓ α}
    (h : p.Holds P I) (hstep : Guarded (fun p a => c p.state a.label) (PoolStep serve env) p a p') :
    p'.Holds P I := by
  obtain ⟨stage, hat, hp⟩ := h
  obtain ⟨stage', hat', hmove⟩ := hat.step hserve hstep.2
  exact ⟨stage', hat', hI _ _ _ hp hstep.1 hmove⟩

/-- What the steps of the stages do to the state, where `I` holds, those of the pool do. -/
lemma Holds.moves {T : σ → σ → Prop} (hserve : ∀ r, (serve r).Follows P (fun _ _ => True) q₀)
    (hT : ∀ s l s', I s → c s.state l → StagedStep P q₀ env s l s' → T s.state s'.state)
    {a : PoolAction ρ ℓ α} (h : p.Holds P I)
    (hstep : Guarded (fun p a => c p.state a.label) (PoolStep serve env) p a p') :
    T p.state p'.state := by
  obtain ⟨stage, hat, hp⟩ := h
  obtain ⟨_, _, hmove⟩ := hat.step hserve hstep.2
  exact hT _ _ _ hp hstep.1 hmove

end Pool

end Mayatoko.Core
