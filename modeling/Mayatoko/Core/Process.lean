import Mayatoko.Core.Transaction

/-!
# Processes on a shared state

A process runs in atomic steps on a state that it shares with others, and ends with a result. Between two
of its steps any others may be made. A relation that all steps of the processes satisfy is satisfied by
every step of a pool that runs them, whatever the order.

An observer goes along with the runs of a system and keeps what it wants to know of the past. It sees every
action and the state that the action leads to, and it changes nothing.
-/

namespace Mayatoko.Core

/-- A program in atomic steps, each with a label that says what it did. -/
inductive Process (ℓ σ α : Type) : Type
  | done (a : α)
  | step (act : σ → ℓ × σ) (next : σ → Process ℓ σ α)

namespace Process

variable {ℓ σ α β : Type} {P : σ → ℓ → σ → Prop}

def bind : Process ℓ σ α → (α → Process ℓ σ β) → Process ℓ σ β
  | done a, k => k a
  | step act next, k => step act fun s => (next s).bind k

instance : Monad (Process ℓ σ) where
  pure := done
  bind := bind

/-- All steps of the process satisfy `P`, whatever the others do to the state. -/
def Steps (P : σ → ℓ → σ → Prop) : Process ℓ σ α → Prop
  | done _ => True
  | step act next => ∀ s, P s (act s).1 (act s).2 ∧ (next s).Steps P

lemma Steps.mono {Q : σ → ℓ → σ → Prop} (hPQ : ∀ s l s', P s l s' → Q s l s') {x : Process ℓ σ α}
    (hx : x.Steps P) : x.Steps Q := by
  induction x with
  | done a => trivial
  | step act next ih => exact fun s => ⟨hPQ _ _ _ (hx s).1, ih s (hx s).2⟩

lemma Steps.bind {x : Process ℓ σ α} {k : α → Process ℓ σ β} (hx : x.Steps P)
    (hk : ∀ a, (k a).Steps P) : (x >>= k).Steps P := by
  induction x with
  | done a => exact hk a
  | step act next ih => exact fun s => ⟨(hx s).1, ih s (hx s).2⟩

end Process

/-! ### Processes that may throw -/

/-- A process that returns a value or throws. -/
abbrev Service (ℓ σ ε α : Type) := ExceptT ε (Process ℓ σ) α

section

variable {ℓ σ ε α β : Type} {P : σ → ℓ → σ → Prop}

/-- A step that only looks at the state. -/
def lookup (l : ℓ) (f : σ → α) : Service ℓ σ ε α :=
  ExceptT.mk (.step (fun s => (l, s)) fun s => .done (.ok (f s)))

/-- A transaction as one step; its label depends on what it returns or throws. -/
def atomically (label : Except ε α → ℓ) (x : Tx σ ε α) : Service ℓ σ ε α :=
  ExceptT.mk (.step (fun s => (label (execute x s).1, (execute x s).2)) fun s => .done (execute x s).1)

/-- Throw `e` unless `c` holds. -/
def check (c : Prop) [Decidable c] (e : ε) : Service ℓ σ ε Unit :=
  if c then pure () else throw e

/-- The value of an option, or throw `e`. -/
def expect (o : Option α) (e : ε) : Service ℓ σ ε α :=
  match o with
  | some a => pure a
  | none => throw e

/-- All steps of a service satisfy `P`. -/
def Does (P : σ → ℓ → σ → Prop) (x : Service ℓ σ ε α) : Prop := Process.Steps P x.run

lemma does_pure {a : α} : Does P (pure a : Service ℓ σ ε α) := trivial

lemma does_throw {e : ε} : Does P (throw e : Service ℓ σ ε α) := trivial

lemma Does.mono {Q : σ → ℓ → σ → Prop} (hPQ : ∀ s l s', P s l s' → Q s l s') {x : Service ℓ σ ε α}
    (hx : Does P x) : Does Q x :=
  Process.Steps.mono hPQ hx

lemma Does.bind {x : Service ℓ σ ε α} {k : α → Service ℓ σ ε β} (hx : Does P x)
    (hk : ∀ a, Does P (k a)) : Does P (x >>= k) := by
  refine Process.Steps.bind hx fun r => ?_
  cases r with
  | ok a => exact hk a
  | error e => trivial

lemma Does.ite {c : Prop} [Decidable c] {x y : Service ℓ σ ε α} (hx : Does P x) (hy : Does P y) :
    Does P (if c then x else y) := by
  split
  · exact hx
  · exact hy

lemma Does.forM {f : β → Service ℓ σ ε Unit} {l : List β} (hf : ∀ b, Does P (f b)) : Does P (l.forM f) := by
  induction l with
  | nil => exact does_pure
  | cons b l ih => exact (hf b).bind fun _ => ih

lemma does_lookup {l : ℓ} {f : σ → α} (h : ∀ s, P s l s) : Does P (lookup l f : Service ℓ σ ε α) :=
  fun s => ⟨h s, trivial⟩

lemma does_atomically {label : Except ε α → ℓ} {x : Tx σ ε α}
    (hcommits : ∀ s a s', Commits x s a s' → P s (label (.ok a)) s')
    (herror : ∀ s e, P s (label (.error e)) s) : Does P (atomically label x) := by
  refine fun s => ⟨?_, trivial⟩
  rcases execute_cases x s with ⟨a, ha, hc⟩ | ⟨e, he, hs⟩
  · dsimp only
    rw [ha]
    exact hcommits s a _ hc
  · dsimp only
    rw [he, hs]
    exact herror s e

lemma does_check {c : Prop} [Decidable c] {e : ε} : Does P (check c e : Service ℓ σ ε Unit) :=
  Does.ite does_pure does_throw

lemma does_expect {o : Option α} {e : ε} : Does P (expect o e : Service ℓ σ ε α) := by
  cases o with
  | none => exact does_throw
  | some a => exact does_pure

lemma does_ofExcept {x : Except ε α} : Does P (ofExcept x : Service ℓ σ ε α) := by
  cases x with
  | error e => exact does_throw
  | ok a => exact does_pure

end

/-! ### A process that runs alone -/

section

variable {ℓ σ ε α β : Type}

/-- What the process returns, and what it leaves, when nothing else happens meanwhile. -/
def Process.solo : Process ℓ σ α → σ → α × σ
  | done a, s => (a, s)
  | step act next, s => (next s).solo (act s).2

lemma Process.solo_bind {x : Process ℓ σ α} {k : α → Process ℓ σ β} {s : σ} :
    (x >>= k).solo s = (k (x.solo s).1).solo (x.solo s).2 := by
  induction x generalizing s with
  | done a => rfl
  | step act next ih => exact ih s

/-- Run alone, the service returns `a` and leaves `s'`. -/
def Alone (x : Service ℓ σ ε α) (s : σ) (a : α) (s' : σ) : Prop := x.run.solo s = (.ok a, s')

variable {x : Service ℓ σ ε α} {s s' : σ} {a : α} {b : β}

lemma alone_pure {c : α} : Alone (pure c : Service ℓ σ ε α) s a s' ↔ c = a ∧ s = s' := by
  change ((Except.ok c : Except ε α), s) = (.ok a, s') ↔ _
  rw [Prod.mk.injEq, Except.ok.injEq]

lemma not_alone_throw {e : ε} : ¬ Alone (throw e : Service ℓ σ ε α) s a s' := by
  intro h
  cases (Prod.mk.inj h).1

variable {k : α → Service ℓ σ ε β}

lemma alone_bind : Alone (x >>= k) s b s' ↔ ∃ a t, Alone x s a t ∧ Alone (k a) t b s' := by
  have hbind : (x >>= k).run.solo s = (ExceptT.bindCont k (x.run.solo s).1).solo (x.run.solo s).2 :=
    Process.solo_bind
  unfold Alone
  rw [hbind]
  cases hx : x.run.solo s with
  | mk r t =>
    cases r with
    | error e =>
      constructor
      · intro h
        have h : ((Except.error e : Except ε β), t) = (.ok b, s') := h
        cases (Prod.mk.inj h).1
      · rintro ⟨a, u, h, _⟩
        cases (Prod.mk.inj h).1
    | ok a =>
      constructor
      · exact fun h => ⟨a, t, rfl, h⟩
      · rintro ⟨a', u, h, hk⟩
        obtain ⟨hr, rfl⟩ := Prod.mk.inj h
        obtain rfl := Except.ok.inj hr
        exact hk

lemma alone_lookup {l : ℓ} {f : σ → α} : Alone (lookup l f : Service ℓ σ ε α) s a s' ↔ f s = a ∧ s = s' := by
  change ((Except.ok (f s) : Except ε α), s) = (.ok a, s') ↔ _
  rw [Prod.mk.injEq, Except.ok.injEq]

lemma alone_check {c : Prop} [Decidable c] {e : ε} {u : Unit} :
    Alone (check c e : Service ℓ σ ε Unit) s u s' ↔ c ∧ s = s' := by
  unfold check
  split
  next hc => simp [alone_pure, hc]
  next hc => simp [not_alone_throw, hc]

lemma alone_expect {o : Option α} {e : ε} :
    Alone (expect o e : Service ℓ σ ε α) s a s' ↔ o = some a ∧ s = s' := by
  cases o with
  | none => simp [expect, not_alone_throw]
  | some c => simp [expect, alone_pure]

variable {label : Except ε α → ℓ} {t : Tx σ ε α}

lemma alone_atomically : Alone (atomically label t) s a s' ↔ Commits t s a s' := by
  constructor
  · intro h
    obtain ⟨hr, rfl⟩ := Prod.mk.inj h
    exact commits_of_execute hr
  · intro h
    have hexecute := execute_of_commits h
    exact Prod.ext (congrArg Prod.fst hexecute) (congrArg Prod.snd hexecute)

/-- Run alone, the service does what the transaction does. -/
def Solo (x : Service ℓ σ ε α) (t : Tx σ ε α) : Prop := ∀ s a s', Alone x s a s' ↔ Commits t s a s'

lemma Solo.bind {f : α → Tx σ ε β} (hx : Solo x t) (hk : ∀ a, Solo (k a) (f a)) : Solo (x >>= k) (t >>= f) := by
  intro s b s'
  rw [alone_bind, commits_bind]
  exact exists_congr fun a => exists_congr fun s₁ => and_congr (hx s a s₁) (hk a s₁ b s')

lemma Solo.ite {c : Prop} [Decidable c] {y : Service ℓ σ ε α} {t u : Tx σ ε α} (hx : Solo x t) (hy : Solo y u) :
    Solo (if c then x else y) (if c then t else u) := by
  split
  · exact hx
  · exact hy

lemma solo_pure {a : α} : Solo (pure a : Service ℓ σ ε α) (pure a) := by
  intro s b s'
  rw [alone_pure, commits_pure]

lemma solo_atomically : Solo (atomically label t) t :=
  fun _ _ _ => alone_atomically

lemma solo_check {c : Prop} [Decidable c] {e : ε} : Solo (check c e : Service ℓ σ ε Unit) (require c e) := by
  intro s u s'
  rw [alone_check, commits_require]

lemma solo_expect {o : Option α} {e : ε} : Solo (expect o e : Service ℓ σ ε α) (orThrow o e) := by
  intro s a s'
  rw [alone_expect, commits_orThrow]

/-- What a loop checks of every element, where its body leaves the state alone. -/
lemma Alone.forM {f : β → Service ℓ σ ε Unit} {l : List β} {u : Unit} {P : β → Prop}
    (hf : ∀ b s s', Alone (f b) s () s' → P b) (h : Alone (l.forM f) s u s') : ∀ b ∈ l, P b := by
  induction l generalizing s with
  | nil => simp
  | cons b l ih =>
    obtain ⟨_, t, hb, hrest⟩ := alone_bind.mp h
    exact List.forall_mem_cons.mpr ⟨hf b s t hb, ih hrest⟩

/-- A service whose steps leave the state alone leaves it alone. -/
lemma Does.alone {P : σ → ℓ → σ → Prop} (hP : ∀ s l s', P s l s' → s' = s) (hx : Does P x)
    (h : Alone x s a s') : s' = s := by
  have hsolo : ∀ (y : Process ℓ σ (Except ε α)) (t : σ), y.Steps P → (y.solo t).2 = t := by
    intro y
    induction y with
    | done r => exact fun _ _ => rfl
    | step act next ih =>
      intro t hy
      have hsame := hP _ _ _ (hy t).1
      refine (ih t _ (hy t).2).trans hsame
  rw [← hsolo x.run s hx, h]

end

/-! ### Pools -/

variable {ρ μ ℓ σ α : Type}

/-- A state and the processes that run on it. -/
structure Pool (ℓ σ α : Type) where
  state : σ
  running : ℕ → Option (Process ℓ σ α)

inductive PoolAction (ρ ℓ α : Type)
  | starts (i : ℕ) (r : ρ)
  | steps (i : ℕ) (l : ℓ)
  | answers (i : ℕ) (a : α)
  | crashes (i : ℕ)
  | outside

/-- The label of an action that is a step of a process. -/
def PoolAction.label : PoolAction ρ ℓ α → Option ℓ
  | steps _ l => some l
  | starts _ _ | answers _ _ | crashes _ | outside => none

/-- The steps of a pool that serves requests, next to steps `env` from outside. -/
inductive PoolStep (serve : ρ → Process ℓ σ α) (env : σ → σ → Prop) (p : Pool ℓ σ α) :
    PoolAction ρ ℓ α → Pool ℓ σ α → Prop
  | starts {i : ℕ} {r : ρ} (h : p.running i = none) :
      PoolStep serve env p (.starts i r)
        { p with running := Function.update p.running i (some (serve r)) }
  | steps {i : ℕ} {act : σ → ℓ × σ} {next : σ → Process ℓ σ α}
      (h : p.running i = some (.step act next)) :
      PoolStep serve env p (.steps i (act p.state).1)
        { state := (act p.state).2
          running := Function.update p.running i (some (next p.state)) }
  | answers {i : ℕ} {a : α} (h : p.running i = some (.done a)) :
      PoolStep serve env p (.answers i a) { p with running := Function.update p.running i none }
  | crashes {i : ℕ} :
      PoolStep serve env p (.crashes i) { p with running := Function.update p.running i none }
  | outside {s : σ} (h : env p.state s) : PoolStep serve env p .outside { p with state := s }

/-- What a step of a pool does to the state. -/
inductive StateStep (P : σ → ℓ → σ → Prop) (env : σ → σ → Prop) (s : σ) : Option ℓ → σ → Prop
  | step {l : ℓ} {s' : σ} (h : P s l s') : StateStep P env s (some l) s'
  | idle : StateStep P env s none s
  | outside {s' : σ} (h : env s s') : StateStep P env s none s'

namespace Pool

variable {serve : ρ → Process ℓ σ α} {env : σ → σ → Prop} {P : σ → ℓ → σ → Prop} {p q : Pool ℓ σ α}

/-- No process is running. -/
def Idle (p : Pool ℓ σ α) : Prop := ∀ i, p.running i = none

/-- All steps that are still to be made satisfy `P`. -/
def Steps (P : σ → ℓ → σ → Prop) (p : Pool ℓ σ α) : Prop :=
  ∀ i x, p.running i = some x → x.Steps P

lemma Idle.steps (h : p.Idle) : p.Steps P := by
  intro i x hx
  cases (h i).symm.trans hx

lemma Steps.update {i : ℕ} {x : Option (Process ℓ σ α)} {s : σ} (h : p.Steps P)
    (hx : ∀ y, x = some y → y.Steps P) : Steps P ⟨s, Function.update p.running i x⟩ := by
  intro j y hy
  by_cases hj : j = i
  · subst hj
    dsimp only at hy
    rw [Function.update_self] at hy
    exact hx y hy
  · dsimp only at hy
    rw [Function.update_of_ne hj] at hy
    exact h j y hy

variable {c : PoolAction ρ ℓ α}

lemma Steps.step (hserve : ∀ r, (serve r).Steps P) (h : p.Steps P)
    (hstep : PoolStep serve env p c q) : q.Steps P := by
  cases hstep with
  | starts _ =>
    refine h.update fun y hy => ?_
    obtain rfl := Option.some.inj hy
    exact hserve _
  | steps hi =>
    refine h.update fun y hy => ?_
    obtain rfl := Option.some.inj hy
    exact (h _ _ hi p.state).2
  | answers _ => exact h.update (by simp)
  | crashes => exact h.update (by simp)
  | outside _ => exact h

lemma Steps.state (h : p.Steps P) (hstep : PoolStep serve env p c q) :
    StateStep P env p.state c.label q.state := by
  cases hstep with
  | starts _ | answers _ | crashes => exact .idle
  | steps hi => exact .step (h _ _ hi p.state).1
  | outside henv => exact .outside henv

/-- The steps of a pool that meet a condition on the state, on the state alone. -/
lemma run_state {c : σ → Option ℓ → Prop} (hserve : ∀ r, (serve r).Steps P) (hsteps : p.Steps P)
    {as : List (PoolAction ρ ℓ α)}
    (h : Run (Guarded (fun p a => c p.state a.label) (PoolStep serve env)) p as q) :
    Run (Guarded c (StateStep P env)) p.state (as.map PoolAction.label) q.state := by
  refine h.simulates (J := Steps P) (f := state) ?_ ?_ hsteps
  · exact fun _ _ _ hs hstep => hs.step hserve hstep.2
  · exact fun _ _ _ hs hstep => ⟨hstep.1, hs.state hstep.2⟩

/-- The same without a condition. -/
lemma run_state_of_run (hserve : ∀ r, (serve r).Steps P) (hsteps : p.Steps P)
    {as : List (PoolAction ρ ℓ α)} (h : Run (PoolStep serve env) p as q) :
    Run (StateStep P env) p.state (as.map PoolAction.label) q.state := by
  refine h.simulates (J := Steps P) (f := state) ?_ ?_ hsteps
  · exact fun _ _ _ hs hstep => hs.step hserve hstep
  · exact fun _ _ _ hs hstep => hs.state hstep

lemma Steps.run (hserve : ∀ r, (serve r).Steps P) (hsteps : p.Steps P)
    {as : List (PoolAction ρ ℓ α)} (h : Run (PoolStep serve env) p as q) : q.Steps P :=
  h.invariant (fun _ _ _ hs hstep => hs.step hserve hstep) hsteps

/-! ### Schedules -/

inductive Turn (ρ μ : Type)
  | start (i : ℕ) (r : ρ)
  | step (i : ℕ)
  | answer (i : ℕ)
  | outside (m : μ)

def turn (serve : ρ → Process ℓ σ α) (moves : μ → σ → σ) (p : Pool ℓ σ α) :
    Turn ρ μ → Option (PoolAction ρ ℓ α × Pool ℓ σ α)
  | .start i r =>
    match p.running i with
    | none =>
      some (.starts i r, { p with running := Function.update p.running i (some (serve r)) })
    | some _ => none
  | .step i =>
    match p.running i with
    | some (.step act next) =>
      some (.steps i (act p.state).1,
        { state := (act p.state).2
          running := Function.update p.running i (some (next p.state)) })
    | _ => none
  | .answer i =>
    match p.running i with
    | some (.done a) =>
      some (.answers i a, { p with running := Function.update p.running i none })
    | _ => none
  | .outside m => some (.outside, { p with state := moves m p.state })

def play (serve : ρ → Process ℓ σ α) (moves : μ → σ → σ) (c : σ → Option ℓ → Prop)
    [∀ s l, Decidable (c s l)] (p : Pool ℓ σ α) :
    List (Turn ρ μ) → Option (List (PoolAction ρ ℓ α) × Pool ℓ σ α)
  | [] => some ([], p)
  | t :: ts => do
    let (a, q) ← (p.turn serve moves t).filter fun (a, _) => c p.state a.label
    let (as, r) ← q.play serve moves c ts
    pure (a :: as, r)

variable {moves : μ → σ → σ}

lemma step_of_turn (hmoves : ∀ m s, env s (moves m s)) {t : Turn ρ μ} {a : PoolAction ρ ℓ α}
    (h : p.turn serve moves t = some (a, q)) : PoolStep serve env p a q := by
  unfold turn at h
  split at h
  · split at h
    · obtain ⟨rfl, rfl⟩ := Prod.mk.inj (Option.some.inj h)
      exact .starts ‹_›
    · cases h
  · split at h
    · obtain ⟨rfl, rfl⟩ := Prod.mk.inj (Option.some.inj h)
      exact .steps ‹_›
    · cases h
  · split at h
    · obtain ⟨rfl, rfl⟩ := Prod.mk.inj (Option.some.inj h)
      exact .answers ‹_›
    · cases h
  · obtain ⟨rfl, rfl⟩ := Prod.mk.inj (Option.some.inj h)
    exact .outside (hmoves _ _)

lemma run_of_play (hmoves : ∀ m s, env s (moves m s)) {c : σ → Option ℓ → Prop}
    [∀ s l, Decidable (c s l)] {ts : List (Turn ρ μ)} {as : List (PoolAction ρ ℓ α)}
    (h : p.play serve moves c ts = some (as, q)) :
    Run (Guarded (fun p a => c p.state a.label) (PoolStep serve env)) p as q := by
  induction ts generalizing p as with
  | nil =>
    obtain ⟨rfl, rfl⟩ := Prod.mk.inj (Option.some.inj h)
    exact Run.nil p
  | cons t ts ih =>
    simp only [play, Option.bind_eq_bind, Option.bind_eq_some_iff, Option.pure_def,
      Option.some.injEq, Option.filter_eq_some_iff, Prod.mk.injEq, Prod.exists, decide_eq_true_eq] at h
    obtain ⟨a, r, ⟨hturn, hc⟩, as', q', hplay, rfl, rfl⟩ := h
    exact Run.cons ⟨hc, step_of_turn hmoves hturn⟩ (ih hplay)

lemma exists_run_of_play (serve : ρ → Process ℓ σ α) (p : Pool ℓ σ α)
    (hmoves : ∀ m s, env s (moves m s)) (c : σ → Option ℓ → Prop) [∀ s l, Decidable (c s l)]
    (ts : List (Turn ρ μ)) (wanted : List (Option ℓ) → σ → Prop) [∀ ls s, Decidable (wanted ls s)]
    (h : (p.play serve moves c ts).any (fun (as, q) => wanted (as.map PoolAction.label) q.state) = true) :
    ∃ as q, Run (Guarded (fun p a => c p.state a.label) (PoolStep serve env)) p as q ∧
      wanted (as.map PoolAction.label) q.state := by
  rw [Option.any_eq_true] at h
  obtain ⟨⟨as, q⟩, hplay, hwanted⟩ := h
  exact ⟨as, q, run_of_play hmoves hplay, of_decide_eq_true hwanted⟩

lemma exists_runs_of_play (serve : ρ → Process ℓ σ α) (p : Pool ℓ σ α)
    (hmoves : ∀ m s, env s (moves m s)) (c : σ → Option ℓ → Prop) [∀ s l, Decidable (c s l)]
    (ts us : List (Turn ρ μ)) (wanted : List (Option ℓ) → σ → σ → Prop)
    [∀ ls s t, Decidable (wanted ls s t)]
    (h : (p.play serve moves c ts).any (fun (as, q) => (q.play serve moves c us).any fun (bs, r) =>
      wanted ((as ++ bs).map PoolAction.label) q.state r.state) = true) :
    ∃ as q bs r, Run (Guarded (fun p a => c p.state a.label) (PoolStep serve env)) p as q ∧
      Run (Guarded (fun p a => c p.state a.label) (PoolStep serve env)) q bs r ∧
      wanted ((as ++ bs).map PoolAction.label) q.state r.state := by
  rw [Option.any_eq_true] at h
  obtain ⟨⟨as, q⟩, hplay, h⟩ := h
  rw [Option.any_eq_true] at h
  obtain ⟨⟨bs, r⟩, hplay', hwanted⟩ := h
  exact ⟨as, q, bs, r, run_of_play hmoves hplay, run_of_play hmoves hplay', of_decide_eq_true hwanted⟩

end Pool

/-! ### Observers -/

section

variable {σ α γ : Type}

/-- The steps of a system next to an observer. -/
def Observed (observe : γ → α → σ → γ) (step : σ → α → σ → Prop) (s : σ × γ) (a : α) (s' : σ × γ) : Prop :=
  step s.1 a s'.1 ∧ s'.2 = observe s.2 a s'.1

namespace Pool

variable {ρ μ ℓ β : Type} {serve : ρ → Process ℓ σ β} {moves : μ → σ → σ} {env : σ → σ → Prop}

def watch (serve : ρ → Process ℓ σ β) (moves : μ → σ → σ) (c : σ → Option ℓ → Prop) [∀ s l, Decidable (c s l)]
    (observe : γ → PoolAction ρ ℓ β → Pool ℓ σ β → γ) (p : Pool ℓ σ β) (g : γ) :
    List (Turn ρ μ) → Option (List (PoolAction ρ ℓ β) × Pool ℓ σ β × γ)
  | [] => some ([], p, g)
  | t :: ts => do
    let (a, q) ← (p.turn serve moves t).filter fun (a, _) => c p.state a.label
    let (as, r) ← q.watch serve moves c observe (observe g a q) ts
    pure (a :: as, r)

lemma not_crashes_of_turn {p q : Pool ℓ σ β} {t : Turn ρ μ} {a : PoolAction ρ ℓ β}
    (h : p.turn serve moves t = some (a, q)) (i : ℕ) : a ≠ .crashes i := by
  rintro rfl
  unfold turn at h
  split at h <;> (try split at h) <;> cases h

lemma observed_of_watch {c : σ → Option ℓ → Prop} [∀ s l, Decidable (c s l)]
    {observe : γ → PoolAction ρ ℓ β → Pool ℓ σ β → γ} (hmoves : ∀ m s, env s (moves m s)) {p : Pool ℓ σ β} {g : γ}
    {ts : List (Turn ρ μ)} {as : List (PoolAction ρ ℓ β)} {r : Pool ℓ σ β × γ}
    (h : p.watch serve moves c observe g ts = some (as, r)) :
    Run (Guarded (fun w a => c w.1.state a.label ∧ ∀ i, a ≠ .crashes i) (Observed observe (PoolStep serve env)))
      (p, g) as r := by
  induction ts generalizing p g as with
  | nil =>
    obtain ⟨rfl, rfl⟩ := Prod.mk.inj (Option.some.inj h)
    exact Run.nil _
  | cons t ts ih =>
    simp only [watch, Option.bind_eq_bind, Option.bind_eq_some_iff, Option.pure_def, Option.some.injEq,
      Option.filter_eq_some_iff, Prod.exists, Prod.mk.injEq, decide_eq_true_eq] at h
    obtain ⟨a, q, ⟨hturn, hc⟩, as', q', g', hwatch, rfl, rfl⟩ := h
    exact Run.cons ⟨⟨hc, not_crashes_of_turn hturn⟩, step_of_turn hmoves hturn, rfl⟩ (ih hwatch)

lemma exists_observed_of_watch (serve : ρ → Process ℓ σ β) (hmoves : ∀ m s, env s (moves m s))
    (c : σ → Option ℓ → Prop) [∀ s l, Decidable (c s l)]
    (observe : γ → PoolAction ρ ℓ β → Pool ℓ σ β → γ) (p : Pool ℓ σ β) (g : γ) (ts : List (Turn ρ μ))
    (wanted : σ → γ → Prop) [∀ s g, Decidable (wanted s g)]
    (h : (p.watch serve moves c observe g ts).any (fun (_, q, g') => wanted q.state g') = true) :
    ∃ as r, Run (Guarded (fun w a => c w.1.state a.label ∧ ∀ i, a ≠ .crashes i)
      (Observed observe (PoolStep serve env))) (p, g) as r ∧ wanted r.1.state r.2 := by
  rw [Option.any_eq_true] at h
  obtain ⟨⟨as, r⟩, hwatch, hwanted⟩ := h
  exact ⟨as, r, observed_of_watch hmoves hwatch, of_decide_eq_true hwanted⟩

end Pool

end

end Mayatoko.Core
