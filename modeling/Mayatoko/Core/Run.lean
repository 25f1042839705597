import Mathlib.Data.List.Basic

/-!
# Runs of a transition system

A system is a relation `step s a s'`: action `a` takes `s` to `s'`. `Run step s as s'` says that
the actions `as`, in order, lead from `s` to `s'`. A run all of whose steps meet a condition on
the state before the step and the action is a run of the guarded system.
-/

namespace Mayatoko.Core

variable {σ α : Type*} {step : σ → α → σ → Prop}

/-- The actions `as`, in order, lead from one state to the other. -/
inductive Run (step : σ → α → σ → Prop) : σ → List α → σ → Prop
  | nil (s : σ) : Run step s [] s
  | cons {s t u : σ} {a : α} {as : List α} :
      step s a t → Run step t as u → Run step s (a :: as) u

/-- The steps of a system that meet a condition. -/
def Guarded (c : σ → α → Prop) (step : σ → α → σ → Prop) (s : σ) (a : α) (s' : σ) : Prop :=
  c s a ∧ step s a s'

/-- The steps of a system that end in a state with a property. -/
def Landing (I : σ → Prop) (step : σ → α → σ → Prop) (s : σ) (a : α) (s' : σ) : Prop :=
  step s a s' ∧ I s'

/-- What is new in a history occurs in it once. -/
lemma count_append_le_one {α : Type*} [BEq α] [LawfulBEq α] {l : List α} {a b : α} (h : l.count b ≤ 1)
    (hnew : a ∉ l) : (l ++ [a]).count b ≤ 1 := by
  rw [List.count_append]
  by_cases hb : b ∈ l
  · have hzero : [a].count b = 0 := by
      rw [List.count_eq_zero, List.mem_singleton]
      rintro rfl
      exact hnew hb
    omega
  · rw [List.count_eq_zero.mpr hb, Nat.zero_add]
    exact List.count_le_length

namespace Run

variable {s s' : σ}

lemma nil_iff : Run step s [] s' ↔ s = s' := by
  constructor
  · rintro ⟨⟩
    rfl
  · rintro rfl
    exact nil s

variable {as : List α}

lemma cons_iff {a : α} : Run step s (a :: as) s' ↔ ∃ t, step s a t ∧ Run step t as s' := by
  constructor
  · rintro (_ | ⟨h, hr⟩)
    exact ⟨_, h, hr⟩
  · rintro ⟨t, h, hr⟩
    exact cons h hr

lemma append_iff {bs : List α} : Run step s (as ++ bs) s' ↔ ∃ t, Run step s as t ∧ Run step t bs s' := by
  induction as generalizing s with
  | nil => simp [nil_iff]
  | cons a as ih =>
    simp only [List.cons_append, cons_iff, ih]
    constructor
    · rintro ⟨u, hu, t, h₁, h₂⟩
      exact ⟨t, ⟨u, hu, h₁⟩, h₂⟩
    · rintro ⟨t, ⟨u, hu, h₁⟩, h₂⟩
      exact ⟨u, hu, t, h₁, h₂⟩

variable {I : σ → Prop}

/-- What every step preserves, every run preserves. -/
lemma invariant (hstep : ∀ s a s', I s → step s a s' → I s') {s s' : σ}
    {as : List α} (h : Run step s as s') (hI : I s) : I s' := by
  induction h with
  | nil => exact hI
  | cons hs _ ih => exact ih (hstep _ _ _ hI hs)

/-- The same for what is said of a state and of the actions that have led to it. -/
lemma invariant_past {I : List α → σ → Prop}
    (hstep : ∀ past s a s', I past s → step s a s' → I (past ++ [a]) s') {past as : List α} {s s' : σ}
    (h : Run step s as s') (hI : I past s) : I (past ++ as) s' := by
  induction h generalizing past with
  | nil =>
    rw [List.append_nil]
    exact hI
  | @cons _ _ _ a as hs _ ih =>
    have hrest := ih (hstep _ _ _ _ hI hs)
    rwa [List.append_assoc] at hrest

variable {c : σ → α → Prop}

/-- Let `J` hold of every past and the state it has led to. A run whose steps, each looked at together with
all that was done before and after it, meet a condition is a run of the guarded system. -/
lemma guarded_of_past {J : List α → σ → Prop}
    (hJ : ∀ past s a s', J past s → step s a s' → J (past ++ [a]) s') {past as : List α} {s s' : σ}
    (h : Run step s as s') (hs : J past s)
    (hc : ∀ before a after t t', past ++ as = before ++ a :: after → J before t → step t a t' → c t a) :
    Run (Guarded c step) s as s' := by
  induction h generalizing past with
  | nil s => exact Run.nil s
  | @cons s t _ a as hstep _ ih =>
    refine Run.cons ⟨hc past a as s t rfl hs hstep, hstep⟩ (ih (hJ _ _ _ _ hs hstep) ?_)
    intro before b after u u' hsplit
    rw [List.append_assoc, List.singleton_append] at hsplit
    exact hc before b after u u' hsplit

lemma map {β : Type*} {step' : σ → β → σ → Prop} {f : α → β}
    (hstep : ∀ s a s', step s a s' → step' s (f a) s') {s s' : σ} {as : List α}
    (h : Run step s as s') : Run step' s (as.map f) s' := by
  induction h with
  | nil s => exact nil s
  | cons hs _ ih => exact cons (hstep _ _ _ hs) ih

variable {J : σ → Prop}

/-- A system with the invariant `J` whose steps are steps of another one on the states `f` and the
actions `g` has its runs as well. -/
lemma simulates {τ β : Type*} {step' : τ → β → τ → Prop} {f : σ → τ} {g : α → β}
    (hJ : ∀ s a s', J s → step s a s' → J s')
    (hstep : ∀ s a s', J s → step s a s' → step' (f s) (g a) (f s')) {s s' : σ} {as : List α}
    (h : Run step s as s') (hs : J s) : Run step' (f s) (as.map g) (f s') := by
  induction h with
  | nil s => exact nil (f s)
  | cons hfirst _ ih => exact cons (hstep _ _ _ hs hfirst) (ih (hJ _ _ _ hs hfirst))

/-- A run of a system is a run of any other that has its steps. -/
lemma mono {step' : σ → α → σ → Prop} (hstep : ∀ s a s', step s a s' → step' s a s') {s s' : σ}
    {as : List α} (h : Run step s as s') : Run step' s as s' := by
  induction h with
  | nil s => exact nil s
  | cons hs _ ih => exact cons (hstep _ _ _ hs) ih

variable {P : σ → α → σ → Prop}

/-- What every step from a state with an invariant satisfies, every step of a run satisfies. -/
lemma and_of_invariant
    (hI : ∀ s a s', I s → step s a s' → I s') (hP : ∀ s a s', I s → step s a s' → P s a s')
    {s s' : σ} {as : List α} (h : Run step s as s') (hs : I s) :
    Run (fun s a s' => step s a s' ∧ P s a s') s as s' := by
  induction h with
  | nil s => exact nil s
  | cons hstep _ ih => exact cons ⟨hstep, hP _ _ _ hs hstep⟩ (ih (hI _ _ _ hs hstep))

/-- The steps of a run of a guarded system are steps of the system. -/
lemma of_guarded (h : Run (Guarded c step) s as s') : Run step s as s' :=
  h.mono fun _ _ _ hg => hg.2

/-- Let a step from a state with `I` that meets the condition preserve `I`. Where a step from such a state has
the property `P` exactly if it meets the condition, all steps of a run have `P` exactly if all of them meet it. -/
lemma and_iff_guarded
    (hI : ∀ s a s', I s → step s a s' → c s a → I s')
    (hstep : ∀ s a s', I s → step s a s' → (P s a s' ↔ c s a)) {s s' : σ} {as : List α} (hs : I s) :
    Run (fun s a s' => step s a s' ∧ P s a s') s as s' ↔ Run (Guarded c step) s as s' := by
  induction as generalizing s with
  | nil => simp [nil_iff]
  | cons a as ih =>
    simp only [cons_iff, Guarded]
    constructor
    · rintro ⟨t, ⟨hst, hp⟩, hr⟩
      have hc := (hstep s a t hs hst).mp hp
      exact ⟨t, ⟨hc, hst⟩, (ih (hI s a t hs hst hc)).mp hr⟩
    · rintro ⟨t, ⟨hc, hst⟩, hr⟩
      have hp := (hstep s a t hs hst).mpr hc
      exact ⟨t, ⟨hst, hp⟩, (ih (hI s a t hs hst hc)).mpr hr⟩

/-- Let every step preserve `J`. Where a step from a state with `J` has the property `P` exactly if it
meets the condition, all steps of a run have `P` exactly if all of them meet it. -/
lemma and_iff_guarded_of_invariant
    (hJ : ∀ s a s', J s → step s a s' → J s')
    (hstep : ∀ s a s', J s → step s a s' → (P s a s' ↔ c s a)) {s s' : σ} {as : List α} (hs : J s) :
    Run (fun s a s' => step s a s' ∧ P s a s') s as s' ↔ Run (Guarded c step) s as s' :=
  and_iff_guarded (fun s a s' hs hst _ => hJ s a s' hs hst) hstep hs

/-- What every step that meets a condition preserves, every run whose steps meet it preserves. -/
lemma invariant_of_guarded
    (hstep : ∀ s a s', I s → c s a → step s a s' → I s') {s s' : σ} {as : List α}
    (h : Run (Guarded c step) s as s') (hI : I s) : I s' :=
  h.invariant (fun s a s' hs hg => hstep s a s' hs hg.1 hg.2) hI

/-- Let every step preserve `J`, and let a step with the property `P` end in a state with `I`. Where a step
from a state with `I` has `P` exactly if it meets the condition, all steps of a run have `P` exactly if all
of them meet it. -/
lemma and_iff_guarded_of_landing
    (hJ : ∀ s a s', J s → step s a s' → J s') (hP : ∀ s a s', P s a s' → I s')
    (hstep : ∀ s a s', J s → I s → step s a s' → (P s a s' ↔ c s a)) {s s' : σ} {as : List α}
    (hs : J s) (hI : I s) :
    Run (fun s a s' => step s a s' ∧ P s a s') s as s' ↔ Run (Guarded c step) s as s' := by
  refine and_iff_guarded (I := fun s => J s ∧ I s) ?_ ?_ ⟨hs, hI⟩
  · intro s a s' hs hst hc
    exact ⟨hJ s a s' hs.1 hst, hP s a s' ((hstep s a s' hs.1 hs.2 hst).mpr hc)⟩
  · exact fun s a s' hs hst => hstep s a s' hs.1 hs.2 hst

/-- Let every step preserve `J`. Where a step from a state with `I` ends in one with `I` exactly if it
meets the condition, `I` holds along a run exactly if all its steps meet the condition. -/
lemma landing_iff_guarded_of_invariant
    (hJ : ∀ s a s', J s → step s a s' → J s')
    (hstep : ∀ s a s', J s → I s → step s a s' → (I s' ↔ c s a)) {s s' : σ} {as : List α}
    (hs : J s) (hI : I s) :
    Run (Landing I step) s as s' ↔ Run (Guarded c step) s as s' :=
  and_iff_guarded_of_landing (P := fun _ _ s' => I s') hJ (fun _ _ _ h => h) hstep hs hI

/-- The same without `J`. -/
lemma landing_iff_guarded
    (hstep : ∀ s a s', I s → step s a s' → (I s' ↔ c s a)) {s s' : σ} {as : List α} (hI : I s) :
    Run (Landing I step) s as s' ↔ Run (Guarded c step) s as s' := by
  refine landing_iff_guarded_of_invariant (J := fun _ => True) ?_ ?_ trivial hI
  · exact fun _ _ _ _ _ => trivial
  · exact fun s a s' _ hs h => hstep s a s' hs h

end Run

end Mayatoko.Core
