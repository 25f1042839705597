import Mayatoko.Core.Protocol

/-!
# Leases

Processes hold rows of a shared state for a time: the end of the lease that was given last stands in the
row. A process whose lease has run out may not know it. As long as no row is given away before the lease
in it has run out, a lease that still runs is the one in the row, and no two processes have one.
-/

namespace Mayatoko.Core

/-- How the rows of a state are held: the clock, the row that a process holds in a stage with the end of its
lease, and the end of the lease that stands in a row. -/
structure Leasing (σ Q : Type) where
  now : σ → ℕ
  held : Q → Option (ℕ × ℕ)
  standing : σ → ℕ → Option ℕ

namespace Leasing

variable {σ Q : Type} {L : Leasing σ Q} {p : Staged σ Q} {s' : σ} {i j k lease : ℕ}

/-- Process `i` holds row `k` by a lease that still runs. -/
def Live (L : Leasing σ Q) (p : Staged σ Q) (i k lease : ℕ) : Prop :=
  ∃ q, p.stage i = some q ∧ L.held q = some (k, lease) ∧ L.now p.state < lease

/-- A lease that runs is the one that stands in the row, and one process has it. -/
structure Exclusive (L : Leasing σ Q) (p : Staged σ Q) : Prop where
  leased : ∀ i k lease, L.Live p i k lease → L.standing p.state k = some lease
  alone : ∀ i j k lease lease', L.Live p i k lease → L.Live p j k lease' → i = j

lemma exclusive_idle {s : σ} : L.Exclusive ⟨s, fun _ => none⟩ := by
  constructor
  · rintro i k lease ⟨q, hq, _⟩
    cases hq
  · rintro i j k lease lease' ⟨q, hq, _⟩ _
    cases hq

lemma Live.update {x : Option Q} (hnow : L.now s' = L.now p.state)
    (h : L.Live ⟨s', Function.update p.stage i x⟩ j k lease) :
    j = i ∧ (∃ q, x = some q ∧ L.held q = some (k, lease)) ∧ L.now p.state < lease ∨
      j ≠ i ∧ L.Live p j k lease := by
  obtain ⟨q, hq, hheld, hlease⟩ := h
  by_cases hj : j = i
  · subst hj
    simp only [Function.update_self] at hq
    exact .inl ⟨rfl, ⟨q, hq, hheld⟩, hnow ▸ hlease⟩
  · simp only [Function.update_of_ne hj] at hq
    exact .inr ⟨hj, q, hq, hheld, hnow ▸ hlease⟩

/-- Process `i` goes to a stage in which it holds nothing new; the rows that the others hold keep their
leases, and so does the one it holds itself. -/
lemma Exclusive.restage {x : Option Q} (h : L.Exclusive p) (hnow : L.now s' = L.now p.state)
    (hother : ∀ j k lease, j ≠ i → L.Live p j k lease → L.standing s' k = L.standing p.state k)
    (hown : ∀ q k lease, x = some q → L.held q = some (k, lease) → L.now p.state < lease →
      L.Live p i k lease ∧ L.standing s' k = L.standing p.state k) :
    L.Exclusive ⟨s', Function.update p.stage i x⟩ := by
  have hlive {j k lease : ℕ} (hj : L.Live ⟨s', Function.update p.stage i x⟩ j k lease) :
      L.Live p j k lease ∧ L.standing s' k = L.standing p.state k := by
    obtain ⟨rfl, ⟨q, hq, hheld⟩, hlease⟩ | ⟨hji, hj⟩ := hj.update hnow
    · exact hown q k lease hq hheld hlease
    · exact ⟨hj, hother j k lease hji hj⟩
  constructor
  · intro j k lease hj
    obtain ⟨hj, hstanding⟩ := hlive hj
    exact hstanding.trans (h.leased j k lease hj)
  · intro j j' k lease lease' hj hj'
    exact h.alone j j' k lease lease' (hlive hj).1 (hlive hj').1

/-- Process `i` is given row `k`, of which no lease runs. -/
lemma Exclusive.give {q : Q} (h : L.Exclusive p) (hnow : L.now s' = L.now p.state)
    (hfree : ∀ j lease, ¬ L.Live p j k lease) (hheld : L.held q = some (k, lease))
    (hstanding : L.standing s' k = some lease)
    (hother : ∀ k', k' ≠ k → L.standing s' k' = L.standing p.state k') :
    L.Exclusive ⟨s', Function.update p.stage i (some q)⟩ := by
  have hlive {j k' lease' : ℕ} (hj : L.Live ⟨s', Function.update p.stage i (some q)⟩ j k' lease') :
      j = i ∧ k' = k ∧ lease' = lease ∨ k' ≠ k ∧ L.Live p j k' lease' := by
    obtain ⟨hji, ⟨_, hx, hheld'⟩, _⟩ | ⟨_, hj⟩ := hj.update hnow
    · obtain rfl := Option.some.inj hx
      obtain ⟨hk, hlease⟩ := Prod.mk.inj (Option.mem_unique hheld' hheld)
      exact .inl ⟨hji, hk, hlease⟩
    · refine .inr ⟨?_, hj⟩
      rintro rfl
      exact hfree j lease' hj
  constructor
  · intro j k' lease' hj
    obtain ⟨_, rfl, rfl⟩ | ⟨hne, hj⟩ := hlive hj
    · exact hstanding
    · exact (hother k' hne).trans (h.leased j k' lease' hj)
  · intro j j' k' lease₁ lease₂ hj hj'
    obtain ⟨rfl, rfl, _⟩ | ⟨hne, hj⟩ := hlive hj
    · obtain ⟨rfl, _⟩ | ⟨hne, _⟩ := hlive hj'
      · rfl
      · exact absurd rfl hne
    · obtain ⟨_, rfl, _⟩ | ⟨_, hj'⟩ := hlive hj'
      · exact absurd rfl hne
      · exact h.alone j j' k' lease₁ lease₂ hj hj'

/-- Of a row no lease runs when the one in it has run out. -/
lemma Exclusive.not_live (h : L.Exclusive p)
    (hout : ∀ lease, L.standing p.state k = some lease → lease ≤ L.now p.state) :
    ¬ L.Live p j k lease := by
  intro hj
  have hle := hout lease (h.leased j k lease hj)
  obtain ⟨_, _, _, hlease⟩ := hj
  omega

lemma Live.outside (hclock : L.now p.state ≤ L.now s') (hj : L.Live { p with state := s' } j k lease) :
    L.Live p j k lease := by
  obtain ⟨q, hq, hheld, hlease⟩ := hj
  exact ⟨q, hq, hheld, hclock.trans_lt hlease⟩

/-- Time passes, and the rows keep their leases. -/
lemma Exclusive.outside (h : L.Exclusive p) (hclock : L.now p.state ≤ L.now s')
    (hstanding : ∀ k lease, L.standing p.state k = some lease → L.standing s' k = some lease) :
    L.Exclusive { p with state := s' } := by
  constructor
  · exact fun j k lease hj => hstanding k lease (h.leased j k lease (hj.outside hclock))
  · exact fun i j k lease lease' hi hj =>
      h.alone i j k lease lease' (hi.outside hclock) (hj.outside hclock)

end Leasing

end Mayatoko.Core
