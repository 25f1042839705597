import Mayatoko.Core.Table
import Mayatoko.Core.Transaction

/-!
# Statements on one table of a store

A store is a state with several tables. `TableOf σ key` names one of them; the statements a
transaction can make on it are an insert, an update or an upsert addressed by the key, and a
conditional update that has to hit exactly one row. Each statement has one inversion rule, in
terms of `Table.put`.
-/

namespace Mayatoko.Core

/-- One of the tables of a store. -/
structure TableOf (σ : Type) {ρ κ : Type} (key : ρ → κ) where
  table : σ → Table key
  setTable : σ → Table key → σ

namespace TableOf

variable {σ ε ρ κ : Type} {key : ρ → κ}

/-- The table with a row written to it. -/
def write [DecidableEq κ] (T : TableOf σ key) (s : σ) (r : ρ) : σ := T.setTable s ((T.table s).put r)

/-- Insert a row; `e` is the violation of the key constraint. -/
def create [DecidableEq κ] (T : TableOf σ key) (r : ρ) (e : ε) : Tx σ ε Unit := do
  let s ← get
  require ((T.table s).find? (key r) = none) e
  set (T.write s r)

/-- Update the row of a key and return it; `e` is thrown where there is none. -/
def update [DecidableEq κ] (T : TableOf σ key) (k : κ) (f : ρ → ρ) (e : ε) : Tx σ ε ρ := do
  let s ← get
  let r ← orThrow ((T.table s).find? k) e
  set (T.write s (f r))
  pure (f r)

/-- Update the row with the key of `new`, or insert `new`. -/
def upsert [DecidableEq κ] (T : TableOf σ key) (new : ρ) (f : ρ → ρ) : Tx σ ε ρ := do
  let s ← get
  let r := ((T.table s).find? (key new)).elim new f
  set (T.write s r)
  pure r

/-- Update the rows of a filter and return their number. -/
def updateMany (T : TableOf σ key) (p : ρ → Bool) (f : ρ → ρ)
    (hf : ∀ r, key (f r) = key r := by intro _; rfl) : Tx σ ε ℕ := do
  let s ← get
  let u := (T.table s).updateMany p f hf
  set (T.setTable s u.1)
  pure u.2

/-- Remove the rows of a filter. -/
def deleteMany (T : TableOf σ key) (p : ρ → Bool) : Tx σ ε Unit := do
  let s ← get
  set (T.setTable s ((T.table s).deleteMany p))

/-- Update the rows of a filter, of which there must be exactly one. -/
def updateOne (T : TableOf σ key) (p : ρ → Bool) (f : ρ → ρ) (e : ε)
    (hf : ∀ r, key (f r) = key r := by intro _; rfl) : Tx σ ε Unit := do
  let changed ← T.updateMany p f hf
  require (changed = 1) e

/-! ### Inversion -/

variable {T : TableOf σ key} {s s' : σ} {u : Unit}

variable {p : ρ → Bool} {f : ρ → ρ}

lemma commits_updateMany {hf} {n : ℕ} : Commits (T.updateMany p f hf : Tx σ ε ℕ) s n s' ↔
      n = ((T.table s).updateMany p f hf).2 ∧ s' = T.setTable s ((T.table s).updateMany p f hf).1 := by
  simp only [updateMany, commits_bind, commits_get, commits_set, commits_pure]
  constructor
  · rintro ⟨_, _, ⟨rfl, rfl⟩, _, _, rfl, rfl, rfl⟩
    exact ⟨rfl, rfl⟩
  · rintro ⟨rfl, rfl⟩
    exact ⟨s, s, ⟨rfl, rfl⟩, (), _, rfl, rfl, rfl⟩

lemma commits_deleteMany : Commits (T.deleteMany p : Tx σ ε Unit) s u s' ↔
      s' = T.setTable s ((T.table s).deleteMany p) := by
  simp only [deleteMany, commits_bind, commits_get, commits_set]
  constructor
  · rintro ⟨_, _, ⟨rfl, rfl⟩, rfl⟩
    rfl
  · rintro rfl
    exact ⟨s, s, ⟨rfl, rfl⟩, rfl⟩

variable [DecidableEq κ]

variable {e : ε}

lemma commits_create {r : ρ} :
    Commits (T.create r e) s u s' ↔ (T.table s).find? (key r) = none ∧ s' = T.write s r := by
  simp only [create, commits_bind, commits_get, commits_set, commits_require]
  constructor
  · rintro ⟨_, _, ⟨rfl, rfl⟩, _, _, ⟨h, rfl⟩, rfl⟩
    exact ⟨h, rfl⟩
  · rintro ⟨h, rfl⟩
    exact ⟨s, s, ⟨rfl, rfl⟩, (), s, ⟨h, rfl⟩, rfl⟩

lemma commits_update {k : κ} {r' : ρ} : Commits (T.update k f e) s r' s' ↔
      ∃ r, (T.table s).find? k = some r ∧ r' = f r ∧ s' = T.write s (f r) := by
  simp only [update, commits_bind, commits_get, commits_set, commits_orThrow, commits_pure]
  constructor
  · rintro ⟨_, _, ⟨rfl, rfl⟩, r, _, ⟨h, rfl⟩, _, _, rfl, rfl, rfl⟩
    exact ⟨r, h, rfl, rfl⟩
  · rintro ⟨r, h, rfl, rfl⟩
    exact ⟨s, s, ⟨rfl, rfl⟩, r, s, ⟨h, rfl⟩, (), _, rfl, rfl, rfl⟩

lemma commits_upsert {new : ρ} {r' : ρ} : Commits (T.upsert new f : Tx σ ε ρ) s r' s' ↔
      r' = ((T.table s).find? (key new)).elim new f ∧ s' = T.write s r' := by
  simp only [upsert, commits_bind, commits_get, commits_set, commits_pure]
  constructor
  · rintro ⟨_, _, ⟨rfl, rfl⟩, _, _, rfl, rfl, rfl⟩
    exact ⟨rfl, rfl⟩
  · rintro ⟨rfl, rfl⟩
    exact ⟨s, s, ⟨rfl, rfl⟩, (), _, rfl, rfl, rfl⟩

/-- A conditional update that hits one row writes that row. -/
lemma updateOne_commits {hf} (h : Commits (T.updateOne p f e hf) s u s') :
    ∃ r ∈ T.table s, p r = true ∧ s' = T.write s (f r) := by
  simp only [updateOne, commits_bind, commits_updateMany, commits_require] at h
  obtain ⟨n, _, ⟨rfl, rfl⟩, hn, rfl⟩ := h
  obtain ⟨r, hr, hp, hput⟩ := Table.updateMany_one hn
  exact ⟨r, hr, hp, by rw [write, hput]⟩

/-- A conditional update of the row with a key changes nothing and counts none, or writes that row. -/
lemma updateKey_commits {hf} {k : κ} {n : ℕ}
    (hset : ∀ s, T.setTable s (T.table s) = s) (hp : ∀ r, p r = true → key r = k)
    (h : Commits (T.updateMany p f hf : Tx σ ε ℕ) s n s') :
    n = 0 ∧ s' = s ∨ n = 1 ∧ ∃ r ∈ T.table s, p r = true ∧ s' = T.write s (f r) := by
  obtain ⟨rfl, rfl⟩ := commits_updateMany.mp h
  by_cases hone : ((T.table s).updateMany p f hf).2 = 1
  · obtain ⟨r, hr, hpr, hput⟩ := Table.updateMany_one hone
    exact .inr ⟨hone, r, hr, hpr, by rw [write, hput]⟩
  · have hle : ((T.table s).updateMany p f hf).2 ≤ 1 := Table.length_findMany_le_one hp
    refine .inl ⟨by omega, ?_⟩
    rw [Table.updateMany_eq_self hp hone, hset]

/-- A loop that updates rows with different keys, each as it was read before the loop. -/
lemma forM_update_commits (hT : ∀ s t, T.table (T.setTable s t) = t) {g : ρ → ρ → ρ} {e : ε}
    (hg : ∀ r x, key (g r x) = key x) {l : List ρ} (hl : (l.map key).Nodup)
    (hin : ∀ r ∈ l, r ∈ T.table s)
    (h : Commits (l.forM fun r => do
      let _ ← T.update (key r) (g r) e
      pure ()) s u s') :
    ∀ x' ∈ T.table s', ∃ x ∈ T.table s, x ∈ l ∧ x' = g x x ∨ x ∉ l ∧ x' = x := by
  induction l generalizing s with
  | nil =>
    obtain rfl := commits_forM_nil.mp h
    exact fun x hx => ⟨x, hx, .inr ⟨not_mem_nil, rfl⟩⟩
  | cons r l ih =>
    obtain ⟨t, hr, hrest⟩ := commits_forM_cons.mp h
    obtain ⟨_, hupdate, _⟩ := commits_bind_pure.mp hr
    obtain ⟨o, ho, _, rfl⟩ := commits_update.mp hupdate
    obtain rfl := mem_unique (find?_of_mem (hin r mem_cons_self)) ho
    obtain ⟨hfresh, hl⟩ := nodup_cons.mp hl
    have hwrite : T.table (T.write s (g r r)) = (T.table s).put (g r r) := hT _ _
    have hkeep : ∀ x ∈ l, x ∈ T.table (T.write s (g r r)) := by
      intro x hx
      rw [hwrite, mem_put, hg]
      refine .inr ⟨hin x (mem_cons_of_mem _ hx), fun hkey => hfresh ?_⟩
      exact hkey ▸ mem_map_of_mem hx
    intro x' hx'
    obtain ⟨x, hx, hcase⟩ := ih hl hkeep hrest x' hx'
    rw [hwrite, mem_put, hg] at hx
    rcases hx with rfl | ⟨hx, hne⟩
    · refine ⟨r, hin r mem_cons_self, .inl ⟨mem_cons_self, ?_⟩⟩
      obtain ⟨hmem, _⟩ | ⟨_, rfl⟩ := hcase
      · exact absurd (hg r r ▸ mem_map_of_mem hmem) hfresh
      · rfl
    · refine ⟨x, hx, ?_⟩
      rcases hcase with ⟨hmem, rfl⟩ | ⟨hmem, rfl⟩
      · exact .inl ⟨mem_cons_of_mem _ hmem, rfl⟩
      · refine .inr ⟨?_, rfl⟩
        rintro (_ | ⟨_, hmem'⟩)
        · exact hne rfl
        · exact hmem hmem'

/-- Rows with new keys of their own are inserted one after the other. -/
lemma commits_forM_create (hT : ∀ s t, T.table (T.setTable s t) = t)
    (hset : ∀ s t t', T.setTable (T.setTable s t) t' = T.setTable s t')
    (hself : ∀ s, T.setTable s (T.table s) = s)
    {rows : List ρ} {e : ε} (hnodup : (rows.map key).Nodup)
    (hnew : ∀ r ∈ rows, key r ∉ (T.table s).rows.map key) :
    Commits (rows.forM fun r => T.create r e) s u (T.setTable s (rows.foldl Table.put (T.table s))) := by
  induction rows generalizing s with
  | nil =>
    rw [List.foldl_nil, hself]
    exact commits_forM_nil.mpr rfl
  | cons r rows ih =>
    obtain ⟨hr, hnodup⟩ := nodup_cons.mp hnodup
    have hfresh := hnew r mem_cons_self
    have htable : T.table (T.write s r) = (T.table s).put r := hT _ _
    refine commits_forM_cons.mpr ⟨T.write s r, commits_create.mpr ⟨?_, rfl⟩, ?_⟩
    · rw [find?_eq_none]
      exact fun x hx hkey => hfresh (hkey ▸ mem_map_of_mem hx)
    · have hrest := ih (s := T.write s r) hnodup ?_
      · rwa [htable, write, hset] at hrest
      · rw [htable, Table.rows_put_of_not_mem hfresh]
        intro x hx hkey
        rw [map_append, mem_append, List.map_singleton, mem_singleton] at hkey
        obtain hold | hsame := hkey
        · exact hnew x (mem_cons_of_mem _ hx) hold
        · exact hr (hsame ▸ mem_map_of_mem hx)

omit [DecidableEq κ] in
/-- A conditional update that exactly one row meets commits. -/
lemma commits_updateOne_of_mem {hf} {r : ρ} (hr : r ∈ T.table s) (hp : ∀ x ∈ T.table s, p x = true ↔ x = r) :
    Commits (T.updateOne p f e hf) s u (T.setTable s ((T.table s).updateMany p f hf).1) := by
  simp only [updateOne, commits_bind, commits_updateMany, commits_require]
  exact ⟨_, _, ⟨rfl, rfl⟩, Table.updateMany_eq_one hr hp, rfl⟩

/-- A conditional update of the row with a key writes that row. -/
lemma commits_updateOne_write {hf} {r : ρ} (hr : r ∈ T.table s)
    (hp : p r = true) (hkey : ∀ x ∈ T.table s, p x = true → key x = key r) :
    Commits (T.updateOne p f e hf) s () (T.write s (f r)) := by
  have hc : Commits (T.updateOne p f e hf) s () _ := commits_updateOne_of_mem hr fun x hx =>
    ⟨fun hpx => eq_of_key_eq hx hr (hkey x hx hpx), fun heq => heq ▸ hp⟩
  obtain ⟨x, hx, hpx, hstate⟩ := updateOne_commits hc
  obtain rfl : x = r := eq_of_key_eq hx hr (hkey x hx hpx)
  rw [hstate] at hc
  exact hc

end TableOf

end Mayatoko.Core
