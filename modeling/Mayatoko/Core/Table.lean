import Mathlib.Algebra.BigOperators.Group.List.Basic
import Mathlib.Data.List.Sort
import Mathlib.Tactic.Abel

/-!
# Keyed tables

A table is a list of rows no two of which have the same key. Every write that a statement
addressed by a unique key makes is `put`, which replaces the row of that key or appends it;
`updateMany` rewrites every row of a filter and counts them. When it counts one row it is a
`put` (`updateMany_one`), so a proof about single-row writes only ever meets `put`, whose effect
on membership, on lookups and on sums over the table is given here.
-/

namespace Mayatoko.Core

/-- A condition of a query as a proposition, for `simp only`. -/
lemma cond_iff : (∀ {a b : Bool}, (a && b) = true ↔ a = true ∧ b = true) ∧
    ∀ {p : Prop} [Decidable p], decide p = true ↔ p :=
  ⟨Bool.and_eq_true_iff, decide_eq_true_iff⟩

lemma nodup_eraseDups {α : Type*} [DecidableEq α] (l : List α) : l.eraseDups.Nodup := by
  match l with
  | [] => exact List.nodup_nil
  | a :: l =>
    have hlen : (l.filter fun b => !b == a).length < (a :: l).length :=
      Nat.lt_succ_of_le (List.length_filter_le _ l)
    rw [List.eraseDups_cons, List.nodup_cons]
    exact ⟨by simp, nodup_eraseDups _⟩
termination_by l.length
decreasing_by exact hlen

/-- Rows with pairwise different keys. -/
structure Table {ρ κ : Type*} (key : ρ → κ) where
  rows : List ρ
  nodup : (rows.map key).Nodup

namespace Table

variable {ρ κ M : Type*} {key : ρ → κ}

instance : Membership ρ (Table key) := ⟨fun t r => r ∈ t.rows⟩

variable {t : Table key} {r : ρ}

lemma mem_rows : r ∈ t ↔ r ∈ t.rows := Iff.rfl

@[ext] lemma ext {u : Table key} (h : t.rows = u.rows) : t = u := by
  cases t
  cases u
  congr

/-- The table without rows. -/
def empty : Table key := ⟨[], List.nodup_nil⟩

@[simp] lemma not_mem_empty (r : ρ) : ¬ r ∈ (empty : Table key) := List.not_mem_nil

/-- The rows that satisfy a filter, in table order. -/
def findMany (t : Table key) (p : ρ → Bool) : List ρ := t.rows.filter p

/-- The rows of a filter in the order `le`, ties in table order. -/
def findSorted (t : Table key) (p : ρ → Bool) (le : ρ → ρ → Bool) : List ρ :=
  (t.findMany p).insertionSort fun a b => le a b

/-- The first row of a filter in the order `le`, ties in table order. -/
def findFirst (t : Table key) (p : ρ → Bool) (le : ρ → ρ → Bool) : Option ρ :=
  (t.findSorted p le).head?

/-- The sum of `f` over the rows. -/
def sum [AddCommMonoid M] (t : Table key) (f : ρ → M) : M := (t.rows.map f).sum

/-- The sum of `f` over the rows of the group `k`. -/
def sumBy [AddCommMonoid M] {γ : Type*} [DecidableEq γ] (t : Table key) (g : ρ → γ) (f : ρ → M)
    (k : γ) : M :=
  t.sum fun r => if g r = k then f r else 0

/-- Rewrite the rows of a filter by `g`, which keeps keys, and count them. -/
def updateMany (t : Table key) (p : ρ → Bool) (g : ρ → ρ)
    (hg : ∀ r, key (g r) = key r := by intro _; rfl) : Table key × ℕ :=
  (⟨t.rows.map fun r => if p r then g r else r, by
      have h : (t.rows.map fun r => if p r then g r else r).map key = t.rows.map key := by
        rw [List.map_map]
        refine List.map_congr_left fun r _ => ?_
        by_cases hp : p r <;> simp [hp, hg]
      rw [h]
      exact t.nodup⟩,
    (t.findMany p).length)

/-- Remove the rows of a filter. -/
def deleteMany (t : Table key) (p : ρ → Bool) : Table key :=
  ⟨t.rows.filter fun r => !p r, t.nodup.sublist (List.filter_sublist.map key)⟩

section Keyed

variable [DecidableEq κ]

/-- The row with a given key. -/
def find? (t : Table key) (k : κ) : Option ρ := t.rows.find? fun r => key r = k

/-- Write `r`: replace the row of its key, or append it. -/
def put (t : Table key) (r : ρ) : Table key :=
  if h : key r ∈ t.rows.map key then
    ⟨t.rows.map fun x => if key x = key r then r else x, by
      have hk : (t.rows.map fun x => if key x = key r then r else x).map key
          = t.rows.map key := by
        rw [List.map_map]
        refine List.map_congr_left fun x _ => ?_
        by_cases hx : key x = key r <;> simp [hx]
      rw [hk]
      exact t.nodup⟩
  else
    ⟨t.rows ++ [r], by
      rw [List.map_append, List.nodup_append]
      refine ⟨t.nodup, by simp, fun a ha b hb => ?_⟩
      rw [List.map_singleton, List.mem_singleton] at hb
      rintro rfl
      exact h (hb ▸ ha)⟩

end Keyed

/-! ### Membership and lookup -/

variable {p : ρ → Bool}

lemma mem_findMany : r ∈ t.findMany p ↔ r ∈ t ∧ p r = true := by
  simp [findMany, mem_rows]

lemma mem_deleteMany : r ∈ t.deleteMany p ↔ r ∈ t ∧ p r = false := by
  simp [deleteMany, mem_rows]

variable {le : ρ → ρ → Bool}

lemma mem_findSorted : r ∈ t.findSorted p le ↔ r ∈ t ∧ p r = true := by
  rw [findSorted, List.mem_insertionSort, mem_findMany]

lemma mem_of_findFirst
    (h : t.findFirst p le = some r) : r ∈ t ∧ p r = true :=
  mem_findSorted.mp (List.mem_of_mem_head? h)

lemma findFirst_eq_none : t.findFirst p le = none ↔ ∀ r ∈ t, ¬ p r = true := by
  rw [findFirst, List.head?_eq_none_iff, List.eq_nil_iff_forall_not_mem]
  simp only [mem_findSorted, not_and]

/-- The first row in an order comes before every other row of the filter. -/
lemma le_of_findFirst (le : ρ → ρ → Bool) [Std.Total fun a b => le a b = true]
    [IsTrans ρ fun a b => le a b = true] {r r' : ρ} (h : t.findFirst p le = some r) (hr' : r' ∈ t)
    (hp : p r' = true) : r' = r ∨ le r r' = true := by
  have hsorted := List.pairwise_insertionSort (fun a b => le a b = true) (t.findMany p)
  have hmem : r' ∈ t.findSorted p le := mem_findSorted.mpr ⟨hr', hp⟩
  rw [findFirst] at h
  rw [← findSorted] at hsorted
  cases hrows : t.findSorted p le with
  | nil =>
    rw [hrows] at h
    cases h
  | cons x rows =>
    rw [hrows] at h hsorted hmem
    obtain rfl := Option.some.inj h
    rcases List.mem_cons.mp hmem with rfl | hmem
    · exact .inl rfl
    · exact .inr (List.rel_of_pairwise_cons hsorted hmem)

lemma nodup_findMany (t : Table key) (p : ρ → Bool) : ((t.findMany p).map key).Nodup :=
  t.nodup.sublist ((List.filter_sublist).map key)

lemma nodup_findSorted (t : Table key) (p : ρ → Bool) (le : ρ → ρ → Bool) :
    ((t.findSorted p le).map key).Nodup :=
  ((List.perm_insertionSort _ _).map key).nodup_iff.mpr (nodup_findMany t p)

lemma length_findSorted (t : Table key) (p : ρ → Bool) (le : ρ → ρ → Bool) :
    (t.findSorted p le).length = (t.findMany p).length :=
  List.length_insertionSort _ _

/-- A row is determined by its key. -/
lemma eq_of_key_eq {s : ρ} (hr : r ∈ t) (hs : s ∈ t) (h : key r = key s) : r = s :=
  List.inj_on_of_nodup_map t.nodup hr hs h

lemma mem_updateMany {g : ρ → ρ} (hg : ∀ r, key (g r) = key r) {r : ρ} :
    r ∈ (t.updateMany p g hg).1 ↔ ∃ s ∈ t, r = if p s then g s else s := by
  simp only [updateMany, mem_rows, List.mem_map, eq_comm]

/-- Filters that agree on the rows of the table rewrite the same rows. -/
lemma updateMany_congr {q : ρ → Bool} (g : ρ → ρ) (hg : ∀ r, key (g r) = key r)
    (h : ∀ r ∈ t, p r = q r) : t.updateMany p g hg = t.updateMany q g hg := by
  refine Prod.ext (Table.ext ?_) ?_
  · refine List.map_congr_left fun r hr => ?_
    rw [h r hr]
  · rw [updateMany, updateMany, findMany, findMany, List.filter_congr h]

/-- A filter without a row rewrites nothing. -/
lemma updateMany_of_not {g : ρ → ρ} {hg : ∀ r, key (g r) = key r}
    (h : ∀ r ∈ t, p r = false) : (t.updateMany p g hg).1 = t := by
  ext1
  refine (List.map_congr_left fun r hr => if_neg ?_).trans (List.map_id _)
  rw [h r hr]
  decide

lemma sum_congr [AddCommMonoid M] {t : Table key} {f g : ρ → M} (h : ∀ r ∈ t, f r = g r) :
    t.sum f = t.sum g := by
  unfold sum
  rw [List.map_congr_left h]

lemma sum_eq_zero [AddCommMonoid M] {t : Table key} {f : ρ → M} (h : ∀ r ∈ t, f r = 0) : t.sum f = 0 := by
  rw [sum_congr h, sum]
  simp

/-- The sum over the rows of a filter. -/
lemma sum_findMany [AddCommMonoid M] (t : Table key) (p : ρ → Bool) (f : ρ → M) :
    ((t.findMany p).map f).sum = t.sum fun r => if p r then f r else 0 := by
  unfold findMany sum
  induction t.rows with
  | nil => rfl
  | cons r rs ih => by_cases hp : p r <;> simp [hp, ih]

/-- The number of rows of a filter as a sum. -/
lemma length_findMany (t : Table key) (p : ρ → Bool) :
    ((t.findMany p).length : ℤ) = t.sum fun r => if p r then 1 else 0 := by
  rw [← sum_findMany]
  simp

lemma sumBy_eq_zero [AddCommMonoid M] {γ : Type*} [DecidableEq γ] {t : Table key} {g : ρ → γ}
    {k : γ} (h : ∀ r ∈ t, g r ≠ k) (f : ρ → M) : t.sumBy g f k = 0 :=
  sum_eq_zero fun r hr => if_neg (h r hr)

/-- The group of a key is the row with that key. -/
lemma sumBy_key [AddCommMonoid M] [DecidableEq κ] {t : Table key} {r : ρ} {k : κ} (hr : r ∈ t)
    (hk : key r = k) (f : ρ → M) : t.sumBy key f k = f r := by
  obtain ⟨l₁, l₂, hl⟩ := List.append_of_mem (mem_rows.mp hr)
  have hnd := t.nodup
  simp only [hl, List.map_append, List.map_cons, List.nodup_append, List.nodup_cons,
    List.mem_map, List.mem_cons] at hnd
  have hzero (l : List ρ) (h : ∀ x ∈ l, key x ≠ k) : (l.map fun x => if key x = k then f x else 0).sum = 0 := by
    rw [List.map_congr_left fun x hx => if_neg (h x hx)]
    simp
  have h₁ := hzero l₁ fun x hx h =>
    hnd.2.2 (key x) ⟨x, hx, rfl⟩ (key r) (Or.inl rfl) (h.trans hk.symm)
  have h₂ := hzero l₂ fun x hx h => hnd.2.1.1 ⟨x, hx, h.trans hk.symm⟩
  rw [sumBy, sum, hl, List.map_append, List.sum_append, List.map_cons, List.sum_cons, h₁, h₂,
    if_pos hk, zero_add, add_zero]

section Keyed

variable [DecidableEq κ]

variable {t : Table key} {k : κ} {r : ρ}

lemma find?_eq_some : t.find? k = some r ↔ r ∈ t ∧ key r = k := by
  constructor
  · intro h
    exact ⟨List.mem_of_find?_eq_some h, by simpa using List.find?_some h⟩
  · rintro ⟨hr, rfl⟩
    cases h : t.find? (key r) with
    | none =>
      have hne := List.find?_eq_none.mp h r hr
      simp at hne
    | some s =>
      have hs : s ∈ t := List.mem_of_find?_eq_some h
      have hk : key s = key r := by simpa using List.find?_some h
      rw [eq_of_key_eq hs hr hk]

lemma find?_eq_none : t.find? k = none ↔ ∀ r ∈ t, key r ≠ k := by
  simp only [find?, List.find?_eq_none, decide_eq_true_eq]
  exact Iff.rfl

lemma find?_of_mem (h : r ∈ t) : t.find? (key r) = some r :=
  find?_eq_some.mpr ⟨h, rfl⟩

/-- Looking a key up among the rows of a filter. -/
lemma find?_findMany (t : Table key) (p : ρ → Bool) (k : κ) :
    (t.findMany p).find? (fun r => key r = k) = (t.find? k).filter p := by
  cases h : t.find? k with
  | none =>
    rw [Option.filter_none, List.find?_eq_none]
    intro r hr
    have hne := find?_eq_none.mp h r (mem_findMany.mp hr).1
    simpa using hne
  | some o =>
    obtain ⟨ho, rfl⟩ := find?_eq_some.mp h
    by_cases hp : p o = true
    · rw [Option.filter_some_pos hp]
      have hmem : o ∈ t.findMany p := mem_findMany.mpr ⟨ho, hp⟩
      cases hfind : (t.findMany p).find? (fun r => key r = key o) with
      | none =>
        have hne := List.find?_eq_none.mp hfind o hmem
        simp at hne
      | some x =>
        have hx := (mem_findMany.mp (List.mem_of_find?_eq_some hfind)).1
        have hkey : key x = key o := by simpa using List.find?_some hfind
        rw [eq_of_key_eq hx ho hkey]
    · rw [Option.filter_some_neg (by simpa using hp), List.find?_eq_none]
      intro r hr
      obtain ⟨hr, hpr⟩ := mem_findMany.mp hr
      rw [decide_eq_true_eq]
      intro hkey
      exact hp (eq_of_key_eq hr ho hkey ▸ hpr)

@[simp] lemma find?_empty (k : κ) : (empty : Table key).find? k = none := rfl

lemma rows_put_of_mem (h : key r ∈ t.rows.map key) :
    (t.put r).rows = t.rows.map fun x => if key x = key r then r else x := by
  rw [put, dif_pos h]

lemma rows_put_of_not_mem (h : key r ∉ t.rows.map key) : (t.put r).rows = t.rows ++ [r] := by
  rw [put, dif_neg h]

variable {o : ρ}

/-- Rewriting the row of a key. -/
lemma rows_put_of_find {f : ρ → ρ} (ho : t.find? k = some o)
    (hf : key (f o) = k) : (t.put (f o)).rows = t.rows.map fun x => if key x = k then f x else x := by
  have hk := List.find?_some ho
  have hmem : o ∈ t := List.mem_of_find?_eq_some ho
  rw [decide_eq_true_eq] at hk
  rw [rows_put_of_mem (List.mem_map.mpr ⟨o, hmem, hk.trans hf.symm⟩), hf]
  refine List.map_congr_left fun x hx => ?_
  split
  next hxk => rw [eq_of_key_eq hx hmem (hxk.trans hk.symm)]
  next => rfl

lemma mem_put {x : ρ} : x ∈ t.put r ↔ x = r ∨ x ∈ t ∧ key x ≠ key r := by
  by_cases h : key r ∈ t.rows.map key
  · simp only [mem_rows, rows_put_of_mem h, List.mem_map]
    constructor
    · rintro ⟨y, hy, rfl⟩
      by_cases hk : key y = key r
      · simp [hk]
      · simp [hk, hy]
    · rintro (rfl | ⟨hx, hk⟩)
      · obtain ⟨y, hy, hk⟩ := List.mem_map.mp h
        exact ⟨y, hy, by simp [hk]⟩
      · exact ⟨x, hx, by simp [hk]⟩
  · simp only [mem_rows, rows_put_of_not_mem h, List.mem_append, List.mem_singleton]
    constructor
    · rintro (hx | rfl)
      · exact .inr ⟨hx, fun hk => h (hk ▸ List.mem_map_of_mem hx)⟩
      · exact .inl rfl
    · rintro (rfl | ⟨hx, _⟩)
      · exact .inr rfl
      · exact .inl hx

lemma mem_put_self (t : Table key) (r : ρ) : r ∈ t.put r := mem_put.mpr (Or.inl rfl)

@[simp] lemma find?_put_self (t : Table key) (r : ρ) : (t.put r).find? (key r) = some r :=
  find?_of_mem (mem_put_self t r)

lemma find?_put_of_ne (t : Table key) {r : ρ} {k : κ} (h : k ≠ key r) : (t.put r).find? k = t.find? k := by
  cases hk : t.find? k with
  | none =>
    rw [find?_eq_none] at hk ⊢
    intro x hx
    rcases mem_put.mp hx with rfl | ⟨hx, _⟩
    · exact h.symm
    · exact hk x hx
  | some x =>
    rw [find?_eq_some] at hk ⊢
    exact ⟨mem_put.mpr (Or.inr ⟨hk.1, hk.2 ▸ h⟩), hk.2⟩

lemma find?_put (t : Table key) (r : ρ) (k : κ) :
    (t.put r).find? k = if k = key r then some r else t.find? k := by
  split
  next h => rw [h, find?_put_self]
  next h => exact find?_put_of_ne t h

variable {p : ρ → Bool}

/-- Replacing a row by one that a filter and a column do not tell apart from it. -/
lemma map_findMany_put {f : ρ → M} (ho : o ∈ t) (hk : key o = key r) (hp : p r = p o) (hf : f r = f o) :
    ((t.put r).findMany p).map f = (t.findMany p).map f := by
  have hsame : ∀ x ∈ t.rows, p (if key x = key r then r else x) = p x ∧
      f (if key x = key r then r else x) = f x := by
    intro x hx
    split
    next hxr =>
      obtain rfl := eq_of_key_eq ho hx (hk.trans hxr.symm)
      exact ⟨hp, hf⟩
    next => exact ⟨rfl, rfl⟩
  rw [findMany, rows_put_of_mem (List.mem_map.mpr ⟨o, ho, hk⟩), findMany, List.filter_map, List.map_map]
  have hfilter : t.rows.filter (p ∘ fun x => if key x = key r then r else x) = t.rows.filter p :=
    List.filter_congr fun x hx => (hsame x hx).1
  rw [hfilter]
  exact List.map_congr_left fun x hx => (hsame x (List.mem_of_mem_filter hx)).2

/-- Writing a row that is not looked for. -/
lemma findMany_put_of_not (ho : o ∈ t) (hk : key o = key r)
    (hpo : p o = false) (hpr : p r = false) : (t.put r).findMany p = t.findMany p := by
  have hrow : ∀ x ∈ t.rows, key x = key r → p x = false := by
    intro x hx hxr
    rwa [← eq_of_key_eq ho hx (hk.trans hxr.symm)]
  rw [findMany, rows_put_of_mem (List.mem_map.mpr ⟨o, ho, hk⟩), findMany, List.filter_map]
  have hfilter : t.rows.filter (p ∘ fun x => if key x = key r then r else x) = t.rows.filter p := by
    refine List.filter_congr fun x hx => ?_
    by_cases hxr : key x = key r
    · simp [hxr, hpr, hrow x hx hxr]
    · simp [hxr]
  rw [hfilter]
  refine (List.map_congr_left fun x hx => if_neg fun hxr => ?_).trans (List.map_id _)
  obtain ⟨hx, hpx⟩ := List.mem_filter.mp hx
  exact absurd (hrow x hx hxr) (by simp [hpx])

/-- Of two writes to one key the second remains. -/
lemma put_put (t : Table key) {a b : ρ} (h : key a = key b) : (t.put a).put b = t.put b := by
  have hmem : key b ∈ (t.put a).rows.map key := List.mem_map.mpr ⟨a, mem_put_self t a, h⟩
  apply ext
  rw [rows_put_of_mem hmem]
  by_cases hk : key b ∈ t.rows.map key
  · rw [rows_put_of_mem (h.symm ▸ hk), rows_put_of_mem hk, List.map_map]
    refine List.map_congr_left fun x _ => ?_
    by_cases hx : key x = key b <;> simp [h, hx]
  · rw [rows_put_of_not_mem (h.symm ▸ hk), rows_put_of_not_mem hk, List.map_append]
    have hleft : t.rows.map (fun x => if key x = key b then b else x) = t.rows := by
      conv_rhs => rw [← List.map_id t.rows]
      refine List.map_congr_left fun x hx => if_neg fun hxb => ?_
      exact hk (hxb ▸ List.mem_map_of_mem hx)
    rw [hleft]
    simp [h]

/-- After writing the rows of a list one by one, the row of a key is the last one of the list with
that key. -/
lemma find?_foldl_put (rows : List ρ) (t : Table key) (k : κ) : (rows.foldl put t).find? k =
      ((rows.filter fun r => key r = k).getLast?).or (t.find? k) := by
  induction rows generalizing t with
  | nil => simp
  | cons r rows ih =>
    rw [List.foldl_cons, ih, find?_put]
    by_cases hk : key r = k
    · subst hk
      rw [List.filter_cons_of_pos (by simp), List.getLast?_cons]
      cases (rows.filter fun x => key x = key r).getLast? <;> simp
    · rw [if_neg (Ne.symm hk), List.filter_cons_of_neg (by simpa using hk)]

/-- Rows with new keys are appended one after the other. -/
lemma rows_foldl_put {rows : List ρ} (hnodup : (rows.map key).Nodup)
    (hnew : ∀ r ∈ rows, key r ∉ t.rows.map key) : (rows.foldl put t).rows = t.rows ++ rows := by
  induction rows generalizing t with
  | nil => simp
  | cons r rows ih =>
    obtain ⟨hr, hrest⟩ := List.nodup_cons.mp hnodup
    have hput := rows_put_of_not_mem (hnew r List.mem_cons_self)
    rw [List.foldl_cons, ih hrest, hput, List.append_assoc, List.singleton_append]
    intro x hx hold
    rw [hput, List.map_append, List.mem_append, List.map_singleton, List.mem_singleton] at hold
    obtain hold | hsame := hold
    · exact hnew x (List.mem_cons_of_mem _ hx) hold
    · exact hr (hsame ▸ List.mem_map_of_mem hx)

/-! ### Sums -/

lemma sum_put_of_mem [AddCommGroup M] {t : Table key} {r o : ρ} (ho : o ∈ t) (hk : key o = key r)
    (f : ρ → M) : (t.put r).sum f = t.sum f + (f r - f o) := by
  obtain ⟨l₁, l₂, hl⟩ := List.append_of_mem (mem_rows.mp ho)
  have hnd := t.nodup
  simp only [hl, List.map_append, List.map_cons, List.nodup_append, List.nodup_cons,
    List.mem_map, List.mem_cons] at hnd
  have h₁ : l₁.map (fun x => f (if key x = key r then r else x)) = l₁.map f := by
    refine List.map_congr_left fun x hx => ?_
    have hne : key x ≠ key r := fun h =>
      hnd.2.2 (key x) ⟨x, hx, rfl⟩ (key o) (Or.inl rfl) (h.trans hk.symm)
    rw [if_neg hne]
  have h₂ : l₂.map (fun x => f (if key x = key r then r else x)) = l₂.map f := by
    refine List.map_congr_left fun x hx => ?_
    have hne : key x ≠ key r := fun h => hnd.2.1.1 ⟨x, hx, h.trans hk.symm⟩
    rw [if_neg hne]
  have hmem : key r ∈ t.rows.map key := List.mem_map.mpr ⟨o, ho, hk⟩
  rw [sum, sum, rows_put_of_mem hmem, hl]
  simp only [List.map_map, List.map_append, List.map_cons, Function.comp_def, List.sum_append,
    List.sum_cons, h₁, h₂, if_pos hk]
  abel

/-- Writing a row over one that a filter did not let through. -/
lemma length_findMany_put (ho : o ∈ t) (hk : key o = key r) (hp : p o = false) :
    ((t.put r).findMany p).length = (t.findMany p).length + if p r then 1 else 0 := by
  have hsum := sum_put_of_mem ho hk fun x => if p x then (1 : ℤ) else 0
  simp only [← length_findMany, hp, Bool.false_eq_true, if_false, sub_zero] at hsum
  by_cases hr : p r = true
  · rw [if_pos hr] at hsum ⊢
    omega
  · rw [if_neg hr] at hsum ⊢
    omega

lemma sum_put_of_not_mem [AddCommMonoid M] {t : Table key} {r : ρ}
    (h : ∀ x ∈ t, key x ≠ key r) (f : ρ → M) : (t.put r).sum f = t.sum f + f r := by
  have hmem : key r ∉ t.rows.map key := fun hr => by
    obtain ⟨x, hx, hk⟩ := List.mem_map.mp hr
    exact h x hx hk
  rw [sum, sum, rows_put_of_not_mem hmem]
  simp

/-- Writing `r` moves the sum by `f r` less what the replaced row, if any, contributed. -/
lemma sum_put [AddCommGroup M] (t : Table key) (r : ρ) (f : ρ → M) :
    (t.put r).sum f = t.sum f + (f r - ((t.find? (key r)).map f).getD 0) := by
  cases h : t.find? (key r) with
  | none => simpa using sum_put_of_not_mem (find?_eq_none.mp h) f
  | some o =>
    obtain ⟨ho, hk⟩ := find?_eq_some.mp h
    simpa using sum_put_of_mem ho hk f

/-- Writing `r` over a row of its group moves the sum of that group only. -/
lemma sumBy_put_of_mem [AddCommGroup M] {γ : Type*} [DecidableEq γ] {t : Table key} {r o : ρ}
    {g : ρ → γ} (ho : o ∈ t) (hk : key o = key r) (hg : g o = g r) (f : ρ → M) :
    (t.put r).sumBy g f = t.sumBy g f + Pi.single (g r) (f r - f o) := by
  funext k
  simp only [sumBy, sum_put_of_mem ho hk, Pi.add_apply, hg]
  by_cases h : g r = k
  · subst h
    simp
  · simp [h]

/-- Appending `r` adds to the sum of its group only. -/
lemma sumBy_put_of_not_mem [AddCommMonoid M] {γ : Type*} [DecidableEq γ] {t : Table key} {r : ρ}
    (h : ∀ x ∈ t, key x ≠ key r) (g : ρ → γ) (f : ρ → M) :
    (t.put r).sumBy g f = t.sumBy g f + Pi.single (g r) (f r) := by
  funext k
  simp only [sumBy, sum_put_of_not_mem h, Pi.add_apply]
  by_cases hk : g r = k
  · subst hk
    simp
  · simp [hk]

/-! ### Single-row updates -/

variable {g : ρ → ρ}

/-- An update that counts one row is a write of that row. -/
lemma updateMany_one {hg} (h : (t.updateMany p g hg).2 = 1) :
    ∃ r ∈ t, p r = true ∧ (t.updateMany p g hg).1 = t.put (g r) := by
  obtain ⟨r, hr⟩ := List.length_eq_one_iff.mp h
  have hmem : r ∈ t ∧ p r = true := mem_findMany.mp (by rw [hr]; exact List.mem_singleton_self r)
  have huniq : ∀ x ∈ t, p x = true → x = r := fun x hx hp => by
    have hx' : x ∈ t.findMany p := mem_findMany.mpr ⟨hx, hp⟩
    rwa [hr, List.mem_singleton] at hx'
  refine ⟨r, hmem.1, hmem.2, ?_⟩
  have hk : key (g r) ∈ t.rows.map key := by
    rw [hg]
    exact List.mem_map_of_mem hmem.1
  apply ext
  rw [rows_put_of_mem hk]
  refine List.map_congr_left fun x hx => ?_
  by_cases hp : p x = true
  · rw [huniq x hx hp, if_pos hmem.2, if_pos (hg r).symm]
  · have hne : key x ≠ key (g r) := fun he =>
      hp (eq_of_key_eq hx hmem.1 (he.trans (hg r)) ▸ hmem.2)
    rw [if_neg hp, if_neg hne]

omit [DecidableEq κ] in
lemma length_findMany_le_one
    (hp : ∀ r, p r = true → key r = k) : (t.findMany p).length ≤ 1 := by
  have hnd := t.nodup_findMany p
  have hall : ∀ x ∈ (t.findMany p).map key, x = k := by
    intro x hx
    obtain ⟨r, hr, rfl⟩ := List.mem_map.mp hx
    exact hp r (mem_findMany.mp hr).2
  rw [List.eq_replicate_of_mem hall, List.nodup_replicate, List.length_map] at hnd
  exact hnd

omit [DecidableEq κ] in
/-- An update of the rows with one key that does not count one is none. -/
lemma updateMany_eq_self {hg} {k : κ} (hp : ∀ r, p r = true → key r = k) (h : (t.updateMany p g hg).2 ≠ 1) :
    (t.updateMany p g hg).1 = t := by
  have hnone : ∀ r ∈ t, ¬ p r = true := by
    intro r hr hpr
    have hall : ∀ x ∈ t.findMany p, x = r := by
      intro x hx
      obtain ⟨hx, hpx⟩ := mem_findMany.mp hx
      exact eq_of_key_eq hx hr ((hp x hpx).trans (hp r hpr).symm)
    have hmem : r ∈ t.findMany p := mem_findMany.mpr ⟨hr, hpr⟩
    have hnd : (t.findMany p).Nodup := (t.nodup_findMany p).of_map key
    refine h (List.length_eq_one_iff.mpr ⟨r, ?_⟩)
    exact List.perm_singleton.mp ((List.perm_ext_iff_of_nodup hnd (List.nodup_singleton r)).mpr
      fun x => ⟨fun hx => List.mem_singleton.mpr (hall x hx), fun hx => by
        rwa [List.mem_singleton.mp hx]⟩)
  exact updateMany_of_not fun r hr => Bool.eq_false_iff.mpr (hnone r hr)

omit [DecidableEq κ] in
/-- An update of which exactly one row meets the filter counts one. -/
lemma updateMany_eq_one {hg} {r : ρ} (hr : r ∈ t)
    (hp : ∀ x ∈ t, p x = true ↔ x = r) : (t.updateMany p g hg).2 = 1 := by
  obtain ⟨l₁, l₂, hl⟩ := List.append_of_mem (mem_rows.mp hr)
  have hnd := t.nodup
  simp only [hl, List.map_append, List.map_cons, List.nodup_append, List.nodup_cons,
    List.mem_map, List.mem_cons] at hnd
  have h₁ : l₁.filter p = [] := by
    rw [List.filter_eq_nil_iff]
    intro x hx hpx
    obtain rfl := (hp x (mem_rows.mpr (by simp [hl, hx]))).mp hpx
    exact hnd.2.2 (key x) ⟨x, hx, rfl⟩ (key x) (Or.inl rfl) rfl
  have h₂ : l₂.filter p = [] := by
    rw [List.filter_eq_nil_iff]
    intro x hx hpx
    obtain rfl := (hp x (mem_rows.mpr (by simp [hl, hx]))).mp hpx
    exact hnd.2.1.1 ⟨x, hx, rfl⟩
  have hself : p r = true := (hp r hr).mpr rfl
  simp [updateMany, findMany, hl, h₁, h₂, hself]

/-- What is found after an update of many rows is what was there, updated. -/
lemma find?_updateMany (hg : ∀ r, key (g r) = key r) {k : κ} :
    (t.updateMany p g hg).1.find? k = (t.find? k).map fun r => if p r = true then g r else r := by
  cases hfind : t.find? k with
  | none =>
    rw [find?_eq_none] at hfind
    refine find?_eq_none.mpr fun x hx => ?_
    obtain ⟨r, hr, rfl⟩ := (mem_updateMany hg).mp hx
    split
    · exact hg r ▸ hfind r hr
    · exact hfind r hr
  | some r =>
    obtain ⟨hr, rfl⟩ := find?_eq_some.mp hfind
    refine find?_eq_some.mpr ⟨(mem_updateMany hg).mpr ⟨r, hr, rfl⟩, ?_⟩
    dsimp only
    split
    · exact hg r
    · rfl

/-- What is found after rows were removed was there before, and is not one of them. -/
lemma find?_deleteMany : (t.deleteMany p).find? k = (t.find? k).filter fun r => !p r := by
  cases hfind : t.find? k with
  | none =>
    rw [find?_eq_none] at hfind
    exact find?_eq_none.mpr fun r hr => hfind r (mem_deleteMany.mp hr).1
  | some r =>
    obtain ⟨hr, hk⟩ := find?_eq_some.mp hfind
    rw [Option.filter_some]
    cases hp : p r with
    | false => exact find?_eq_some.mpr ⟨mem_deleteMany.mpr ⟨hr, hp⟩, hk⟩
    | true =>
      refine find?_eq_none.mpr fun x hx hxk => ?_
      obtain ⟨hmem, hnot⟩ := mem_deleteMany.mp hx
      rw [eq_of_key_eq hmem hr (hxk.trans hk.symm), hp] at hnot
      cases hnot

end Keyed

end Table

export List (append_assoc append_nil cons_append filter_append filter_congr filter_eq_nil_iff forall_mem_cons length_cons
  length_map map_append map_cons map_congr_left map_map mem_append mem_append_right mem_cons mem_cons_of_mem
  mem_cons_self mem_filter mem_map mem_map_of_mem mem_singleton nil_append nodup_cons not_mem_nil sum_cons)

export Option (mem_unique)

export Table (eq_of_key_eq find?_eq_none find?_eq_some find?_of_mem find?_put_of_ne find?_put_self mem_findMany
  mem_put mem_put_self mem_rows not_mem_empty)

end Mayatoko.Core
