import Mathlib.Data.List.Induction
import Mayatoko.Core.Table

/-!
# Tallies

The `Map` that a loop over a list fills by adding each element's amount to the entry of its key.
Entries stand in order of first mention; the entry of a key is the sum of the amounts of that key.

What a query that groups rows by a key returns has one entry for each key that occurs. Adding up what the
entries of some keys hold gives what the rows with these keys come to. `runningTally` shows with every element
the total of its key so far.

The entries of an account, in the order in which they were made, have running balances when every entry has
the sum of the amounts up to its own.
-/

namespace Mayatoko.Core

variable {α κ M : Type} [DecidableEq κ] [AddCommMonoid M]

/-- The amounts of a list, added up for each key. -/
def tally (key : α → κ) (amount : α → M) (l : List α) : Table (Prod.fst : κ × M → κ) :=
  l.foldl (fun t a => t.put (key a, (t.find? (key a)).elim 0 Prod.snd + amount a)) .empty

/-- The sum of the amounts of a key. -/
def totalOf (key : α → κ) (amount : α → M) (l : List α) (k : κ) : M :=
  (l.map fun a => if key a = k then amount a else 0).sum

variable {key : α → κ} {amount : α → M} {k : κ}

@[simp] lemma totalOf_nil : totalOf key amount [] k = 0 := rfl

lemma totalOf_cons (a : α) (l : List α) :
    totalOf key amount (a :: l) k = (if key a = k then amount a else 0) + totalOf key amount l k := by
  simp [totalOf]

variable {l : List α}

lemma totalOf_eq_zero (h : ∀ a ∈ l, key a ≠ k) : totalOf key amount l k = 0 := by
  rw [totalOf, map_congr_left fun a ha => if_neg (h a ha)]
  simp

lemma totalOf_natCast (key : α → κ) (amount : α → ℕ) (l : List α) (k : κ) :
    totalOf key (fun a => (amount a : ℤ)) l k = (totalOf key amount l k : ℕ) := by
  induction l with
  | nil => rfl
  | cons a l ih =>
    rw [totalOf_cons, ih, totalOf_cons]
    split <;> simp

/-- The amounts of a list, each at its own key. -/
lemma sum_single_apply (l : List α) :
    (l.map fun a => (Pi.single (key a) (amount a) : κ → M)).sum k = totalOf key amount l k := by
  induction l with
  | nil => rfl
  | cons a l ih =>
    rw [map_cons, sum_cons, Pi.add_apply, ih, totalOf_cons]
    by_cases hk : key a = k
    · subst hk
      rw [Pi.single_eq_same, if_pos rfl]
    · rw [Pi.single_eq_of_ne (Ne.symm hk), if_neg hk]

private lemma find?_foldl_tally (l : List α) (t : Table (Prod.fst : κ × M → κ)) :
    (l.foldl (fun t a => t.put (key a, (t.find? (key a)).elim 0 Prod.snd + amount a)) t).find? k =
      if k ∈ l.map key then some (k, (t.find? k).elim 0 Prod.snd + totalOf key amount l k)
      else t.find? k := by
  induction l generalizing t with
  | nil => simp
  | cons a l ih =>
    rw [List.foldl_cons, ih, Table.find?_put, totalOf_cons]
    by_cases hk : k = key a
    · subst hk
      have hself : key a ∈ (a :: l).map key := mem_map_of_mem mem_cons_self
      by_cases hl : key a ∈ l.map key
      · rw [if_pos hl, if_pos rfl, if_pos rfl, if_pos hself, Option.elim_some, add_assoc]
      · have hzero : totalOf key amount l (key a) = 0 := totalOf_eq_zero fun b hb hkb =>
          hl (mem_map.mpr ⟨b, hb, hkb⟩)
        rw [if_neg hl, if_pos rfl, if_pos rfl, if_pos hself, hzero, add_zero]
    · have hmem : k ∈ (a :: l).map key ↔ k ∈ l.map key := by simp [hk]
      rw [if_neg hk, if_neg (Ne.symm hk), zero_add]
      simp only [hmem]

/-- The entry of a key that is mentioned is the sum of its amounts. -/
lemma find?_tally (l : List α) : (tally key amount l).find? k =
      if k ∈ l.map key then some (k, totalOf key amount l k) else none := by
  rw [tally, find?_foldl_tally, Table.find?_empty, Option.elim_none, zero_add]

/-- Every element's key has an entry, with the sum of the amounts of that key. -/
lemma mem_tally {a : α} (ha : a ∈ l) : (key a, totalOf key amount l (key a)) ∈ (tally key amount l).rows := by
  have hfind : (tally key amount l).find? (key a) = _ := find?_tally l
  rw [if_pos (mem_map_of_mem ha)] at hfind
  exact (find?_eq_some.mp hfind).1

/-! ### Groups -/

/-- The keys that occur in a list, each once. -/
def keysOf (key : α → κ) (l : List α) : List κ := (l.map key).eraseDups

lemma nodup_keysOf (l : List α) : (keysOf key l).Nodup := nodup_eraseDups _

lemma mem_keysOf {k : κ} : k ∈ keysOf key l ↔ ∃ a ∈ l, key a = k := by
  rw [keysOf, List.mem_eraseDups, mem_map]

lemma keysOf_append (l : List α) (a : α) :
    keysOf key (l ++ [a]) = if key a ∈ l.map key then keysOf key l else keysOf key l ++ [key a] := by
  rw [keysOf, map_append, List.map_singleton, List.eraseDups_append]
  split
  next h =>
    rw [List.removeAll, List.filter_cons_of_neg (by simpa using h)]
    simp [keysOf]
  next h =>
    rw [List.removeAll, List.filter_cons_of_pos (by simpa using h)]
    simp [keysOf, List.eraseDups_cons]

/-- The keys of a tally stand in the order in which they occur. -/
lemma keys_tally (l : List α) : (tally key amount l).rows.map Prod.fst = keysOf key l := by
  induction l using List.reverseRecOn with
  | nil => rfl
  | append_singleton l a ih =>
    have hmem : key a ∈ (tally key amount l).rows.map Prod.fst ↔ key a ∈ l.map key := by
      rw [ih, keysOf, List.mem_eraseDups]
    rw [tally, List.foldl_append, List.foldl_cons, List.foldl_nil, keysOf_append, ← ih]
    by_cases h : key a ∈ l.map key
    · rw [if_pos h, Table.rows_put_of_mem (hmem.mpr h), map_map]
      refine map_congr_left fun r _ => ?_
      rw [Function.comp_apply]
      split
      next heq => exact heq.symm
      next => rfl
    · rw [if_neg h, Table.rows_put_of_not_mem (hmem.not.mpr h), map_append]
      rfl

/-- The entries of a tally, each key with its total. -/
lemma rows_tally (l : List α) :
    (tally key amount l).rows = (keysOf key l).map fun k => (k, totalOf key amount l k) := by
  have hkeys : (tally key amount l).rows.map Prod.fst = keysOf key l := keys_tally l
  rw [← hkeys, map_map]
  refine (List.map_id _).symm.trans (map_congr_left fun r hr => ?_)
  have hfind : (tally key amount l).find? r.1 = some r := find?_of_mem hr
  rw [find?_tally] at hfind
  split at hfind
  next => exact (Option.some.inj hfind).symm
  next => cases hfind

/-- The amounts of a group, added up. -/
lemma sum_group (l : List α) (k : κ) :
    ((l.filter fun a => key a = k).map amount).sum = totalOf key amount l k := by
  induction l with
  | nil => rfl
  | cons a l ih =>
    rw [totalOf_cons, ← ih]
    by_cases hk : key a = k
    · rw [List.filter_cons_of_pos (by simpa using hk), if_pos hk]
      rfl
    · rw [List.filter_cons_of_neg (by simpa using hk), if_neg hk, zero_add]

/-- One of several different keys has the amount of an element, if its key is among them. -/
lemma sum_if_key (a : α) {ks : List κ} (hks : ks.Nodup) :
    (ks.map fun k => if key a = k then amount a else 0).sum = if key a ∈ ks then amount a else 0 := by
  induction ks with
  | nil => rfl
  | cons k ks ih =>
    obtain ⟨hk, hks⟩ := nodup_cons.mp hks
    rw [map_cons, sum_cons, ih hks]
    by_cases ha : key a = k
    · rw [if_pos ha, if_neg (ha ▸ hk), add_zero, if_pos (mem_cons.mpr (Or.inl ha))]
    · rw [if_neg ha, zero_add]
      simp [ha]

lemma sum_totalOf (l : List α) {ks : List κ} (hks : ks.Nodup) :
    (ks.map (totalOf key amount l)).sum = (l.map fun a => if key a ∈ ks then amount a else 0).sum := by
  induction l with
  | nil =>
    refine List.sum_eq_zero fun x hx => ?_
    obtain ⟨_, _, rfl⟩ := mem_map.mp hx
    rfl
  | cons a l ih =>
    have hsplit : (ks.map (totalOf key amount (a :: l))).sum =
        (ks.map fun k => if key a = k then amount a else 0).sum + (ks.map (totalOf key amount l)).sum := by
      rw [← List.sum_map_add]
      exact congrArg List.sum (map_congr_left fun k _ => totalOf_cons a l)
    rw [hsplit, sum_if_key a hks, ih, map_cons, sum_cons]

/-- The elements with one of several keys, group by group. -/
lemma sum_filter_mem (l : List α) {ks : List κ} (hks : ks.Nodup) :
    ((l.filter fun a => key a ∈ ks).map amount).sum = (ks.map (totalOf key amount l)).sum := by
  rw [sum_totalOf l hks]
  induction l with
  | nil => rfl
  | cons a l ih =>
    rw [map_cons, sum_cons, ← ih]
    by_cases ha : key a ∈ ks
    · rw [List.filter_cons_of_pos (by simpa using ha), if_pos ha]
      rfl
    · rw [List.filter_cons_of_neg (by simpa using ha), if_neg ha, zero_add]

/-- The groups of a list hold all of it. -/
lemma sum_keysOf (l : List α) : ((keysOf key l).map (totalOf key amount l)).sum = (l.map amount).sum := by
  rw [sum_totalOf l (nodup_keysOf l)]
  refine congrArg List.sum (map_congr_left fun a ha => ?_)
  exact if_pos (mem_keysOf.mpr ⟨a, ha, rfl⟩)

/-- The groups whose keys satisfy `p` hold the elements whose keys do. -/
lemma sum_groups (l : List α) (p : κ → Bool) : (((keysOf key l).filter p).map (totalOf key amount l)).sum =
      (l.map fun a => if p (key a) = true then amount a else 0).sum := by
  rw [sum_totalOf l ((nodup_keysOf l).filter p)]
  refine congrArg List.sum (map_congr_left fun a ha => ?_)
  have hmem : key a ∈ (keysOf key l).filter p ↔ p (key a) = true := by
    rw [mem_filter]
    exact and_iff_right (mem_keysOf.mpr ⟨a, ha, rfl⟩)
  simp only [hmem]

/-! ### Running tallies -/

/-- Every element with the total of its key so far. -/
def runningTally (key : α → κ) (amount : α → M) : Table (Prod.fst : κ × M → κ) → List α → List (α × M)
  | _, [] => []
  | t, a :: l =>
    let next := (t.find? (key a)).elim 0 Prod.snd + amount a
    (a, next) :: runningTally key amount (t.put (key a, next)) l

lemma map_fst_runningTally (t : Table (Prod.fst : κ × M → κ)) (l : List α) :
    (runningTally key amount t l).map Prod.fst = l := by
  induction l generalizing t with
  | nil => rfl
  | cons a l ih => rw [runningTally, map_cons, ih]

lemma totalOf_append (l l' : List α) :
    totalOf key amount (l ++ l') k = totalOf key amount l k + totalOf key amount l' k := by
  rw [totalOf, map_append, List.sum_append]
  rfl

variable {before after : List (α × M)}

/-- The total shown with an element is that of its key up to it, over what the table holds. -/
lemma runningTally_eq_append {t : Table (Prod.fst : κ × M → κ)}
    {r : α × M} (h : runningTally key amount t l = before ++ r :: after) :
    r.2 = (t.find? (key r.1)).elim 0 Prod.snd +
      totalOf key amount ((before ++ [r]).map Prod.fst) (key r.1) := by
  induction before generalizing t l with
  | nil =>
    cases l with
    | nil => cases h
    | cons a l =>
      obtain ⟨rfl, _⟩ := List.cons.inj h
      rw [nil_append, List.map_singleton, totalOf_cons, if_pos rfl, totalOf_nil, add_zero]
  | cons b before ih =>
    cases l with
    | nil => cases h
    | cons a l =>
      obtain ⟨rfl, hrest⟩ := List.cons.inj h
      rw [ih hrest, Table.find?_put, cons_append, map_cons, totalOf_cons]
      by_cases hk : key r.1 = key a
      · rw [if_pos hk, if_pos hk.symm, hk, Option.elim_some, add_assoc]
      · rw [if_neg hk, if_neg (Ne.symm hk), zero_add]

/-- The last total shown for a key is that of the whole list. -/
lemma runningTally_last {r : α × M}
    (h : runningTally key amount .empty l = before ++ r :: after) (hafter : ∀ x ∈ after, key x.1 ≠ key r.1) :
    r.2 = totalOf key amount l (key r.1) := by
  have hl : l = (before ++ [r]).map Prod.fst ++ after.map Prod.fst := by
    have hfst : (runningTally key amount .empty l).map Prod.fst = l := map_fst_runningTally _ _
    rw [← hfst, h]
    simp
  have hzero : totalOf key amount (after.map Prod.fst) (key r.1) = 0 :=
    totalOf_eq_zero (List.forall_mem_map.mpr hafter)
  conv_rhs => rw [hl, totalOf_append, hzero, add_zero]
  rw [runningTally_eq_append h, Table.find?_empty, Option.elim_none, zero_add]

section

variable {ρ M : Type*} [AddCommMonoid M] {amount balance : ρ → M}

/-- Every entry has the sum of the amounts up to and including its own. -/
def RunningBalances (amount balance : ρ → M) (entries : List ρ) : Prop :=
  ∀ before r after, entries = before ++ r :: after →
    balance r = (before.map amount).sum + amount r

@[simp] lemma runningBalances_nil : RunningBalances amount balance [] := by
  intro before r after h
  simp at h

/-- A new entry keeps the balances running if and only if it has the new sum. -/
lemma runningBalances_append_singleton {entries : List ρ} {r : ρ} :
    RunningBalances amount balance (entries ++ [r]) ↔
      RunningBalances amount balance entries ∧
        balance r = (entries.map amount).sum + amount r := by
  constructor
  · intro h
    constructor
    · rintro before x after rfl
      exact h before x (after ++ [r]) (by simp)
    · exact h entries r [] rfl
  · rintro ⟨h, hr⟩ before x after heq
    rcases List.eq_nil_or_concat after with rfl | ⟨after, y, rfl⟩
    · obtain ⟨rfl, hx⟩ := List.append_inj' heq rfl
      obtain rfl : r = x := by simpa using hx
      exact hr
    · have hsplit : entries ++ [r] = (before ++ x :: after) ++ [y] := by simpa using heq
      obtain ⟨rfl, _⟩ := List.append_inj' hsplit rfl
      exact h before x after rfl

end

end Mayatoko.Core
