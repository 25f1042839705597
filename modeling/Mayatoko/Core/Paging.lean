import Mayatoko.Core.Table

/-!
# Reading a table page by page

Rows that are read in the order of their positions, a page at a time. The next page begins after the last
row of the one before, which the reader names as its cursor. A row that is there whenever a page is read is
read once, whatever comes and goes between the pages.
-/

namespace Mayatoko.Core

variable {ρ β : Type*} [LinearOrder β] {pos : ρ → β} {l : List ρ}

/-- Skipping the first row from the cursor on leaves the rows after the cursor. -/
lemma drop_one_filter_le (hl : l.Pairwise fun a b => pos a < pos b) {c : ρ} (hc : c ∈ l) :
    (l.filter fun x => pos c ≤ pos x).drop 1 = l.filter fun x => pos c < pos x := by
  induction l with
  | nil => cases hc
  | cons a l ih =>
    obtain ⟨ha, hl⟩ := List.pairwise_cons.mp hl
    rcases mem_cons.mp hc with rfl | hc
    · have hle : l.filter (fun x => pos c ≤ pos x) = l :=
        List.filter_eq_self.mpr fun x hx => decide_eq_true (ha x hx).le
      have hlt : l.filter (fun x => pos c < pos x) = l :=
        List.filter_eq_self.mpr fun x hx => decide_eq_true (ha x hx)
      rw [List.filter_cons_of_pos (by simp), List.filter_cons_of_neg (by simp), hle, hlt]
      rfl
    · have hac := ha c hc
      rw [List.filter_cons_of_neg (by simpa using hac), List.filter_cons_of_neg (by simpa using hac.le),
        ih hl hc]

/-- The rows after a page are those after its last row. -/
lemma drop_eq_filter_lt (hl : l.Pairwise fun a b => pos a < pos b) {n : ℕ} {c : ρ}
    (hc : (l.take n).getLast? = some c) : l.drop n = l.filter fun x => pos c < pos x := by
  obtain ⟨before, hbefore⟩ := List.getLast?_eq_some_iff.mp hc
  have hsplit : l = before ++ c :: l.drop n := by
    conv_lhs => rw [← List.take_append_drop n l, hbefore]
    simp
  rw [hsplit, List.pairwise_append, List.pairwise_cons] at hl
  obtain ⟨_, ⟨hafter, _⟩, hcross⟩ := hl
  have hnone : before.filter (fun x => pos c < pos x) = [] := by
    rw [filter_eq_nil_iff]
    intro x hx
    simpa using (hcross x hx c mem_cons_self).le
  have hall : (l.drop n).filter (fun x => pos c < pos x) = l.drop n :=
    List.filter_eq_self.mpr fun x hx => decide_eq_true (hafter x hx)
  conv_rhs => rw [hsplit]
  rw [filter_append, hnone, List.filter_cons_of_neg (by simp), hall, nil_append]

/-- A sorted reading of rows with different positions. -/
lemma Table.pairwise_findSorted {κ : Type*} {key : ρ → κ} {t : Table key} {p : ρ → Bool}
    (hpos : ∀ a ∈ t, ∀ b ∈ t, pos a = pos b → key a = key b) :
    (t.findSorted p fun a b => pos a ≤ pos b).Pairwise fun a b => pos a < pos b := by
  have hle := List.pairwise_insertionSort (fun a b => pos a ≤ pos b) (t.findMany p)
  have hkeys := List.pairwise_map.mp (t.nodup_findSorted p fun a b => pos a ≤ pos b)
  have hmem (x : ρ) : x ∈ (t.findSorted p fun a b => pos a ≤ pos b) → x ∈ t :=
    fun hx => (mem_findSorted.mp hx).1
  simp only [findSorted, decide_eq_true_eq] at hkeys hmem ⊢
  refine (hle.and hkeys).imp_of_mem fun ha hb hab => lt_of_le_of_ne hab.1 fun heq => ?_
  exact hab.2 (hpos _ (hmem _ ha) _ (hmem _ hb) heq)

/-! ### Reading on while the table changes -/

section Reading

variable {κ : Type*} {key : ρ → κ} (pos) (p : ρ → Bool)

/-- The rows of a filter that come after a position, in order. -/
def Table.rowsAfter (t : Table key) (bound : Option β) : List ρ :=
  t.findSorted (fun x => p x && bound.all fun b => decide (b < pos x)) fun a b => pos a ≤ pos b

/-- The rows that a reader gets from the tables that it finds, one page from each, with the sizes that it asks
for. A page that does not hold all rows that are left is followed by the rows after its last one. -/
inductive ReadsPages : Option β → List (Table key × ℕ) → List ρ → Prop
  | last {bound : Option β} {t : Table key} {n : ℕ} (h : (t.rowsAfter pos p bound).length ≤ n) :
    ReadsPages bound [(t, n)] (t.rowsAfter pos p bound)
  | next {bound : Option β} {t : Table key} {n : ℕ} {c : ρ} {found : List (Table key × ℕ)} {rows : List ρ}
    (hc : ((t.rowsAfter pos p bound).take n).getLast? = some c) (hrest : ReadsPages (some (pos c)) found rows) :
    ReadsPages bound ((t, n) :: found) ((t.rowsAfter pos p bound).take n ++ rows)

variable {pos p} {t : Table key} {bound : Option β} {found : List (Table key × ℕ)} {rows : List ρ}

lemma Table.mem_rowsAfter {x : ρ} :
    x ∈ t.rowsAfter pos p bound ↔ x ∈ t ∧ p x = true ∧ ∀ b, bound = some b → b < pos x := by
  rw [rowsAfter, mem_findSorted, Bool.and_eq_true]
  cases bound with
  | none => simp only [Option.all_none, reduceCtorEq, false_implies, implies_true]
  | some b => simp only [Option.all_some, decide_eq_true_eq, Option.some.injEq, forall_eq']

/-- Rows of one position are one row, in each table that is found. -/
def Placed (pos : ρ → β) (found : List (Table key × ℕ)) : Prop :=
  ∀ f ∈ found, ∀ a ∈ f.1, ∀ b ∈ f.1, pos a = pos b → key a = key b

lemma Table.pairwise_rowsAfter (hpos : ∀ a ∈ t, ∀ b ∈ t, pos a = pos b → key a = key b) :
    (t.rowsAfter pos p bound).Pairwise fun a b => pos a < pos b :=
  Table.pairwise_findSorted hpos

/-- Each row that is read comes from a table in which it was found, from after the position. -/
lemma ReadsPages.mem (h : ReadsPages pos p bound found rows) {x : ρ} (hx : x ∈ rows) :
    (∃ f ∈ found, x ∈ f.1 ∧ p x = true) ∧ ∀ b, bound = some b → b < pos x := by
  induction h with
  | last hle =>
    obtain ⟨hmem, hp, hafter⟩ := Table.mem_rowsAfter.mp hx
    exact ⟨⟨_, mem_cons_self, hmem, hp⟩, hafter⟩
  | next hc _ ih =>
    obtain hx | hx := mem_append.mp hx
    · obtain ⟨hmem, hp, hafter⟩ := Table.mem_rowsAfter.mp (List.mem_of_mem_take hx)
      exact ⟨⟨_, mem_cons_self, hmem, hp⟩, hafter⟩
    · obtain ⟨⟨f, hf, hmem⟩, hafter⟩ := ih hx
      have hcmem := Table.mem_rowsAfter.mp (List.mem_of_mem_take (List.mem_of_mem_getLast? hc))
      exact ⟨⟨f, mem_cons_of_mem _ hf, hmem⟩, fun b hb => (hcmem.2.2 b hb).trans (hafter _ rfl)⟩

/-- No row of a page comes after its last one. -/
lemma le_getLast_take (hl : l.Pairwise fun a b => pos a < pos b) {n : ℕ} {c x : ρ}
    (hc : (l.take n).getLast? = some c) (hx : x ∈ l.take n) : pos x ≤ pos c := by
  obtain ⟨before, hbefore⟩ := List.getLast?_eq_some_iff.mp hc
  have hpage := hl.sublist (List.take_sublist n l)
  rw [hbefore] at hpage hx
  obtain hx | hx := mem_append.mp hx
  · exact ((List.pairwise_append.mp hpage).2.2 x hx c mem_cons_self).le
  · rw [mem_singleton.mp hx]

/-- Rows are read in the order of their positions. -/
lemma ReadsPages.pairwise (h : ReadsPages pos p bound found rows) (hpos : Placed pos found) :
    rows.Pairwise fun a b => pos a < pos b := by
  induction h with
  | last hle => exact Table.pairwise_rowsAfter (hpos _ mem_cons_self)
  | @next bound t n c found rows hc hrest ih =>
    have hpage : (t.rowsAfter pos p bound).Pairwise fun a b => pos a < pos b :=
      Table.pairwise_rowsAfter (hpos _ mem_cons_self)
    rw [List.pairwise_append]
    refine ⟨hpage.sublist (List.take_sublist _ _), ih fun f hf => hpos f (mem_cons_of_mem _ hf), ?_⟩
    intro x hx y hy
    exact lt_of_le_of_lt (le_getLast_take hpage hc hx) ((hrest.mem hy).2 _ rfl)

/-- A row that is there whenever a page is read is read. -/
lemma ReadsPages.exists_of_found (h : ReadsPages pos p bound found rows) (hpos : Placed pos found) {k : κ}
    {b : β} (hfound : ∀ f ∈ found, ∃ r ∈ f.1, key r = k ∧ pos r = b ∧ p r = true)
    (hafter : ∀ c, bound = some c → c < b) : ∃ r ∈ rows, key r = k := by
  induction h with
  | @last bound t n hle =>
    obtain ⟨r, hr, hk, rfl, hp⟩ := hfound _ mem_cons_self
    exact ⟨r, Table.mem_rowsAfter.mpr ⟨hr, hp, hafter⟩, hk⟩
  | @next bound t n c found rows hc hrest ih =>
    obtain ⟨r, hr, hk, rfl, hp⟩ := hfound _ mem_cons_self
    have hpage : (t.rowsAfter pos p bound).Pairwise fun a b => pos a < pos b :=
      Table.pairwise_rowsAfter (hpos _ mem_cons_self)
    have hmem : r ∈ (t.rowsAfter pos p bound).take n ++ (t.rowsAfter pos p bound).drop n := by
      rw [List.take_append_drop]
      exact Table.mem_rowsAfter.mpr ⟨hr, hp, hafter⟩
    obtain hmem | hmem := mem_append.mp hmem
    · exact ⟨r, List.mem_append_left _ hmem, hk⟩
    · rw [drop_eq_filter_lt hpage hc, mem_filter, decide_eq_true_eq] at hmem
      obtain ⟨x, hx, hxk⟩ := ih (fun f hf => hpos f (mem_cons_of_mem _ hf))
        (fun f hf => hfound f (mem_cons_of_mem _ hf)) fun b hb => Option.some.inj hb ▸ hmem.2
      exact ⟨x, mem_append_right _ hx, hxk⟩

/-- A row that is there whenever a page is read is read exactly once. -/
theorem ReadsPages.count_eq_one [DecidableEq κ] (h : ReadsPages pos p none found rows) (hpos : Placed pos found)
    {k : κ} {b : β} (hfound : ∀ f ∈ found, ∃ r ∈ f.1, key r = k ∧ pos r = b ∧ p r = true) :
    (rows.map key).count k = 1 := by
  have hplace : ∀ x ∈ rows, key x = k → pos x = b := by
    intro x hx hxk
    obtain ⟨⟨f, hf, hxf, _⟩, _⟩ := h.mem hx
    obtain ⟨r, hr, hk, hb, _⟩ := hfound f hf
    rw [eq_of_key_eq hxf hr (hxk.trans hk.symm), hb]
  obtain ⟨r, hr, hk⟩ := h.exists_of_found hpos hfound (fun c hc => nomatch hc)
  obtain ⟨before, after, rfl⟩ := List.append_of_mem hr
  obtain ⟨_, hafter, hbefore⟩ := List.pairwise_append.mp (h.pairwise hpos)
  have hr' := hplace r hr hk
  have hnone (xs : List ρ) (hxs : ∀ x ∈ xs, x ∈ before ++ r :: after ∧ pos x ≠ pos r) :
      (xs.map key).count k = 0 := by
    rw [List.count_eq_zero, mem_map]
    rintro ⟨x, hx, hxk⟩
    exact (hxs x hx).2 ((hplace x (hxs x hx).1 hxk).trans hr'.symm)
  rw [map_append, map_cons, List.count_append, List.count_cons, hk,
    hnone before fun x hx => ⟨List.mem_append_left _ hx, (hbefore x hx r mem_cons_self).ne⟩,
    hnone after fun x hx => ⟨mem_append_right _ (mem_cons_of_mem _ hx),
      ((List.pairwise_cons.mp hafter).1 x hx).ne'⟩]
  simp only [beq_self_eq_true, if_true]

end Reading

end Mayatoko.Core
