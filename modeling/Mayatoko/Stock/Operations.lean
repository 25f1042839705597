import Mathlib.Algebra.Order.BigOperators.Group.List
import Mayatoko.Stock.Preparation

/-!
# What the location operations do to the ledgers

One lemma for each operation of `LocationInventory`: from a consistent state, a committed
operation leaves a state that owes its aggregate exactly the quantities the operation moved.
-/

namespace Mayatoko.Stock

open Core Db TableOf

variable {db db' : Db} {s : ℕ × ℕ} {δ : Counts}

/-- From `db` to `db'` the balances of `s` got ahead of the aggregate by `δ`; reservations were
not written. -/
structure Moved (s : ℕ × ℕ) (δ : Counts) (db db' : Db) : Prop extends Keeps db db' where
  owes : Owes s δ db'
  reservations : db'.reservations = db.reservations

lemma Prepared.moved (h : Prepared s db db') : Moved s 0 db db' :=
  ⟨h.toKeeps, h.consistent.owes s, h.reservations⟩

lemma Moved.after {ε : Counts} {db₁ db₂ db₃ : Db} (h : Keeps db₁ db₂)
    (hr : db₂.reservations = db₁.reservations) (h' : Moved s ε db₂ db₃) : Moved s ε db₁ db₃ :=
  ⟨h.trans h'.toKeeps, h'.owes, h'.reservations.trans hr⟩

/-! ### Free stock -/

lemma Db.Sound.condition_warehouse (h : Sound db) {b : InventoryLocationBalance}
    (hb : b ∈ db.locationBalances) {c : InventoryConditionBalance}
    (hc : c ∈ db.conditionBalances) (hk : c.place = b.key) : c.warehouseId = b.warehouseId := by
  obtain ⟨x, hx, hxk, hxw⟩ := h.placed c hc
  rw [← hxw, eq_of_key_eq hx hb (hxk.trans hk)]

variable {c : InventoryConditionBalance}

lemma sellable_eq (hc : c ∈ db.conditionBalances)
    {l p : ℕ} (hk : c.key = (l, p, .available)) : db.sellable (l, p) = c.quantity := by
  rw [sellable, find?_eq_some.mpr ⟨hc, hk⟩]
  rfl

variable {b : InventoryLocationBalance}

lemma balanceAt_eq (hb : b ∈ db.locationBalances) {k : ℕ × ℕ} (hk : b.key = k) : db.balanceAt k = b.counts := by
  rw [balanceAt, find?_eq_some.mpr ⟨hb, hk⟩]
  rfl

lemma keeps_writeStock
    (hw : ∀ x ∈ db.locationBalances, x.key = b.key → x.warehouseId = b.warehouseId) :
    Keeps db (db.writeStock b c) :=
  ⟨rfl, fun _ _ hid => hid, fun _ _ hk => Stocked.writeBalance hw hk⟩

variable {l p w : ℕ} {q : ℤ} {f : InventoryLocationBalance → InventoryLocationBalance}
  {guard : InventoryLocationBalance → Bool}

/-- A guarded write that takes `q` out of a balance and out of its `AVAILABLE` condition. The
condition row that it hits shows that the stock is classified. -/
lemma subtract_commits {hf} {e : Failure} {u v : Unit} {t : Db}
    (h : Owes (w, p) δ db) (hst : db.Stocked (l, p) w)
    (h₁ : Commits (Db.inventoryLocationBalance.updateOne guard f e hf) db u t)
    (h₂ : Commits (decrementAvailableCondition l p q) t v db')
    (hguard : ∀ b ∈ db.locationBalances, guard b = true →
      b.key = (l, p) ∧ 0 ≤ (f b).reserved ∧ 0 ≤ (f b).available)
    (hq : ∀ b, (f b).quantity = b.quantity - q)
    (hra : ∀ b, (f b).reserved + (f b).available = b.reserved + b.available - q)
    (hw : ∀ b, (f b).warehouseId = b.warehouseId) {ε : Counts}
    (hε : ∀ b, (f b).counts = b.counts + ε) :
    Moved (w, p) (δ + ε) db db' ∧ db'.Classified (w, p) := by
  obtain ⟨b, hb, hg, rfl⟩ := updateOne_commits h₁
  obtain ⟨c, hc, hcg, rfl⟩ := updateOne_commits h₂
  obtain ⟨hk, hr, ha⟩ := hguard b hb hg
  change c ∈ db.conditionBalances at hc
  simp only [cond_iff] at hcg
  obtain ⟨x, hx, hxk, rfl⟩ := hst
  obtain rfl : x = b := eq_of_key_eq hx hb (hxk.trans hk.symm)
  have hplace : c.place = x.key := by
    obtain ⟨h₁, h₂⟩ := Prod.mk.inj hcg.1
    rw [hk, InventoryConditionBalance.place, h₁, (Prod.mk.inj h₂).1]
  have hfk : (f x).key = x.key := hf x
  have hwr : StockWrite db (f x) { c with quantity := c.quantity - q } (-q) := by
    refine ⟨?_, ⟨hr, ha⟩, ?_, (Prod.mk.inj (Prod.mk.inj hcg.1).2).2, ?_, ?_, ?_, ?_⟩
    · rw [hw, show (f x).locationId = x.locationId from congrArg Prod.fst hfk]
      exact h.located x hx
    · exact hplace.trans hfk.symm
    · rw [hw, ← h.toSound.condition_warehouse hx hc hplace]
    · rw [hfk, balanceAt_eq hx rfl, hq]
      rfl
    · rw [hfk, balanceAt_eq hx rfl, hra]
      simp only [InventoryLocationBalance.counts]
      omega
    · rw [hfk, hk, sellable_eq hc hcg.1]
      exact sub_eq_add_neg _ _
  have hcl : db.Classified (x.warehouseId, p) := by
    refine h.classified _ ⟨c, hc, Prod.ext (h.toSound.condition_warehouse hx hc hplace) ?_⟩
    exact (Prod.mk.inj (Prod.mk.inj hcg.1).2).1
  have hstock : (f x).stock = (x.warehouseId, p) := by
    rw [InventoryLocationBalance.stock, hw, show (f x).productId = p from congrArg Prod.snd (hfk.trans hk)]
  obtain ⟨howes, hcl'⟩ := h.writeStock hwr hstock hcl fun hno =>
    absurd ⟨x, hx, Prod.ext rfl (show x.productId = p from congrArg Prod.snd hk)⟩ hno
  rw [hfk, balanceAt_eq hx rfl, hε, add_sub_cancel_left] at howes
  exact ⟨⟨keeps_writeStock (hwr.same_warehouse h.toSound), howes, rfl⟩, hcl'⟩

variable {u : Unit}

lemma subtractAvailable_commits {e : Failure} (h : Owes (w, p) δ db) (hst : db.Stocked (l, p) w)
    (hc : Commits (subtractAvailable l p q e) db u db') :
    Moved (w, p) (δ + (-q, 0, -q)) db db' ∧ db'.Classified (w, p) := by
  simp only [subtractAvailable, commits_bind, commits_currentTime] at hc
  obtain ⟨_, _, ⟨rfl, rfl⟩, _, t, h₁, h₂⟩ := hc
  refine subtract_commits h hst h₁ h₂ (fun b hb hg => ?_) (fun _ => rfl) (fun b => ?_)
    (fun _ => rfl) fun b => ?_
  · simp only [cond_iff] at hg
    obtain ⟨hr, _⟩ := h.free b hb
    exact ⟨hg.1.1, hr, by simp only; omega⟩
  · simp only
    omega
  · simp [InventoryLocationBalance.counts, sub_eq_add_neg]

lemma subtractAvailable_stocked {e : Failure} (h : Sound db)
    (hl : db.Holds l w) (hc : Commits (subtractAvailable l p q e) db u db') :
    db.Stocked (l, p) w := by
  simp only [subtractAvailable, commits_bind, commits_currentTime] at hc
  obtain ⟨_, _, ⟨rfl, rfl⟩, _, t, h₁, _⟩ := hc
  obtain ⟨b, hb, hg, _⟩ := updateOne_commits h₁
  simp only [cond_iff] at hg
  obtain ⟨loc, hloc, rfl, rfl⟩ := hl
  exact ⟨b, hb, hg.1.1, h.warehouse_eq hb hloc (congrArg Prod.fst hg.1.1)⟩

lemma upsert_balance (h : Sound db) {l p w now : ℕ} {q : ℤ} (hl : db.Holds l w) (hq : 0 < q)
    {b : InventoryLocationBalance}
    (hb : b = (db.locationBalances.find? (l, p)).elim
      { warehouseId := w, locationId := l, productId := p, quantity := q, available := q,
        updatedAt := now }
      (fun x => { x with
        quantity := x.quantity + q, available := x.available + q, updatedAt := now })) :
    b.key = (l, p) ∧ b.warehouseId = w ∧ 0 ≤ b.reserved ∧ 0 ≤ b.available ∧
      b.counts = db.balanceAt (l, p) + (q, 0, q) := by
  rw [balanceAt]
  cases hx : db.locationBalances.find? (l, p) with
  | none =>
    rw [hx] at hb
    subst hb
    exact ⟨rfl, rfl, le_refl _, le_of_lt hq, by simp [InventoryLocationBalance.counts]⟩
  | some x =>
    rw [hx] at hb
    subst hb
    obtain ⟨hxm, hxk⟩ := find?_eq_some.mp hx
    obtain ⟨hr, ha⟩ := h.free x hxm
    obtain ⟨loc, hloc, rfl, rfl⟩ := hl
    refine ⟨hxk, h.warehouse_eq hxm hloc (congrArg Prod.fst hxk), hr, ?_, ?_⟩
    · simp only [Option.elim_some]
      omega
    · simp [InventoryLocationBalance.counts]

lemma upsert_condition (h : Sound db) {l p w : ℕ} {q : ℤ} (hl : db.Holds l w) {c : InventoryConditionBalance}
    (hc : c = (db.conditionBalances.find? (l, p, .available)).elim
      { warehouseId := w, locationId := l, productId := p, condition := .available,
        quantity := q }
      (fun x => { x with quantity := x.quantity + q })) :
    c.place = (l, p) ∧ c.condition = .available ∧ c.warehouseId = w ∧
      c.quantity = db.sellable (l, p) + q := by
  rw [sellable]
  cases hx : db.conditionBalances.find? (l, p, .available) with
  | none =>
    rw [hx] at hc
    subst hc
    exact ⟨rfl, rfl, rfl, (zero_add q).symm⟩
  | some x =>
    rw [hx] at hc
    subst hc
    obtain ⟨hxm, hxk⟩ := find?_eq_some.mp hx
    obtain ⟨h₁, h₂⟩ := Prod.mk.inj hxk
    obtain ⟨h₂, h₃⟩ := Prod.mk.inj h₂
    obtain ⟨b, hb, hbk, hbw⟩ := h.placed x hxm
    obtain ⟨loc, hloc, rfl, rfl⟩ := hl
    refine ⟨Prod.ext h₁ h₂, h₃, ?_, rfl⟩
    exact hbw.symm.trans (h.warehouse_eq hb hloc ((congrArg Prod.fst hbk).trans h₁))

lemma addAvailable_commits (h : Owes (w, p) δ db) (hcl : db.Classified (w, p)) (hl : db.Holds l w)
    (hnew : ¬ db.Located (w, p) → db.aggregate (w, p) = 0) (hq : 0 < q)
    (hc : Commits (addAvailable w l p q) db u db') :
    Moved (w, p) (δ + (q, 0, q)) db db' ∧ db'.Classified (w, p) := by
  simp only [addAvailable, incrementAvailableCondition, commits_bind, commits_currentTime,
    commits_upsert, commits_pure] at hc
  obtain ⟨_, _, ⟨rfl, rfl⟩, b, _, ⟨hb, rfl⟩, c, _, ⟨hcond, rfl⟩, _, rfl⟩ := hc
  obtain ⟨hbk, hbw, hbr, hba, hbc⟩ := upsert_balance (p := p) h.toSound hl hq hb
  obtain ⟨hcp, hca, hcw, hcq⟩ := upsert_condition (p := p) h.toSound hl hcond
  have hbc' := hbc
  simp only [InventoryLocationBalance.counts, Prod.ext_iff, Prod.fst_add, Prod.snd_add] at hbc'
  have hwr : StockWrite db b c q := by
    refine ⟨?_, ⟨hbr, hba⟩, hcp.trans hbk.symm, hca, hcw.trans hbw.symm, ?_, ?_, ?_⟩
    · rw [hbw, show b.locationId = l from congrArg Prod.fst hbk]
      exact hl
    · rw [hbk]
      exact hbc'.1
    · rw [hbk]
      omega
    · rw [hbk]
      exact hcq
  have hstock : b.stock = (w, p) :=
    Prod.ext hbw (show b.productId = p from congrArg Prod.snd hbk)
  obtain ⟨howes, hcl'⟩ := h.writeStock hwr hstock hcl hnew
  rw [hbk, hbc, add_sub_cancel_left] at howes
  exact ⟨⟨keeps_writeStock (hwr.same_warehouse h.toSound), howes, rfl⟩, hcl'⟩

variable {loc : Option ℕ}

lemma chooseLocation_commits {primary l : WarehouseLocation}
    (hprimary : db.Holds primary.id w) (h : Commits (chooseLocation w loc primary) db l db') :
    db' = db ∧ db.Holds l.id w := by
  cases loc with
  | none =>
    obtain ⟨rfl, rfl⟩ := commits_pure.mp h
    exact ⟨rfl, hprimary⟩
  | some id =>
    obtain ⟨rfl, rfl, hheld⟩ := assertLocation_commits h
    exact ⟨rfl, hheld⟩

lemma depositLocationStock_commits (hdb : Consistent db)
    (h : Commits (depositLocationStock w p q loc) db l db') : Moved (w, p) (q, 0, q) db db' := by
  simp only [depositLocationStock, commits_steps] at h
  obtain ⟨hq, a, t, hprep, _, t', hcond, location, t'', hloc, _, _, hadd, rfl, rfl⟩ := h
  obtain ⟨hp, hprimary⟩ := prepareLocationInventory_commits hdb hprep
  obtain ⟨hp', hcl⟩ := prepareConditionInventory_commits hp.consistent hcond
  obtain ⟨rfl, hheld⟩ := chooseLocation_commits (hp'.holds _ _ hprimary) hloc
  have hprep := hp.trans hp'
  obtain ⟨hm, -⟩ := addAvailable_commits (hprep.consistent.owes (w, p)) hcl hheld hprep.vacant hq hadd
  rw [zero_add] at hm
  exact Moved.after hprep.toKeeps hprep.reservations hm

variable {row : InventoryLocationBalance}

lemma stocked_of_row (hrow : row ∈ db.locationBalances)
    (hs : row.stock = (w, p)) : db.Stocked (row.locationId, p) w := by
  obtain ⟨h₁, h₂⟩ := Prod.mk.inj hs
  exact ⟨row, hrow, Prod.ext rfl h₂, h₁⟩

variable {as : List LocationAllocation}

lemma consumeAvailableLocationStock_commits
    (hdb : Consistent db) (h : Commits (consumeAvailableLocationStock w p q) db as db') :
    Moved (w, p) (-q, 0, -q) db db' := by
  simp only [consumeAvailableLocationStock, commits_steps] at h
  obtain ⟨hq, rows, t, hrows, res, _, halloc, hdone, _, rfl⟩ := h
  obtain ⟨hprep, -, hmem⟩ := orderedAvailableBalances_commits hdb hrows
  have hI := halloc.allocate (I := fun n st =>
      Moved (w, p) (n - q, 0, n - q) t st ∧ 0 ≤ n)
    (fun row hrow n st taken st' hn hI hstep => ?_) ⟨?_, le_of_lt hq⟩
  · obtain ⟨hm, hn⟩ := hI
    have hzero : res.2 = 0 := le_antisymm hdone hn
    rw [hzero, zero_sub] at hm
    exact Moved.after hprep.toKeeps hprep.reservations hm
  · obtain ⟨hm, _⟩ := hI
    simp only [consumeAvailableAt, commits_steps] at hstep
    obtain ⟨_, _, hsub, rfl, rfl⟩ := hstep
    obtain ⟨hrm, hrs⟩ := hmem row hrow
    have hst := hm.stocked _ _ (stocked_of_row hrm hrs)
    obtain ⟨hm', -⟩ := subtractAvailable_commits hm.owes hst hsub
    have hsum : ((n - q, 0, n - q) : Counts) + (-min row.available n, 0, -min row.available n) =
        (n - min row.available n - q, 0, n - min row.available n - q) := by
      simp only [Prod.mk_add_mk, add_zero, Prod.mk.injEq, true_and, and_self]
      omega
    rw [hsum] at hm'
    exact ⟨Moved.after hm.toKeeps hm.reservations hm', by omega⟩
  · have hm := hprep.moved
    rw [sub_self]
    exact ⟨Keeps.refl t, hm.owes, rfl⟩

/-! ### Reserved stock -/

lemma shift_commits {hf} {e : Failure} {u : Unit} (h : Owes (w, p) δ db) (hst : db.Stocked (l, p) w)
    (hc : Commits (Db.inventoryLocationBalance.updateOne guard f e hf) db u db')
    (hguard : ∀ b ∈ db.locationBalances, guard b = true →
      b.key = (l, p) ∧ 0 ≤ (f b).reserved ∧ 0 ≤ (f b).available)
    (hq : ∀ b, (f b).quantity = b.quantity)
    (hra : ∀ b, (f b).reserved + (f b).available = b.reserved + b.available)
    (hw : ∀ b, (f b).warehouseId = b.warehouseId) {ε : Counts}
    (hε : ∀ b, (f b).counts = b.counts + ε) : Moved (w, p) (δ + ε) db db' := by
  obtain ⟨b, hb, hg, rfl⟩ := updateOne_commits hc
  obtain ⟨hk, hr, ha⟩ := hguard b hb hg
  obtain ⟨x, hx, hxk, rfl⟩ := hst
  obtain rfl : x = b := eq_of_key_eq hx hb (hxk.trans hk.symm)
  have hs : x.stock = (x.warehouseId, p) :=
    Prod.ext rfl (show x.productId = p from congrArg Prod.snd hk)
  have howes := h.shift hx (hf x) (hw x) hs (hq x) (hra x) ⟨hr, ha⟩
  rw [hε, add_sub_cancel_left] at howes
  exact ⟨⟨rfl, fun _ _ hid => hid, fun _ _ hk => Stocked.writeBalance
    (warehouse_of_key_eq hx (hf x) (hw x)) hk⟩, howes, rfl⟩

/-- The document of a source exists, in the warehouse `w`, if it is an order. -/
def Db.Sourced (db : Db) (source : StockSource) (w : ℕ) : Prop :=
  source.sourceType = "Order" → ∃ o ∈ db.orders, o.id = source.sourceId ∧ o.warehouseId = w

variable {source : StockSource}

lemma reserveAt_commits
    {n taken : ℤ} (h : Owes (w, p) δ db) (hst : db.Stocked (row.locationId, p) w)
    (hp : row.productId = p) (hsrc : db.Sourced source w) (hn : 0 < n) (hrow : 0 ≤ row.available)
    (hc : Commits (reserveAt w p source row n) db taken db') :
    Keeps db db' ∧ Owes (w, p) (δ + (0, taken, -taken)) db' ∧
      (∀ r ∈ db'.reservations, r ∈ db.reservations ∨ r.productId = p) ∧ 0 ≤ n - taken := by
  simp only [reserveAt, commits_bind, commits_currentTime, commits_create, commits_pure] at hc
  obtain ⟨_, _, ⟨rfl, rfl⟩, _, t, hup, _, _, ⟨_, rfl⟩, rfl, rfl⟩ := hc
  have hm := shift_commits (ε := (0, min row.available n, -min row.available n)) h hst hup
    (fun b hb hg => ?_) (fun _ => rfl) (fun b => ?_) (fun _ => rfl) (fun b => ?_)
  · refine ⟨hm.toKeeps.trans ⟨rfl, fun _ _ hid => hid, fun _ _ hk => hk⟩,
      hm.owes.writeReservation (le_min hrow (le_of_lt hn)) (hm.stocked _ _ hst) ?_,
      fun r hr => ?_, by omega⟩
    · intro htype
      rw [hm.orders]
      exact hsrc htype
    · rcases mem_put.mp hr with rfl | ⟨hr, _⟩
      · exact .inr rfl
      · exact .inl (hm.reservations ▸ hr)
  · simp only [cond_iff] at hg
    obtain ⟨hr, _⟩ := h.free b hb
    refine ⟨hg.1.trans (Prod.ext rfl hp), ?_, ?_⟩ <;> simp only <;> omega
  · simp only
    omega
  · simp [InventoryLocationBalance.counts, sub_eq_add_neg]

/-- A reservation owes what it reserved, and reserves exactly what it was asked for; the rows it
adds are for its product. -/
lemma reserveLocationStock_commits (hdb : Consistent db) (hsrc : db.Sourced source w)
    (hfresh : db.activeReservations source p = [])
    (h : Commits (reserveLocationStock w p q source) db as db') :
    Keeps db db' ∧ Owes (w, p) (0, q, -q) db' ∧
      ∀ r ∈ db'.reservations, r ∈ db.reservations ∨ r.productId = p := by
  simp only [reserveLocationStock, commits_bind, commits_get, commits_require, commits_ite, commits_pure] at h
  obtain ⟨_, _, ⟨hq, rfl⟩, _, _, ⟨rfl, rfl⟩, h⟩ := h
  rcases h with ⟨_, rows, t, hrows, res, _, halloc, _, _, ⟨hdone, rfl⟩, _, rfl⟩ | ⟨hne, _⟩
  swap
  · exact absurd hfresh hne
  obtain ⟨hprep, -, hmem⟩ := orderedAvailableBalances_commits hdb hrows
  have hI := halloc.allocate (I := fun n st =>
      Keeps t st ∧ Owes (w, p) (0, q - n, n - q) st ∧
        (∀ r ∈ st.reservations, r ∈ t.reservations ∨ r.productId = p) ∧ 0 ≤ n)
    (fun row hrow n st taken st' hn hI hstep => ?_)
    ⟨Keeps.refl t, ?_, fun r hr => .inl hr, le_of_lt hq⟩
  · obtain ⟨hk, howes, hres, hn⟩ := hI
    have hzero : res.2 = 0 := le_antisymm hdone hn
    rw [hzero, sub_zero, zero_sub] at howes
    refine ⟨hprep.toKeeps.trans hk, howes, fun r hr => ?_⟩
    rw [← hprep.reservations]
    exact hres r hr
  · obtain ⟨hk, howes, hres, _⟩ := hI
    obtain ⟨hrm, hrs⟩ := hmem row hrow
    have hst := hk.stocked _ _ (stocked_of_row hrm hrs)
    have hsrc' : st.Sourced source w := fun htype => by
      rw [hk.orders, hprep.orders]
      exact hsrc htype
    obtain ⟨hk', howes', hres', hn'⟩ := reserveAt_commits howes hst (congrArg Prod.snd hrs) hsrc' hn
      (hprep.consistent.free row hrm).2 hstep
    have hsum : ((0, q - n, n - q) : Counts) + (0, taken, -taken) = (0, q - (n - taken), n - taken - q) := by
      simp only [Prod.mk_add_mk, add_zero, Prod.mk.injEq, true_and]
      omega
    rw [hsum] at howes'
    refine ⟨hk.trans hk', howes', fun r hr => ?_, hn'⟩
    rcases hres' r hr with hr | hr
    · exact hres r hr
    · exact .inr hr
  · rw [sub_self]
    exact hprep.consistent.owes _

/-- What a release or, with `consume`, a fulfilment of `t` reserved units owes. -/
def reservedDelta (consume : Bool) (t : ℤ) : Counts := if consume then (-t, -t, 0) else (0, -t, t)

lemma reservedDelta_add (consume : Bool) (t u : ℤ) :
    reservedDelta consume t + reservedDelta consume u = reservedDelta consume (t + u) := by
  cases consume <;> simp [reservedDelta] <;> omega

@[simp] lemma reservedDelta_zero (consume : Bool) : reservedDelta consume 0 = 0 := by
  cases consume <;> simp [reservedDelta]

lemma tracked_nonneg (h : Sound db) (l p : ℕ) : 0 ≤ db.tracked l p := by
  refine List.sum_nonneg fun q hq => ?_
  obtain ⟨r, hr, rfl⟩ := mem_map.mp hq
  exact (h.held r (mem_findMany.mp hr).1).1

lemma mutateLegacyAt_commits {consume : Bool}
    {n taken : ℤ} (h : Owes (w, p) δ db) (hst : db.Stocked (row.locationId, p) w)
    (hp : row.productId = p) (hn : 0 < n)
    (hc : Commits (mutateLegacyAt p consume row n) db taken db') :
    Moved (w, p) (δ + reservedDelta consume taken) db db' ∧ 0 ≤ n - taken := by
  simp only [mutateLegacyAt, commits_steps, commits_ite] at hc
  obtain ⟨_, rfl, rfl⟩ | ⟨hlegacy, _, t, hup, _, _, hdec, rfl, rfl⟩ := hc
  · rw [reservedDelta_zero, add_zero]
    exact ⟨⟨Keeps.refl db, h, rfl⟩, by omega⟩
  · have htr := tracked_nonneg h.toSound row.locationId p
    set take := min (max 0 (row.reserved - db.tracked row.locationId p)) n with htake
    have hkey : row.key = (row.locationId, p) := Prod.ext rfl hp
    refine ⟨?_, by omega⟩
    cases consume with
    | false =>
      obtain ⟨hf, _⟩ | ⟨_, _, rfl⟩ := hdec
      · exact absurd hf (by simp)
      refine shift_commits h hst hup (fun b hb hg => ?_) (fun _ => rfl) (fun b => ?_) (fun _ => rfl) fun b => ?_
      · simp only [cond_iff] at hg
        obtain ⟨_, ha⟩ := h.free b hb
        refine ⟨hg.1.1.trans hkey, ?_, ?_⟩ <;> simp <;> omega
      · simp
      · simp [InventoryLocationBalance.counts, reservedDelta]
        omega
    | true =>
      obtain ⟨_, hdec⟩ | ⟨hf, _⟩ := hdec
      swap
      · exact absurd rfl hf
      refine (subtract_commits h hst hup hdec (fun b hb hg => ?_) (fun _ => rfl) (fun b => ?_)
        (fun _ => rfl) fun b => ?_).1
      · simp only [cond_iff] at hg
        obtain ⟨_, ha⟩ := h.free b hb
        refine ⟨hg.1.1.trans hkey, ?_, ?_⟩ <;> simp <;> omega
      · simp
        omega
      · simp [InventoryLocationBalance.counts, reservedDelta]
        omega

lemma mutateLegacyReservedStock_commits {consume : Bool} (hdb : Consistent db) (hq : 0 ≤ q)
    (h : Commits (mutateLegacyReservedStock w p q consume) db as db') :
    Moved (w, p) (reservedDelta consume q) db db' := by
  simp only [mutateLegacyReservedStock, commits_steps] at h
  obtain ⟨a, t, hprep, res, _, halloc, hdone, _, rfl⟩ := h
  obtain ⟨hprep, -⟩ := prepareLocationInventory_commits hdb hprep
  have hI := halloc.allocate (I := fun n st =>
      Moved (w, p) (reservedDelta consume (q - n)) t st ∧ 0 ≤ n)
    (fun row hrow n st taken st' hn hI hstep => ?_) ⟨?_, hq⟩
  · obtain ⟨hm, hn⟩ := hI
    have hzero : res.2 = 0 := le_antisymm hdone hn
    rw [hzero, sub_zero] at hm
    exact Moved.after hprep.toKeeps hprep.reservations hm
  · obtain ⟨hm, _⟩ := hI
    obtain ⟨hrm, hrp⟩ := Table.mem_findSorted.mp hrow
    simp only [cond_iff] at hrp
    have hst := hm.stocked _ _ (stocked_of_row hrm (Prod.ext hrp.1.1 hrp.1.2))
    obtain ⟨hm', hn'⟩ := mutateLegacyAt_commits hm.owes hst hrp.1.2 hn hstep
    rw [reservedDelta_add, show q - n + taken = q - (n - taken) by omega] at hm'
    exact ⟨Moved.after hm.toKeeps hm.reservations hm', hn'⟩
  · rw [sub_self, reservedDelta_zero]
    exact ⟨Keeps.refl t, hprep.consistent.owes _, rfl⟩

/-! ### Reservation rows -/

/-- The reservations of a source are on stock of the warehouse `w`. -/
def Db.HeldIn (db : Db) (source : StockSource) (w : ℕ) : Prop :=
  ∀ r ∈ db.reservations, r.sourceType = source.sourceType → r.sourceId = source.sourceId →
    r.warehouseId = w

/-- A reservation row of the product `p` on stock of the warehouse `w`. -/
structure ReservedRow (w p : ℕ) (db : Db) (r : InventoryReservation) : Prop where
  nonneg : 0 ≤ r.quantity
  product : r.productId = p
  stocked : db.Stocked (r.locationId, p) w

variable {r : InventoryReservation}

lemma ReservedRow.keeps (h : ReservedRow w p db r) (hk : Keeps db db') : ReservedRow w p db' r :=
  ⟨h.nonneg, h.product, hk.stocked _ _ h.stocked⟩

lemma reservedRow_of_active (h : Sound db) {source : StockSource} {w p : ℕ}
    (hin : db.HeldIn source w) {r : InventoryReservation}
    (hr : r ∈ db.activeReservations source p) : ReservedRow w p db r := by
  obtain ⟨hrm, hrp⟩ := mem_findMany.mp hr
  simp only [cond_iff] at hrp
  obtain ⟨hq, hst⟩ := h.held r hrm
  rw [hin r hrm hrp.1.1.1 hrp.1.1.2, hrp.1.2] at hst
  exact ⟨hq, hrp.1.2, hst⟩

lemma closeReservation_commits (h : Owes s δ db) {k : String × ℕ × ℕ × ℕ}
    {status : ReservationStatus} {r : InventoryReservation}
    (hc : Commits (Db.inventoryReservation.update k (fun r => { r with status })
      Failure.recordNotFound) db r db') : Keeps db db' ∧ Owes s δ db' := by
  obtain ⟨r₀, hr₀, rfl, rfl⟩ := commits_update.mp hc
  obtain ⟨hrm, _⟩ := find?_eq_some.mp hr₀
  obtain ⟨hq, hst⟩ := h.held r₀ hrm
  exact ⟨⟨rfl, fun _ _ hid => hid, fun _ _ hk => hk⟩, h.writeReservation hq hst (h.ordered r₀ hrm)⟩

lemma releaseReservation_commits
    (h : Owes (w, p) δ db) (hr : ReservedRow w p db r)
    (hc : Commits (releaseReservation r) db u db') :
    Keeps db db' ∧ Owes (w, p) (δ + reservedDelta false r.quantity) db' := by
  simp only [releaseReservation, commits_steps, commits_currentTime] at hc
  obtain ⟨_, t, hup, _, _, hclose, _, rfl⟩ := hc
  have hq := hr.nonneg
  have hm := shift_commits (ε := reservedDelta false r.quantity) h hr.stocked hup
    (fun b hb hg => ?_) (fun _ => rfl) (fun b => ?_) (fun _ => rfl) (fun b => ?_)
  · obtain ⟨hk, howes⟩ := closeReservation_commits hm.owes hclose
    exact ⟨hm.toKeeps.trans hk, howes⟩
  · simp only [cond_iff] at hg
    obtain ⟨_, ha⟩ := h.free b hb
    refine ⟨hg.1.trans (Prod.ext rfl hr.product), ?_, ?_⟩ <;> simp only <;> omega
  · simp only
    omega
  · simp [InventoryLocationBalance.counts, reservedDelta, sub_eq_add_neg]

lemma consumeReservation_commits
    (h : Owes (w, p) δ db) (hr : ReservedRow w p db r)
    (hc : Commits (consumeReservation r) db u db') :
    Keeps db db' ∧ Owes (w, p) (δ + reservedDelta true r.quantity) db' := by
  simp only [consumeReservation, commits_steps, commits_currentTime] at hc
  obtain ⟨_, t, hup, _, t', hdec, _, _, hclose, _, rfl⟩ := hc
  rw [hr.product] at hdec
  have hsub := subtract_commits (ε := reservedDelta true r.quantity) h hr.stocked hup hdec
    (fun b hb hg => ?_) (fun _ => rfl) (fun b => ?_) (fun _ => rfl) (fun b => ?_)
  · obtain ⟨hm, -⟩ := hsub
    obtain ⟨hk, howes⟩ := closeReservation_commits hm.owes hclose
    exact ⟨hm.toKeeps.trans hk, howes⟩
  · simp only [cond_iff] at hg
    obtain ⟨_, ha⟩ := h.free b hb
    refine ⟨hg.1.1.trans (Prod.ext rfl hr.product), ?_, ?_⟩ <;> simp only <;> omega
  · simp only
    omega
  · simp [InventoryLocationBalance.counts, reservedDelta, sub_eq_add_neg]

lemma reservations_forM (consume : Bool) {f : InventoryReservation → StockTx Unit}
    (hf : ∀ r st st' δ, Owes (w, p) δ st → ReservedRow w p st r → Commits (f r) st () st' →
      Keeps st st' ∧ Owes (w, p) (δ + reservedDelta consume r.quantity) st')
    {rows : List InventoryReservation} {u : Unit} (hdb : Consistent db)
    (hrows : ∀ r ∈ rows, ReservedRow w p db r) (h : Commits (rows.forM f) db u db') :
    Keeps db db' ∧
      Owes (w, p) (reservedDelta consume (rows.map InventoryReservation.quantity).sum) db' := by
  have hI := Commits.forM (I := fun rest st =>
      Keeps db st ∧
      Owes (w, p) (reservedDelta consume ((rows.map InventoryReservation.quantity).sum -
        (rest.map InventoryReservation.quantity).sum)) st ∧
      ∀ r ∈ rest, ReservedRow w p db r)
    (fun x xs st st' hI hx => ?_) h ⟨Keeps.refl db, ?_, hrows⟩
  · obtain ⟨hk, howes, -⟩ := hI
    rw [List.map_nil, List.sum_nil, sub_zero] at howes
    exact ⟨hk, howes⟩
  · obtain ⟨hk, howes, hrest⟩ := hI
    obtain ⟨hk', howes'⟩ := hf x st st' _ howes ((hrest x mem_cons_self).keeps hk) hx
    rw [reservedDelta_add, map_cons, sum_cons, sub_add_eq_sub_sub, sub_right_comm, sub_add_cancel] at howes'
    exact ⟨hk.trans hk', howes', fun r hr => hrest r (mem_cons_of_mem x hr)⟩
  · rw [sub_self, reservedDelta_zero]
    exact hdb.owes _

lemma releaseLocationReservations_commits (hdb : Consistent db) (hin : db.HeldIn source w) (hq : 0 ≤ q)
    (h : Commits (releaseLocationReservations source w p q) db as db') :
    Keeps db db' ∧ Owes (w, p) (0, -q, q) db' := by
  simp only [releaseLocationReservations, commits_steps, commits_ite] at h
  obtain ⟨_, h⟩ | ⟨_, htotal, _, _, hloop, _, rfl⟩ := h
  · have hm := mutateLegacyReservedStock_commits hdb hq h
    exact ⟨hm.toKeeps, hm.owes⟩
  · obtain ⟨hk, howes⟩ := reservations_forM false
      (fun r st st' δ h hr hc => releaseReservation_commits h hr hc) hdb
      (fun r hr => reservedRow_of_active hdb.toSound hin hr) hloop
    rw [htotal] at howes
    exact ⟨hk, howes⟩

lemma consumeLocationReservations_commits (hdb : Consistent db) (hin : db.HeldIn source w) (hq : 0 ≤ q)
    (h : Commits (consumeLocationReservations source w p q) db as db') :
    Keeps db db' ∧ Owes (w, p) (-q, -q, 0) db' := by
  simp only [consumeLocationReservations, commits_steps, commits_ite] at h
  obtain ⟨_, t, hprep, h⟩ := h
  obtain ⟨hprep, -⟩ := prepareConditionInventory_commits hdb hprep
  have hin' : t.HeldIn source w := fun r hr => hin r (hprep.reservations ▸ hr)
  rcases h with ⟨_, h⟩ | ⟨_, htotal, _, _, hloop, _, rfl⟩
  · have hm := mutateLegacyReservedStock_commits hprep.consistent hq h
    exact ⟨hprep.toKeeps.trans hm.toKeeps, hm.owes⟩
  · obtain ⟨hk, howes⟩ := reservations_forM true
      (fun r st st' δ h hr hc => consumeReservation_commits h hr hc) hprep.consistent
      (fun r hr => reservedRow_of_active hprep.consistent.toSound hin'
        ((List.mem_insertionSort _).mp hr)) hloop
    rw [htotal] at howes
    exact ⟨hprep.toKeeps.trans hk, howes⟩

lemma adjustLocationStock_commits {d : ℤ} {l : Option ℕ} (hdb : Consistent db)
    (h : Commits (adjustLocationStock w p d loc) db l db') : Moved (w, p) (d, 0, d) db db' := by
  simp only [adjustLocationStock, commits_ite, commits_steps] at h
  obtain ⟨rfl, _, rfl⟩ | ⟨_, a, t, hprep, location, t', hloc, h⟩ := h
  · exact ⟨Keeps.refl db, hdb.owes _, rfl⟩
  · obtain ⟨hprep, hprimary⟩ := prepareLocationInventory_commits hdb hprep
    obtain ⟨rfl, hheld⟩ := chooseLocation_commits hprimary hloc
    rcases h with ⟨_, _, _, hdep, _, rfl⟩ | ⟨hneg, _, _, hsub, _, rfl⟩
    · exact Moved.after hprep.toKeeps hprep.reservations (depositLocationStock_commits hprep.consistent hdep)
    · have howes := hprep.consistent.owes (w, p)
      obtain ⟨hm, -⟩ := subtractAvailable_commits howes
        (subtractAvailable_stocked howes.toSound hheld hsub) hsub
      have hd : (-(d.natAbs : ℤ), (0 : ℤ), -(d.natAbs : ℤ)) = (d, 0, d) := by
        simp only [Prod.mk.injEq, true_and]
        omega
      rw [zero_add, hd] at hm
      exact Moved.after hprep.toKeeps hprep.reservations hm

lemma relocateLocationStock_commits {source destination : ℕ} (hdb : Consistent db)
    (h : Commits (relocateLocationStock w p source destination q) db u db') :
    Moved (w, p) 0 db db' := by
  simp only [relocateLocationStock, commits_steps] at h
  obtain ⟨_, hq, _, t₁, hprep, _, t₂, hcond, _, t₃, hsrc, _, t₄, hdst, _, t₅, hsub, hadd⟩ := h
  obtain ⟨hprep, -⟩ := prepareLocationInventory_commits hdb hprep
  obtain ⟨hcond, -⟩ := prepareConditionInventory_commits hprep.consistent hcond
  obtain ⟨rfl, -, hheld⟩ := assertLocation_commits hsrc
  obtain ⟨rfl, -, hheld'⟩ := assertLocation_commits hdst
  have hp := hprep.trans hcond
  have howes := hp.consistent.owes (w, p)
  have hst := subtractAvailable_stocked howes.toSound hheld hsub
  obtain ⟨hm, hcl⟩ := subtractAvailable_commits howes hst hsub
  have hlocated : t₅.Located (w, p) := by
    obtain ⟨b, hb, hk, rfl⟩ := hm.stocked _ _ hst
    exact ⟨b, hb, Prod.ext rfl (show b.productId = p from congrArg Prod.snd hk)⟩
  obtain ⟨hm', -⟩ := addAvailable_commits hm.owes hcl (hm.holds _ _ hheld')
    (fun hno => absurd hlocated hno) hq hadd
  have hsum : (0 : Counts) + (-q, 0, -q) + (q, 0, q) = 0 := by simp
  rw [hsum] at hm'
  exact Moved.after hp.toKeeps hp.reservations (Moved.after hm.toKeeps hm.reservations hm')

end Mayatoko.Stock
