import Mayatoko.Stock.Consistency
import Mayatoko.Stock.ReservationRows

/-!
# What backs the reservations

At every location the reserved quantity covers the `ACTIVE` reservations there; what it has more than that is
the stock that was reserved at warehouse level, before the product had locations. Every location operation
maintains this, for any source, whatever else is known of the reservation rows: an operation for a source
writes rows of that source and product, and no others.
-/

namespace Mayatoko.Stock

open Core Db TableOf

variable {db db' : Db} {J : Table InventoryReservation.key → Prop} {w p : ℕ} {q : ℤ}

/-! ### The quantities at a place -/

def InventoryReservation.holding (k : ℕ × ℕ) (r : InventoryReservation) : ℤ :=
  if (r.locationId = k.1 && r.productId = k.2 && r.status = .active) = true then r.quantity else 0

def Db.reservedAt (db : Db) (k : ℕ × ℕ) : ℤ := (db.balanceAt k).2.1

lemma tracked_eq_sum (k : ℕ × ℕ) : db.tracked k.1 k.2 = db.reservations.sum (InventoryReservation.holding k) :=
  Table.sum_findMany _ _ _

variable {k : ℕ × ℕ} {r : InventoryReservation}

lemma holding_of_active (hk : (r.locationId, r.productId) = k)
    (h : r.status = .active) : r.holding k = r.quantity := by
  subst hk
  rw [InventoryReservation.holding, if_pos (by simp [h])]

lemma holding_of_ne (hk : (r.locationId, r.productId) ≠ k) : r.holding k = 0 := by
  refine if_neg fun h => hk ?_
  simp only [cond_iff] at h
  exact Prod.ext h.1.1 h.1.2

lemma holding_of_closed (h : r.status ≠ .active) : r.holding k = 0 := by
  refine if_neg fun h' => h ?_
  simp only [cond_iff] at h'
  exact h'.2

lemma balanceAt_put (t : Table InventoryLocationBalance.key) (b : InventoryLocationBalance) (k : ℕ × ℕ) :
    ((t.put b).find? k).elim 0 InventoryLocationBalance.counts =
      if k = b.key then b.counts else (t.find? k).elim 0 InventoryLocationBalance.counts := by
  rw [Table.find?_put]
  split <;> rfl

/-! ### The invariant -/

structure Backed (db : Db) : Prop where
  located : ∀ b ∈ db.locationBalances, db.Holds b.locationId b.warehouseId
  promised : ∀ i ∈ db.inventory, 0 ≤ i.reserved
  held : ∀ r ∈ db.reservations, 0 < r.quantity
  backed : ∀ k : ℕ × ℕ, db.tracked k.1 k.2 ≤ db.reservedAt k

/-- The reservations are backed, and their rows are as `J` says. -/
def Holding (J : Table InventoryReservation.key → Prop) (db : Db) : Prop := Backed db ∧ J db.reservations

/-- What `J` says of the rows does not depend on those of a source and product. -/
def Spares (source : StockSource) (productId : ℕ) (J : Table InventoryReservation.key → Prop) : Prop :=
  ∀ t r, r.isFor source = true → r.productId = productId → J t → J (t.put r)

lemma Backed.quantity_le (h : Backed db) {r : InventoryReservation} (hr : r ∈ db.reservations)
    (hactive : r.status = .active) : r.quantity ≤ db.reservedAt (r.locationId, r.productId) := by
  refine le_trans ?_ (h.backed (r.locationId, r.productId))
  refine List.single_le_sum (fun x hx => ?_) r.quantity ?_
  · obtain ⟨s, hs, rfl⟩ := mem_map.mp hx
    exact (h.held s (mem_findMany.mp hs).1).le
  · refine mem_map.mpr ⟨r, mem_findMany.mpr ⟨hr, ?_⟩, rfl⟩
    simp [hactive]

lemma Backed.warehouse_eq (h : Backed db) {b : InventoryLocationBalance} (hb : b ∈ db.locationBalances)
    {l w : ℕ} (hl : db.Holds l w) (hid : b.locationId = l) : b.warehouseId = w := by
  obtain ⟨x, hx, hxid, hxw⟩ := h.located b hb
  obtain ⟨y, hy, hyid, hyw⟩ := hl
  rw [← hxw, ← hyw, eq_of_key_eq hx hy (hxid.trans (hid.trans hyid.symm))]

/-! ### Writes -/

lemma Backed.writeLocations (h : Backed db) {t : Table WarehouseLocation.id} {n : ℕ}
    (hholds : ∀ id w, db.Holds id w → ({ db with locations := t, nextId := n } : Db).Holds id w) :
    Backed { db with locations := t, nextId := n } :=
  ⟨fun b hb => hholds _ _ (h.located b hb), h.promised, h.held, h.backed⟩

lemma Backed.writeInventory (h : Backed db) {i : Inventory} (hi : 0 ≤ i.reserved) :
    Backed { db with inventory := db.inventory.put i } := by
  refine ⟨h.located, fun x hx => ?_, h.held, h.backed⟩
  rcases mem_put.mp hx with rfl | ⟨hx, _⟩
  · exact hi
  · exact h.promised x hx

lemma Backed.writeBalance (h : Backed db) {b : InventoryLocationBalance}
    (hl : db.Holds b.locationId b.warehouseId) (hb : db.tracked b.key.1 b.key.2 ≤ b.reserved) :
    Backed { db with locationBalances := db.locationBalances.put b } := by
  refine ⟨fun x hx => ?_, h.promised, h.held, fun k => ?_⟩
  · rcases mem_put.mp hx with rfl | ⟨hx, _⟩
    · exact hl
    · exact h.located x hx
  · rw [reservedAt, balanceAt, balanceAt_put]
    split
    next hk => exact hk ▸ hb
    next => exact h.backed k

lemma Backed.rewriteBalance (h : Backed db) {o b : InventoryLocationBalance} (ho : o ∈ db.locationBalances)
    (hkey : b.key = o.key) (hw : b.warehouseId = o.warehouseId) (hr : o.reserved ≤ b.reserved) :
    Backed { db with locationBalances := db.locationBalances.put b } := by
  refine h.writeBalance ?_ ?_
  · rw [hw, show b.locationId = o.locationId from congrArg Prod.fst hkey]
    exact h.located o ho
  · rw [hkey]
    refine (h.backed o.key).trans ?_
    rwa [reservedAt, balanceAt, find?_of_mem ho]

lemma Backed.reserve (h : Backed db) {o b : InventoryLocationBalance} {r : InventoryReservation}
    (ho : o ∈ db.locationBalances) (hkey : b.key = o.key) (hw : b.warehouseId = o.warehouseId)
    (hr : b.reserved = o.reserved + r.quantity) (hplace : (r.locationId, r.productId) = b.key)
    (hnew : db.reservations.find? r.key = none) (hq : 0 < r.quantity) :
    Backed { db with
      locationBalances := db.locationBalances.put b, reservations := db.reservations.put r } := by
  have hb := h.rewriteBalance ho hkey hw (by omega)
  refine ⟨hb.located, hb.promised, fun x hx => ?_, fun k => ?_⟩
  · rcases mem_put.mp hx with rfl | ⟨hx, _⟩
    · exact hq
    · exact h.held x hx
  · rw [tracked_eq_sum, Table.sum_put, hnew, Option.map_none, Option.getD_none, sub_zero, reservedAt,
      balanceAt, balanceAt_put]
    have hbefore := h.backed k
    rw [tracked_eq_sum] at hbefore
    split
    next hk =>
      subst hk
      rw [reservedAt, balanceAt, hkey, find?_of_mem ho] at hbefore
      rw [hkey] at hplace ⊢
      by_cases hactive : r.status = .active
      · rw [holding_of_active hplace hactive]
        change _ ≤ b.reserved
        change _ ≤ o.reserved at hbefore
        omega
      · rw [holding_of_closed hactive]
        change _ ≤ b.reserved
        change _ ≤ o.reserved at hbefore
        omega
    next hk =>
      rw [holding_of_ne fun heq => hk (heq.symm.trans hplace), add_zero]
      exact hbefore

/-- A row is closed, and its quantity is taken from what the balance has reserved. -/
lemma Backed.close (h : Backed db) {o b : InventoryLocationBalance} {r : InventoryReservation}
    {status : ReservationStatus} (ho : o ∈ db.locationBalances) (hkey : b.key = o.key)
    (hw : b.warehouseId = o.warehouseId) (hr : b.reserved = o.reserved - r.quantity)
    (hplace : (r.locationId, r.productId) = b.key) (hmem : r ∈ db.reservations)
    (hactive : r.status = .active) (hstatus : status ≠ .active) :
    Backed { db with
      locationBalances := db.locationBalances.put b
      reservations := db.reservations.put { r with status } } := by
  refine ⟨fun x hx => ?_, h.promised, fun x hx => ?_, fun k => ?_⟩
  · rcases mem_put.mp hx with rfl | ⟨hx, _⟩
    · rw [hw, show x.locationId = o.locationId from congrArg Prod.fst hkey]
      exact h.located o ho
    · exact h.located x hx
  · rcases mem_put.mp hx with rfl | ⟨hx, _⟩
    · exact h.held r hmem
    · exact h.held x hx
  · have hfind : db.reservations.find? ({ r with status } : InventoryReservation).key = some r :=
      find?_of_mem hmem
    have hclosed : ({ r with status } : InventoryReservation).holding k = 0 := holding_of_closed hstatus
    rw [tracked_eq_sum, Table.sum_put, hfind, hclosed, Option.map_some, Option.getD_some, reservedAt,
      balanceAt, balanceAt_put]
    have hbefore := h.backed k
    rw [tracked_eq_sum] at hbefore
    split
    next hk =>
      subst hk
      rw [reservedAt, balanceAt, hkey, find?_of_mem ho] at hbefore
      rw [hkey] at hplace ⊢
      rw [holding_of_active hplace hactive]
      change _ ≤ b.reserved
      change _ ≤ o.reserved at hbefore
      omega
    next hk =>
      rw [holding_of_ne fun heq => hk (heq.symm.trans hplace), sub_zero, add_zero]
      exact hbefore

/-! ### Statements that do not touch the reserved quantities -/

lemma Holding.of_ledgerTables (h : ledgerTables db' = ledgerTables db) (hdb : Holding J db) :
    Holding J db' := by
  cases db
  cases db'
  simp only [ledgerTables, Prod.mk.injEq] at h
  obtain ⟨rfl, rfl, rfl, rfl, rfl, rfl⟩ := h
  obtain ⟨hb, hJ⟩ := hdb
  exact ⟨⟨hb.located, hb.promised, hb.held, hb.backed⟩, hJ⟩

lemma unmoved {α : Type} {x : StockTx α} (h : Leaves ledgerTables x) : Maintains (Holding J) x :=
  h.maintains fun _ _ => Holding.of_ledgerTables

lemma aside {α : Type} {x : StockTx α}
    (h : Leaves (fun db : Db => (db.locations, db.inventory, db.locationBalances, db.reservations)) x) :
    Maintains (Holding J) x := by
  refine h.maintains fun st st' hsame hst => ?_
  cases st
  cases st'
  simp only [Prod.mk.injEq] at hsame
  obtain ⟨rfl, rfl, rfl, rfl⟩ := hsame
  obtain ⟨hb, hJ⟩ := hst
  exact ⟨⟨hb.located, hb.promised, hb.held, hb.backed⟩, hJ⟩

lemma apart_condition : Db.inventoryConditionBalance.Apart
    fun db : Db => (db.locations, db.inventory, db.locationBalances, db.reservations) := ⟨fun _ _ => rfl⟩

lemma apart_order : Db.order.Apart
    fun db : Db => (db.locations, db.inventory, db.locationBalances, db.reservations) := ⟨fun _ _ => rfl⟩

variable {f : Inventory → Inventory} {e : Failure}

lemma maintains_updateInventory {guard : Inventory → Bool} {hf}
    (hguard : ∀ i, guard i = true → 0 ≤ i.reserved → 0 ≤ (f i).reserved) :
    Maintains (Holding J) (Db.inventoryRow.updateOne guard f e hf) := by
  intro db u db' hdb hc
  obtain ⟨i, hi, hg, rfl⟩ := updateOne_commits hc
  exact ⟨hdb.1.writeInventory (hguard i hg (hdb.1.promised i hi)), hdb.2⟩

lemma maintains_upsertInventory {i : Inventory} (hi : 0 ≤ i.reserved) (hf : ∀ i, (f i).reserved = i.reserved) :
    Maintains (Holding J) (Db.inventoryRow.upsert i f : StockTx Inventory) := by
  intro db r db' hdb hc
  obtain ⟨hr, rfl⟩ := commits_upsert.mp hc
  refine ⟨hdb.1.writeInventory ?_, hdb.2⟩
  change r = (db.inventory.find? i.key).elim _ _ at hr
  cases hfind : db.inventory.find? i.key with
  | none =>
    rw [hfind, Option.elim_none] at hr
    exact hr ▸ hi
  | some o =>
    rw [hfind, Option.elim_some] at hr
    rw [hr, hf]
    exact hdb.1.promised o (find?_eq_some.mp hfind).1

lemma maintains_takeFromInventory : Maintains (Holding J) (takeFromInventory w p q) := by
  intro db i db' hdb hc
  obtain ⟨o, ho, rfl, rfl⟩ := commits_update.mp hc
  exact ⟨hdb.1.writeInventory (hdb.1.promised o (find?_eq_some.mp ho).1), hdb.2⟩

lemma maintains_updateBalance {guard : InventoryLocationBalance → Bool}
    {f : InventoryLocationBalance → InventoryLocationBalance} {hf}
    (hw : ∀ b, (f b).warehouseId = b.warehouseId) (hr : ∀ b, b.reserved ≤ (f b).reserved) :
    Maintains (Holding J) (Db.inventoryLocationBalance.updateOne guard f e hf) := by
  intro db u db' hdb hc
  obtain ⟨b, hb, _, rfl⟩ := updateOne_commits hc
  exact ⟨hdb.1.rewriteBalance hb (hf b) (hw b) (hr b), hdb.2⟩

/-! ### The operations on locations -/

lemma Relocated.holding {l : WarehouseLocation} (h : Relocated w db l db') (hdb : Holding J db) :
    Holding J db' := by
  obtain ⟨t, n, rfl⟩ := h.frame
  exact ⟨hdb.1.writeLocations h.holds, hdb.2⟩

lemma Backed.find?_of_not_located (h : Backed db) {l : ℕ} (hl : db.Holds l w)
    (hno : ¬ db.Located (w, p)) : db.locationBalances.find? (l, p) = none := by
  rw [find?_eq_none]
  intro b hb hk
  obtain ⟨hid, rfl⟩ := Prod.mk.inj hk
  exact hno ⟨b, hb, Prod.ext (h.warehouse_eq hb hl hid) rfl⟩

lemma prepareLocationInventory_holding {a : Option Inventory × WarehouseLocation} (hdb : Holding J db)
    (h : Commits (prepareLocationInventory w p) db a db') : Holding J db' ∧ db'.Holds a.2.id w := by
  simp only [prepareLocationInventory, commits_bind, commits_get, commits_ite] at h
  obtain ⟨_, _, ⟨rfl, rfl⟩, h⟩ := h
  rcases h with ⟨hnil, l, t, hl, h⟩ | ⟨hnil, _, _, hreq, l, t, hl, h⟩
  · rw [balancesOf_eq_nil] at hnil
    have hrel := defaultLocation_commits hl
    have ht := hrel.holding hdb
    obtain ⟨locs, n, rfl⟩ := hrel.frame
    cases hagg : db.inventory.find? (w, p) with
    | none =>
      rw [hagg] at h
      obtain ⟨rfl, rfl⟩ := commits_pure.mp h
      exact ⟨ht, hrel.chosen⟩
    | some i =>
      rw [hagg] at h
      simp only [commits_bind, commits_upsert, commits_pure] at h
      obtain ⟨b, _, ⟨hb, rfl⟩, rfl, rfl⟩ := h
      have hfree := ht.1.find?_of_not_located hrel.chosen hnil
      change b = (db.locationBalances.find? (l.id, p)).elim _ _ at hb
      rw [show db.locationBalances.find? (l.id, p) = none from hfree, Option.elim_none] at hb
      subst hb
      refine ⟨⟨ht.1.writeBalance hrel.chosen ?_, ht.2⟩, hrel.chosen⟩
      -- where there is no balance nothing is tracked
      have hnone := ht.1.backed (l.id, p)
      rw [reservedAt, balanceAt, hfree] at hnone
      exact hnone.trans (hdb.1.promised i (find?_eq_some.mp hagg).1)
  · obtain ⟨_, rfl⟩ := commits_require.mp hreq
    obtain ⟨rfl, rfl⟩ := commits_pure.mp h
    have hrel := defaultLocation_commits hl
    exact ⟨hrel.holding hdb, hrel.chosen⟩

lemma maintains_prepareLocationInventory : Maintains (Holding J) (prepareLocationInventory w p) :=
  fun _ _ _ hdb h => (prepareLocationInventory_holding hdb h).1

variable {u : Unit}

lemma prepareConditionInventory_frame (h : Commits (prepareConditionInventory w p) db u db') :
    ∃ a t, Commits (prepareLocationInventory w p) db a t ∧
      db' = { t with conditionBalances := db'.conditionBalances } := by
  obtain ⟨a, t, hprep, hrest⟩ := commits_bind.mp h
  refine ⟨a, t, hprep, ?_⟩
  have hcondition : Db.inventoryConditionBalance.Apart
      fun db : Db => ({ db with conditionBalances := .empty } : Db) := ⟨fun _ _ => rfl⟩
  have hsame : ({ db' with conditionBalances := .empty } : Db) = { t with conditionBalances := .empty } := by
    refine (leaves_get.bind fun _ => Leaves.ite ?_ ?_ :
      Leaves (fun db : Db => ({ db with conditionBalances := .empty } : Db)) _) _ _ _ hrest
    · exact Leaves.forM fun _ => leaves_pure.ite hcondition.create
    · refine (Leaves.forM fun _ => ?_).bind fun _ => leaves_require
      exact leaves_require.bind fun _ => leaves_require
  exact congrArg (fun st : Db => { st with conditionBalances := db'.conditionBalances }) hsame

lemma maintains_prepareConditionInventory : Maintains (Holding J) (prepareConditionInventory w p) := by
  intro db u db' hdb h
  obtain ⟨a, t, hprep, hframe⟩ := prepareConditionInventory_frame h
  obtain ⟨hback, hJ⟩ := (prepareLocationInventory_holding hdb hprep).1
  rw [hframe]
  exact ⟨⟨hback.located, hback.promised, hback.held, hback.backed⟩, hJ⟩

variable {l : ℕ}

lemma holds_prepareLocationInventory {w' : ℕ} :
    Maintains (fun db : Db => db.Holds l w') (prepareLocationInventory w p) := by
  have hquiet {α : Type} {x : StockTx α} (hx : Leaves Db.locations x) :
      Maintains (fun db : Db => db.Holds l w') x := hx.maintains fun st st' hsame hst => by rwa [Holds, hsame]
  have hdefault : Maintains (fun db : Db => db.Holds l w') (defaultLocation w) :=
    fun db _ db' hdb h => (defaultLocation_commits h).holds l w' hdb
  have hbalance : Db.inventoryLocationBalance.Apart Db.locations := ⟨fun _ _ => rfl⟩
  refine (hquiet leaves_get).bind fun _ => Maintains.ite (hdefault.bind fun _ => hquiet ?_) ?_
  · split
    · exact leaves_pure
    · exact hbalance.upsert.bind fun _ => leaves_pure
  · exact (hquiet leaves_require).bind fun _ => hdefault.bind fun _ => hquiet leaves_pure

lemma holds_prepareConditionInventory {w' : ℕ} :
    Maintains (fun db : Db => db.Holds l w') (prepareConditionInventory w p) := by
  intro db u db' hdb h
  obtain ⟨a, t, hprep, hframe⟩ := prepareConditionInventory_frame h
  have ht : t.Holds l w' := holds_prepareLocationInventory _ _ _ hdb hprep
  rw [hframe]
  exact ht

lemma maintains_orderedAvailableBalances : Maintains (Holding J) (orderedAvailableBalances w p) :=
  maintains_prepareLocationInventory.bind fun _ => maintains_prepareConditionInventory.bind fun _ =>
    aside (leaves_get.bind fun _ => leaves_pure)

lemma maintains_subtractAvailable : Maintains (Holding J) (subtractAvailable l p q e) := by
  refine (aside OffBalances.currentTime).bind fun _ => Maintains.bind ?_ fun _ => ?_
  · exact maintains_updateBalance (fun _ => rfl) fun _ => le_refl _
  · exact aside apart_condition.updateOne

lemma addAvailable_holding (hdb : Holding J db) (hl : db.Holds l w)
    (h : Commits (addAvailable w l p q) db u db') : Holding J db' := by
  simp only [addAvailable, incrementAvailableCondition, commits_bind, commits_currentTime,
    commits_upsert, commits_pure] at h
  obtain ⟨_, _, ⟨rfl, rfl⟩, b, _, ⟨hb, rfl⟩, c, _, ⟨_, rfl⟩, _, rfl⟩ := h
  change b = (db.locationBalances.find? (l, p)).elim _ _ at hb
  suffices hback : Backed { db with locationBalances := db.locationBalances.put b } from
    ⟨⟨hback.located, hback.promised, hback.held, hback.backed⟩, hdb.2⟩
  cases hfind : db.locationBalances.find? (l, p) with
  | none =>
    rw [hfind, Option.elim_none] at hb
    subst hb
    refine hdb.1.writeBalance hl ?_
    have hnone := hdb.1.backed (l, p)
    rwa [reservedAt, balanceAt, hfind] at hnone
  | some o =>
    rw [hfind, Option.elim_some] at hb
    subst hb
    exact hdb.1.rewriteBalance (find?_eq_some.mp hfind).1 rfl rfl (le_refl _)

lemma maintains_depositLocationStock {loc : Option ℕ} :
    Maintains (Holding J) (depositLocationStock w p q loc) := by
  intro db l db' hdb h
  simp only [depositLocationStock, commits_steps] at h
  obtain ⟨_, a, t, hprep, _, t', hcond, location, t'', hloc, _, _, hadd, rfl, rfl⟩ := h
  obtain ⟨ht, hprimary⟩ := prepareLocationInventory_holding hdb hprep
  have ht' := maintains_prepareConditionInventory _ _ _ ht hcond
  have hprimary' : t'.Holds a.2.id w := holds_prepareConditionInventory _ _ _ hprimary hcond
  obtain ⟨rfl, hheld⟩ := chooseLocation_commits hprimary' hloc
  exact addAvailable_holding ht' hheld hadd

lemma maintains_consumeAvailableLocationStock :
    Maintains (Holding J) (consumeAvailableLocationStock w p q) := by
  refine (aside leaves_require).bind fun _ => maintains_orderedAvailableBalances.bind fun _ => ?_
  refine (Maintains.allocate fun _ _ => ?_).bind fun _ => aside (leaves_require.bind fun _ => leaves_pure)
  exact maintains_subtractAvailable.bind fun _ => aside leaves_pure

lemma maintains_relocateLocationStock {l' : ℕ} : Maintains (Holding J) (relocateLocationStock w p l l' q) := by
  intro db u db' hdb h
  simp only [relocateLocationStock, commits_steps] at h
  obtain ⟨_, _, _, t, hprep, _, t', hcond, _, _, hfrom, _, _, hto, _, s, hsub, hadd⟩ := h
  have ht := maintains_prepareConditionInventory _ _ _ (prepareLocationInventory_holding hdb hprep).1 hcond
  obtain ⟨rfl, _, _⟩ := assertLocation_commits hfrom
  obtain ⟨rfl, _, hheld⟩ := assertLocation_commits hto
  have hlocations : Leaves Db.locations (subtractAvailable l p q
      (.badRequest "Stok bebas lokasi asal tidak mencukupi untuk relokasi.")) :=
    OffBalances.currentTime.bind fun _ => TableOf.Apart.updateOne ⟨fun _ _ => rfl⟩ |>.bind fun _ =>
      TableOf.Apart.updateOne ⟨fun _ _ => rfl⟩
  refine addAvailable_holding (maintains_subtractAvailable _ _ _ ht hsub) ?_ hadd
  rwa [Holds, hlocations _ _ _ hsub]

lemma maintains_adjustLocationStock {d : ℤ} {loc : Option ℕ} :
    Maintains (Holding J) (adjustLocationStock w p d loc) := by
  refine (aside leaves_pure).ite (maintains_prepareLocationInventory.bind fun _ => ?_)
  refine (aside OffBalances.chooseLocation).bind fun _ => ?_
  exact (maintains_depositLocationStock.bind fun _ => aside leaves_pure).ite
    (maintains_subtractAvailable.bind fun _ => aside leaves_pure)

/-! ### Reservations -/

variable {source : StockSource}

lemma orderedAvailableBalances_rows {rows : List InventoryLocationBalance}
    (h : Commits (orderedAvailableBalances w p) db rows db') :
    ∀ row ∈ rows, row.productId = p ∧ 0 < row.available := by
  simp only [orderedAvailableBalances, commits_steps] at h
  obtain ⟨_, _, _, _, _, _, rfl, rfl⟩ := h
  intro row hrow
  have hsorted := (mem_append.mp hrow).elim List.mem_of_mem_filter List.mem_of_mem_filter
  have hp := (Table.mem_findSorted.mp hsorted).2
  simp only [cond_iff] at hp
  exact ⟨hp.1.2, hp.2⟩

variable {row : InventoryLocationBalance}

lemma reserveAt_writes {n taken : ℤ} (h : Commits (reserveAt w p source row n) db taken db') :
    taken = min row.available n ∧ ∃ o ∈ db.locationBalances, o.key = row.key ∧ ∃ b r,
      db' = { db with
        locationBalances := db.locationBalances.put b, reservations := db.reservations.put r } ∧
      b.key = o.key ∧ b.warehouseId = o.warehouseId ∧ b.counts = o.counts + (0, taken, -taken) ∧
      r.isFor source = true ∧ r.status = .active ∧ (r.locationId, r.productId) = (row.locationId, p) ∧
      r.quantity = taken ∧ db.reservations.find? r.key = none := by
  simp only [reserveAt, commits_bind, commits_currentTime, commits_create, commits_pure] at h
  obtain ⟨_, _, ⟨rfl, rfl⟩, _, t, hup, _, _, ⟨hnew, rfl⟩, rfl, rfl⟩ := h
  obtain ⟨o, ho, hg, rfl⟩ := updateOne_commits hup
  simp only [cond_iff] at hg
  refine ⟨rfl, o, ho, hg.1, _, _, rfl, rfl, rfl, ?_, ?_, rfl, rfl, rfl, hnew⟩
  · simp [InventoryLocationBalance.counts, sub_eq_add_neg]
  · simp [InventoryReservation.isFor]

lemma maintains_reserveLocationStock (hJ : Spares source p J) :
    Maintains (Holding J) (reserveLocationStock w p q source) := by
  refine (aside leaves_require).bind fun _ => (aside leaves_get).bind fun _ => Maintains.ite ?_ ?_
  swap
  · exact aside (leaves_require.bind fun _ => leaves_pure)
  intro db as db' hdb h
  obtain ⟨rows, t, hrows, h⟩ := commits_bind.mp h
  obtain ⟨res, t', halloc, hend⟩ := commits_bind.mp h
  have hfree := orderedAvailableBalances_rows hrows
  have ht' : Holding J t' := by
    refine halloc.allocate (I := fun _ st => Holding J st) (fun row hrow n st taken st' hn hI hstep => ?_)
      (maintains_orderedAvailableBalances _ _ _ hdb hrows)
    obtain ⟨rfl, o, ho, hkey, b, r, rfl, hb, hw, hcounts, hfor, _, hplace, hquantity, hnew⟩ :=
      reserveAt_writes hstep
    obtain ⟨hp, havailable⟩ := hfree row hrow
    have hpr : (r.locationId, r.productId) = b.key := by
      rw [hplace, hb, hkey, InventoryLocationBalance.key, hp]
    refine ⟨hI.1.reserve ho hb hw ?_ hpr hnew (by omega), hJ _ _ hfor (Prod.mk.inj hplace).2 hI.2⟩
    rw [hquantity]
    exact congrArg (·.2.1) hcounts
  exact aside (leaves_require.bind fun _ => leaves_pure) _ _ _ ht' hend

variable {consume : Bool}

lemma mutateLegacyAt_writes {n taken : ℤ}
    (hp : row.productId = p) (h : Commits (mutateLegacyAt p consume row n) db taken db') :
    taken = 0 ∧ db' = db ∨ ∃ o ∈ db.locationBalances, o.key = (row.locationId, p) ∧ ∃ b t,
      db' = { db with locationBalances := db.locationBalances.put b, conditionBalances := t } ∧
      b.key = o.key ∧ b.warehouseId = o.warehouseId ∧ b.counts = o.counts + reservedDelta consume taken ∧
      taken + db.tracked row.locationId p ≤ o.reserved ∧ taken ≤ n ∧ (0 < n → 0 < taken) := by
  simp only [mutateLegacyAt, commits_steps, commits_ite] at h
  obtain ⟨_, rfl, rfl⟩ | ⟨hlegacy, _, t, hup, _, t', hcond, rfl, rfl⟩ := h
  · exact .inl ⟨rfl, rfl⟩
  · right
    obtain ⟨o, ho, hg, rfl⟩ := updateOne_commits hup
    simp only [cond_iff] at hg
    obtain ⟨c, hframe⟩ : ∃ c, t' = { db with
        locationBalances := (Db.inventoryLocationBalance.write db _).locationBalances
        conditionBalances := c } := by
      rcases hcond with ⟨_, hdec⟩ | ⟨_, _, rfl⟩
      · obtain ⟨c, _, _, rfl⟩ := updateOne_commits hdec
        exact ⟨_, rfl⟩
      · exact ⟨_, rfl⟩
    refine ⟨o, ho, ?_, _, c, hframe, ?_, ?_, ?_, hg.1.2, min_le_right _ _, fun hn => by omega⟩
    · rw [hg.1.1, InventoryLocationBalance.key, hp]
    · cases consume <;> rfl
    · cases consume <;> rfl
    · cases consume <;> simp [InventoryLocationBalance.counts, reservedDelta, sub_eq_add_neg]

/-- From `db` to `db'` stock of a product that was reserved without rows is released, or consumed: at no place
more than what is reserved there above the tracked quantity. -/
structure UsesLegacy (consume : Bool) (productId : ℕ) (used : ℕ → ℤ) (db db' : Db) : Prop where
  nonneg : ∀ l, 0 ≤ used l
  untracked : ∀ l, used l + db.tracked l productId ≤ db.reservedAt (l, productId)
  balances : ∀ l p, db'.balanceAt (l, p) =
    db.balanceAt (l, p) + if p = productId then reservedDelta consume (used l) else 0
  reservations : db'.reservations = db.reservations

lemma reservedDelta_reserved (consume : Bool) (t : ℤ) : (reservedDelta consume t).2.1 = -t := by
  cases consume <;> rfl

lemma balanceAt_writeBalance {o b : InventoryLocationBalance} (ho : o ∈ db.locationBalances)
    (hkey : b.key = o.key) {δ : Counts} (hδ : b.counts = o.counts + δ) (k : ℕ × ℕ) :
    ({ db with locationBalances := db.locationBalances.put b } : Db).balanceAt k =
      db.balanceAt k + if k = o.key then δ else 0 := by
  rw [balanceAt, balanceAt_put, hkey]
  split
  next hk => rw [hk, balanceAt, find?_of_mem ho, hδ, Option.elim_some]
  next => rw [balanceAt, add_zero]

lemma mutateLegacyReservedStock_uses {as : List LocationAllocation} (hdb : Holding J db)
    (h : Commits (mutateLegacyReservedStock w p q consume) db as db') :
    Holding J db' ∧ ∃ a t used, Commits (prepareLocationInventory w p) db a t ∧
      UsesLegacy consume p used t db' := by
  simp only [mutateLegacyReservedStock, commits_steps] at h
  obtain ⟨a, t, hprep, res, t', halloc, _, _, rfl⟩ := h
  have ht := (prepareLocationInventory_holding hdb hprep).1
  have hI := halloc.allocate (I := fun _ st => Holding J st ∧ st.reservations = t.reservations ∧
      ∃ used : ℕ → ℤ, (∀ l, 0 ≤ used l) ∧ ∀ l p', st.balanceAt (l, p') =
        t.balanceAt (l, p') + if p' = p then reservedDelta consume (used l) else 0)
    (fun row hrow n st taken st' hn hI hstep => ?_)
    ⟨ht, rfl, fun _ => 0, fun _ => le_refl 0, fun l p' => by simp⟩
  · obtain ⟨hdb', hres, used, hnonneg, hbalances⟩ := hI
    refine ⟨hdb', a, t, used, hprep, hnonneg, fun l => ?_, hbalances, hres⟩
    -- what is left still covers the tracked quantity
    have hafter := hdb'.1.backed (l, p)
    have hreserved : t'.reservedAt (l, p) = t.reservedAt (l, p) + -used l := by
      rw [reservedAt, hbalances, if_pos rfl, Prod.snd_add, Prod.fst_add, reservedDelta_reserved, reservedAt]
    have htracked : t'.tracked l p = t.tracked l p := by
      rw [tracked, hres, tracked]
    rw [hreserved, htracked] at hafter
    omega
  · obtain ⟨hst, hres, used, hnonneg, hbalances⟩ := hI
    have hrp := (Table.mem_findSorted.mp hrow).2
    simp only [cond_iff] at hrp
    rcases mutateLegacyAt_writes hrp.1.2 hstep with
      ⟨rfl, rfl⟩ | ⟨o, ho, hkey, b, c, rfl, hb, hw, hcounts, htaken, _, hpos⟩
    · exact ⟨hst, hres, used, hnonneg, hbalances⟩
    have htracked := hst.1.backed o.key
    have hreserved : b.reserved = o.reserved + -taken :=
      (congrArg (·.2.1) hcounts).trans (congrArg (o.reserved + ·) (reservedDelta_reserved consume taken))
    have hback : Backed { st with locationBalances := st.locationBalances.put b } := by
      refine hst.1.writeBalance ?_ ?_
      · rw [hw, show b.locationId = o.locationId from congrArg Prod.fst hb]
        exact hst.1.located o ho
      · rw [hb, hkey, hreserved]
        change st.tracked row.locationId p ≤ _
        omega
    refine ⟨⟨⟨hback.located, hback.promised, hback.held, hback.backed⟩, hst.2⟩, hres,
      Function.update used row.locationId (used row.locationId + taken), fun l => ?_, fun l p' => ?_⟩
    · by_cases hl : l = row.locationId
      · subst hl
        rw [Function.update_self]
        have hold := hnonneg row.locationId
        have hnew := hpos hn
        omega
      · rw [Function.update_of_ne hl]
        exact hnonneg l
    · refine (balanceAt_writeBalance ho hb hcounts (l, p')).trans ?_
      rw [hbalances, hkey]
      by_cases hp : p' = p
      · subst hp
        by_cases hl : l = row.locationId
        · subst hl
          rw [if_pos rfl, if_pos rfl, if_pos rfl, Function.update_self, ← reservedDelta_add, add_assoc]
        · rw [if_pos rfl, if_neg fun h => hl (Prod.mk.inj h).1, if_pos rfl, Function.update_of_ne hl, add_zero]
      · rw [if_neg hp, if_neg fun h => hp (Prod.mk.inj h).2, if_neg hp, add_zero]

lemma maintains_mutateLegacyReservedStock : Maintains (Holding J) (mutateLegacyReservedStock w p q consume) :=
  fun _ _ _ hdb h => (mutateLegacyReservedStock_uses hdb h).1

/-! ### Closing rows -/

def Closes (r : InventoryReservation) (status : ReservationStatus) (δ : Counts) (db db' : Db) : Prop :=
  ∃ o ∈ db.locationBalances, o.key = (r.locationId, r.productId) ∧ ∃ b t, db' = { db with
    locationBalances := db.locationBalances.put b, conditionBalances := t,
    reservations := db.reservations.put { r with status } } ∧
    b.key = o.key ∧ b.warehouseId = o.warehouseId ∧ b.counts = o.counts + δ

variable {status : ReservationStatus}

lemma Closes.holding {δ : Counts}
    (h : Closes r status δ db db') (hdb : Holding J db) (hJ : Spares source p J) (hmem : r ∈ db.reservations)
    (hactive : r.status = .active) (hstatus : status ≠ .active) (hfor : r.isFor source = true)
    (hp : r.productId = p) (hδ : δ.2.1 = -r.quantity) : Holding J db' := by
  obtain ⟨o, ho, hkey, b, t, rfl, hb, hw, hcounts⟩ := h
  have hreserved : b.reserved = o.reserved - r.quantity :=
    ((congrArg (·.2.1) hcounts).trans (congrArg (o.reserved + ·) hδ)).trans (sub_eq_add_neg _ _).symm
  have hback := hdb.1.close ho hb hw hreserved (hkey.symm.trans hb.symm) hmem hactive hstatus
  exact ⟨⟨hback.located, hback.promised, hback.held, hback.backed⟩, hJ _ _ hfor hp hdb.2⟩

lemma releaseReservation_closes (hmem : r ∈ db.reservations) (h : Commits (releaseReservation r) db u db') :
    Closes r .released (reservedDelta false r.quantity) db db' := by
  simp only [releaseReservation, commits_steps, commits_currentTime, commits_update] at h
  obtain ⟨_, t, hup, _, _, ⟨x, hx, rfl, rfl⟩, _, rfl⟩ := h
  obtain ⟨o, ho, hg, rfl⟩ := updateOne_commits hup
  simp only [cond_iff] at hg
  obtain rfl := mem_unique (find?_of_mem hmem) hx
  refine ⟨o, ho, hg.1, _, db.conditionBalances, rfl, rfl, rfl, ?_⟩
  simp [InventoryLocationBalance.counts, reservedDelta, sub_eq_add_neg]

lemma consumeReservation_closes (hmem : r ∈ db.reservations) (h : Commits (consumeReservation r) db u db') :
    Closes r .consumed (reservedDelta true r.quantity) db db' := by
  simp only [consumeReservation, commits_steps, commits_currentTime, commits_update] at h
  obtain ⟨_, t, hup, _, t', hcond, _, _, ⟨x, hx, rfl, rfl⟩, _, rfl⟩ := h
  obtain ⟨o, ho, hg, rfl⟩ := updateOne_commits hup
  obtain ⟨c, _, _, rfl⟩ := updateOne_commits hcond
  simp only [cond_iff] at hg
  obtain rfl := mem_unique (find?_of_mem hmem) hx
  refine ⟨o, ho, hg.1.1, _, _, rfl, rfl, rfl, ?_⟩
  simp [InventoryLocationBalance.counts, reservedDelta, sub_eq_add_neg]

lemma closing_holding {f : InventoryReservation → StockTx Unit}
    (hf : ∀ r st st', r ∈ st.reservations → Commits (f r) st () st' →
      Closes r status (reservedDelta consume r.quantity) st st') (hstatus : status ≠ .active)
    (hJ : Spares source p J) {rows : List InventoryReservation} {u : Unit} (hdb : Holding J db)
    (hrows : ∀ r ∈ rows, r ∈ db.reservations ∧ r.isFor source = true ∧ r.productId = p ∧ r.status = .active)
    (hnodup : (rows.map InventoryReservation.key).Nodup) (h : Commits (rows.forM f) db u db') :
    Holding J db' := by
  induction rows generalizing db with
  | nil => rwa [← commits_forM_nil.mp h]
  | cons r rs ih =>
    obtain ⟨st, hr, hrs⟩ := commits_forM_cons.mp h
    obtain ⟨hmem, hfor, hp, hactive⟩ := hrows r mem_cons_self
    obtain ⟨hfresh, hnodup⟩ := nodup_cons.mp hnodup
    have hcloses := hf r db st hmem hr
    have hst := hcloses.holding hdb hJ hmem hactive hstatus hfor hp (reservedDelta_reserved _ _)
    refine ih hst (fun x hx => ?_) hnodup hrs
    obtain ⟨hxm, hrest⟩ := hrows x (mem_cons_of_mem r hx)
    obtain ⟨_, _, _, _, _, rfl, _⟩ := hcloses
    refine ⟨mem_put.mpr (Or.inr ⟨hxm, fun hkey => hfresh ?_⟩), hrest⟩
    exact mem_map.mpr ⟨x, hx, hkey⟩

lemma mem_activeReservations : r ∈ db.activeReservations source p ↔
    r ∈ db.reservations ∧ r.isFor source = true ∧ r.productId = p ∧ r.status = .active := by
  rw [activeReservations_eq, mem_findMany, activeOn]
  simp [and_assoc]

lemma nodup_activeReservations : ((db.activeReservations source p).map InventoryReservation.key).Nodup :=
  Table.nodup_findMany _ _

lemma maintains_releaseLocationReservations (hJ : Spares source p J) :
    Maintains (Holding J) (releaseLocationReservations source w p q) := by
  intro db as db' hdb h
  simp only [releaseLocationReservations, commits_steps, commits_ite] at h
  obtain ⟨_, h⟩ | ⟨_, _, _, _, hloop, _, rfl⟩ := h
  · exact maintains_mutateLegacyReservedStock _ _ _ hdb h
  · exact closing_holding (fun _ _ _ hr => releaseReservation_closes hr) (by decide) hJ hdb
      (fun r hr => mem_activeReservations.mp hr) nodup_activeReservations hloop

lemma maintains_consumeLocationReservations (hJ : Spares source p J) :
    Maintains (Holding J) (consumeLocationReservations source w p q) := by
  intro db as db' hdb h
  simp only [consumeLocationReservations, commits_steps, commits_ite] at h
  obtain ⟨_, t, hprep, ⟨_, h⟩ | ⟨_, _, _, _, hloop, _, rfl⟩⟩ := h
  · exact maintains_mutateLegacyReservedStock _ _ _ (maintains_prepareConditionInventory _ _ _ hdb hprep) h
  · refine closing_holding (fun _ _ _ hr => consumeReservation_closes hr) (by decide) hJ
      (maintains_prepareConditionInventory _ _ _ hdb hprep) (fun r hr => ?_) ?_ hloop
    · exact mem_activeReservations.mp ((List.mem_insertionSort _).mp hr)
    · exact ((List.perm_insertionSort _ _).map _).nodup_iff.mpr nodup_activeReservations

end Mayatoko.Stock
