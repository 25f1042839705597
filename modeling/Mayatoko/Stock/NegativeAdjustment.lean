import Mayatoko.Stock.Consistency

/-!
# Negative adjustments of a location

A positive adjustment prepares the conditions of its stock, a negative one does not: it takes the stock out of a
condition row that it does not create. So it succeeds where the location has the stock free only if some earlier
operation has put the stock in conditions.
-/

namespace Mayatoko.Stock

open Core Db TableOf

/-! ### What is available -/

/-- The aggregate after `d` of what is available is gone. -/
def Inventory.less (i : Inventory) (d : ℤ) : Inventory :=
  { i with quantity := i.quantity - d, available := i.available - d }

namespace Db

/-- The state without reservations and orders. -/
def ledgers (db : Db) : Db := { db with reservations := .empty, orders := .empty }

def LedgersConsistent (db : Db) : Prop := Consistent db.ledgers

/-- The active location that takes over a stock without balances. -/
def defaultBin (db : Db) (warehouseId : ℕ) : Option WarehouseLocation :=
  (db.locations.findFirst
    (fun l => l.warehouseId = warehouseId && l.isActive && l.isDefault) WarehouseLocation.byCode).or
  (db.locations.findFirst (fun l => l.warehouseId = warehouseId && l.isActive) WarehouseLocation.byCode)

def availableAt (db : Db) (warehouseId productId locationId : ℕ) : ℤ :=
  if db.balancesOf warehouseId productId = [] then
    if (db.defaultBin warehouseId).map WarehouseLocation.id = some locationId then
      (db.aggregate (warehouseId, productId)).2.2
    else 0
  else (db.balanceAt (locationId, productId)).2.2

structure Chosen (db : Db) (warehouseId : ℕ) (locationId : Option ℕ) (location : WarehouseLocation) : Prop where
  exists_row : location ∈ db.locations
  warehouse : location.warehouseId = warehouseId
  active : location.isActive = true
  chosen : locationId = some location.id ∨ locationId = none ∧ db.defaultBin warehouseId = some location

/-- A negative adjustment by `d` succeeds where the location has `d` available, and nowhere else, and then the
ledgers agree with an aggregate that is less by `d`. -/
structure AdjustsDown (db : Db) (warehouseId productId : ℕ) (locationId : Option ℕ)
    (location : WarehouseLocation) (d : ℤ) : Prop where
  succeeds_iff : (∃ r db', Commits (adjustLocationStock warehouseId productId (-d) locationId) db r db') ↔
    d ≤ db.availableAt warehouseId productId location.id
  consistent : ∀ r db', Commits (adjustLocationStock warehouseId productId (-d) locationId) db r db' →
    ∃ i, db.inventory.find? (warehouseId, productId) = some i ∧
      LedgersConsistent { db' with inventory := db.inventory.put (i.less d) }

end Db

variable {db db' : Db} {w p : ℕ}

lemma Db.Consistent.ledgersConsistent (h : Consistent db) : db.LedgersConsistent :=
  ⟨⟨h.located, h.placed, h.free, h.classified, h.unclassified, h.unlocated,
    fun r hr => absurd hr (not_mem_empty r), fun r hr => absurd hr (not_mem_empty r)⟩, h.totals⟩

/-! ### The default location -/

def SameLocations (t t' : Table WarehouseLocation.id) : Prop :=
  ∀ l ∈ t, ∃ l' ∈ t', l'.id = l.id ∧ l'.warehouseId = l.warehouseId ∧ l'.isActive = l.isActive

lemma SameLocations.refl (t : Table WarehouseLocation.id) : SameLocations t t :=
  fun l hl => ⟨l, hl, rfl, rfl, rfl⟩

lemma SameLocations.trans {t t' t'' : Table WarehouseLocation.id} (h : SameLocations t t')
    (h' : SameLocations t' t'') : SameLocations t t'' := by
  intro l hl
  obtain ⟨l', hl', hid, hwarehouse, hactive⟩ := h l hl
  obtain ⟨l'', hl'', hid', hwarehouse', hactive'⟩ := h' l' hl'
  exact ⟨l'', hl'', hid'.trans hid, hwarehouse'.trans hwarehouse, hactive'.trans hactive⟩

lemma sameLocations_updateMany (t : Table WarehouseLocation.id) (guard : WarehouseLocation → Bool) (hf) :
    SameLocations t (t.updateMany guard (fun l => { l with isDefault := false }) hf).1 := by
  intro l hl
  refine ⟨_, (Table.mem_updateMany hf).mpr ⟨l, hl, rfl⟩, ?_⟩
  split
  · exact ⟨rfl, rfl, rfl⟩
  · exact ⟨rfl, rfl, rfl⟩

lemma sameLocations_put {t : Table WarehouseLocation.id} {l : WarehouseLocation} (hl : l ∈ t) :
    SameLocations t (t.put { l with isDefault := true }) := by
  intro x hx
  by_cases hid : x.id = l.id
  · obtain rfl := eq_of_key_eq hx hl hid
    exact ⟨_, mem_put_self _ _, rfl, rfl, rfl⟩
  · exact ⟨x, mem_put.mpr (Or.inr ⟨hx, hid⟩), rfl, rfl, rfl⟩

lemma makeDefaultLocation_succeeds {existing : WarehouseLocation} (hex : existing ∈ db.locations) :
    ∃ l t, Commits (makeDefaultLocation w existing) db l { db with locations := t } ∧ l.id = existing.id ∧
      SameLocations db.locations t := by
  have hcleared := sameLocations_updateMany db.locations
    (fun l => l.warehouseId = w && l.id ≠ existing.id && l.isDefault) (fun _ => rfl)
  obtain ⟨x, hx, hid, _, _⟩ := hcleared existing hex
  refine ⟨{ x with isDefault := true }, _, ?_, hid, hcleared.trans (sameLocations_put hx)⟩
  rw [makeDefaultLocation, commits_bind]
  refine ⟨_, _, commits_updateMany.mpr ⟨rfl, rfl⟩, ?_⟩
  rw [commits_update]
  exact ⟨x, find?_eq_some.mpr ⟨hx, hid⟩, rfl, rfl⟩

lemma defaultLocation_succeeds {x : WarehouseLocation} (hx : x ∈ db.locations) (hw : x.warehouseId = w)
    (hactive : x.isActive = true) :
    ∃ l t, Commits (defaultLocation w) db l { db with locations := t } ∧
      (db.defaultBin w).map WarehouseLocation.id = some l.id ∧ SameLocations db.locations t := by
  cases hdefault : db.locations.findFirst
      (fun l => l.warehouseId = w && l.isActive && l.isDefault) WarehouseLocation.byCode with
  | some l =>
    refine ⟨l, db.locations, ?_, ?_, SameLocations.refl _⟩
    · rw [defaultLocation, commits_bind]
      refine ⟨db, db, commits_get.mpr ⟨rfl, rfl⟩, ?_⟩
      rw [hdefault]
      exact commits_pure.mpr ⟨rfl, rfl⟩
    · rw [defaultBin, hdefault, Option.some_or, Option.map_some]
  | none =>
    cases hexisting : db.locations.findFirst
        (fun l => l.warehouseId = w && l.isActive) WarehouseLocation.byCode with
    | none =>
      refine absurd ?_ (Table.findFirst_eq_none.mp hexisting x hx)
      rw [hw, hactive, decide_eq_true rfl, Bool.and_self]
    | some existing =>
      obtain ⟨l, t, hl, hid, hsame⟩ :=
        makeDefaultLocation_succeeds (w := w) (Table.mem_of_findFirst hexisting).1
      refine ⟨l, t, ?_, ?_, hsame⟩
      · rw [defaultLocation, commits_bind]
        refine ⟨db, db, commits_get.mpr ⟨rfl, rfl⟩, ?_⟩
        rw [hdefault, hexisting]
        exact hl
      · rw [defaultBin, hdefault, hexisting, Option.none_or, Option.map_some, hid]

/-! ### Adjusting classified stock -/

variable {locationId : Option ℕ} {location : WarehouseLocation}

lemma chooseLocation_succeeds (hl : db.Chosen w locationId location) {primary : WarehouseLocation}
    (hprimary : (db.defaultBin w).map WarehouseLocation.id = some primary.id) {t : Table WarehouseLocation.id}
    (hsame : SameLocations db.locations t) :
    ∃ l, Commits (chooseLocation w locationId primary) { db with locations := t } l { db with locations := t } ∧
      l.id = location.id := by
  obtain rfl | ⟨rfl, hbin⟩ := hl.chosen
  · obtain ⟨l, hmem, hid, hwarehouse, hactive⟩ := hsame location hl.exists_row
    refine ⟨l, ?_, hid⟩
    rw [chooseLocation, assertLocation, commits_bind]
    refine ⟨_, _, commits_get.mpr ⟨rfl, rfl⟩, ?_⟩
    rw [commits_bind]
    refine ⟨l, _, commits_orThrow.mpr ⟨find?_eq_some.mpr ⟨hmem, hid⟩, rfl⟩, ?_⟩
    rw [commits_bind]
    refine ⟨(), _, commits_require.mpr ⟨⟨hwarehouse.trans hl.warehouse, hactive.trans hl.active⟩, rfl⟩, ?_⟩
    exact commits_pure.mpr ⟨rfl, rfl⟩
  · rw [hbin, Option.map_some, Option.some.injEq] at hprimary
    exact ⟨primary, commits_pure.mpr ⟨rfl, rfl⟩, hprimary.symm⟩

lemma sum_balancesOf : ((db.balancesOf w p).map InventoryLocationBalance.counts).sum = db.totals (w, p) := by
  rw [balancesOf, totals, Table.sumBy, Table.sum, Table.findMany]
  induction db.locationBalances.rows with
  | nil => rfl
  | cons b rows ih =>
    rw [map_cons, sum_cons, ← ih, List.filter_cons, InventoryLocationBalance.stock]
    by_cases hb : b.warehouseId = w ∧ b.productId = p
    · rw [if_pos (Prod.ext hb.1 hb.2), if_pos (by rw [hb.1, hb.2, decide_eq_true rfl, decide_eq_true rfl]; rfl),
        map_cons, sum_cons]
    · rw [if_neg fun heq => hb (Prod.mk.inj heq), if_neg ?_, zero_add]
      rw [Bool.and_eq_true, decide_eq_true_eq, decide_eq_true_eq]
      exact hb

lemma prepareLocationInventory_succeeds (hlocated : db.Located (w, p))
    (htotals : db.totals (w, p) = db.aggregate (w, p)) (hl : db.Chosen w locationId location) :
    ∃ l t, Commits (prepareLocationInventory w p) db (db.inventory.find? (w, p), l) { db with locations := t } ∧
      (db.defaultBin w).map WarehouseLocation.id = some l.id ∧ SameLocations db.locations t := by
  obtain ⟨l, t, hc, hid, hsame⟩ := defaultLocation_succeeds hl.exists_row hl.warehouse hl.active
  refine ⟨l, t, ?_, hid, hsame⟩
  rw [prepareLocationInventory, commits_bind]
  refine ⟨db, db, commits_get.mpr ⟨rfl, rfl⟩, ?_⟩
  rw [if_neg (by rw [balancesOf_eq_nil, not_not]; exact hlocated), commits_bind]
  refine ⟨(), db, commits_require.mpr ⟨?_, rfl⟩, ?_⟩
  · rw [sum_balancesOf, htotals]
    rfl
  · rw [commits_bind]
    exact ⟨l, _, hc, commits_pure.mpr ⟨rfl, rfl⟩⟩

/-- The rows of a place after `q` is taken out of what is available there. -/
def taken (b : InventoryLocationBalance) (now : ℕ) (q : ℤ) : InventoryLocationBalance :=
  { b with quantity := b.quantity - q, available := b.available - q, updatedAt := now }

lemma subtractAvailable_succeeds (db : Db) {l : ℕ} {q : ℤ} {e : Failure} {b : InventoryLocationBalance}
    (hb : b ∈ db.locationBalances) (hbk : b.key = (l, p)) (hquantity : q ≤ b.quantity)
    (havailable : q ≤ b.available)
    {c : InventoryConditionBalance} (hc : c ∈ db.conditionBalances) (hck : c.key = (l, p, .available))
    (hcondition : q ≤ c.quantity) :
    Commits (subtractAvailable l p q e) db ()
      (db.writeStock (taken b db.now q) { c with quantity := c.quantity - q }) := by
  rw [subtractAvailable, commits_bind]
  refine ⟨db.now, db, commits_currentTime.mpr ⟨rfl, rfl⟩, ?_⟩
  rw [commits_bind]
  have hguard : (b.key = (l, p) && q ≤ b.quantity && q ≤ b.available) = true := by
    rw [decide_eq_true hbk, decide_eq_true hquantity, decide_eq_true havailable]
    rfl
  have hguard' : (c.key = (l, p, .available) && q ≤ c.quantity) = true := by
    rw [decide_eq_true hck, decide_eq_true hcondition]
    rfl
  refine ⟨(), _, TableOf.commits_updateOne_write hb hguard fun x _ hx => ?_,
    TableOf.commits_updateOne_write (T := Db.inventoryConditionBalance) hc hguard' fun x _ hx => ?_⟩
  · rw [Bool.and_eq_true, Bool.and_eq_true, decide_eq_true_eq] at hx
    exact hx.1.1.trans hbk.symm
  · rw [Bool.and_eq_true, decide_eq_true_eq] at hx
    exact hx.1.trans hck.symm

lemma adjustLocationStock_succeeds {d : ℤ} (hd : 0 < d) (hlocated : db.Located (w, p))
    (htotals : db.totals (w, p) = db.aggregate (w, p)) (hl : db.Chosen w locationId location)
    {b : InventoryLocationBalance} (hb : b ∈ db.locationBalances) (hbk : b.key = (location.id, p))
    (hquantity : d ≤ b.quantity) (havailable : d ≤ b.available) {c : InventoryConditionBalance}
    (hc : c ∈ db.conditionBalances) (hck : c.key = (location.id, p, .available)) (hcondition : d ≤ c.quantity) :
    ∃ t, SameLocations db.locations t ∧ Commits (adjustLocationStock w p (-d) locationId) db (some location.id)
      (writeStock { db with locations := t } (taken b db.now d) { c with quantity := c.quantity - d }) := by
  obtain ⟨primary, t, hprep, hprimary, hsame⟩ := prepareLocationInventory_succeeds hlocated htotals hl
  obtain ⟨l, hchoose, hid⟩ := chooseLocation_succeeds hl hprimary hsame
  have hsub : Commits (subtractAvailable location.id p d (.badRequest
      "Stok bebas pada lokasi opname tidak mencukupi untuk adjustment negatif.")) { db with locations := t } ()
      (writeStock { db with locations := t } (taken b db.now d) { c with quantity := c.quantity - d }) :=
    subtractAvailable_succeeds { db with locations := t } hb hbk hquantity havailable hc hck hcondition
  refine ⟨t, hsame, ?_⟩
  have habs : ((-d).natAbs : ℤ) = d := by omega
  rw [adjustLocationStock, if_neg (by omega), commits_bind]
  refine ⟨_, _, hprep, ?_⟩
  rw [commits_bind]
  refine ⟨l, _, hchoose, ?_⟩
  rw [if_neg (by omega), commits_bind, habs, hid]
  exact ⟨(), _, hsub, commits_pure.mpr ⟨rfl, rfl⟩⟩

lemma prepareLocationInventory_inv {a : Option Inventory × WarehouseLocation}
    (hl : db.Chosen w locationId location) (h : Commits (prepareLocationInventory w p) db a db') :
    (db.defaultBin w).map WarehouseLocation.id = some a.2.id ∧ db'.conditionBalances = db.conditionBalances ∧
      (db.Located (w, p) → db'.locationBalances = db.locationBalances) := by
  obtain ⟨l', t', hdefault, hid, _⟩ := defaultLocation_succeeds hl.exists_row hl.warehouse hl.active
  simp only [prepareLocationInventory, commits_bind, commits_get, commits_ite] at h
  obtain ⟨_, _, ⟨rfl, rfl⟩, h⟩ := h
  rcases h with ⟨hnil, l, t, hfound, h⟩ | ⟨hnil, _, _, hreq, l, t, hfound, h⟩
  · rw [balancesOf_eq_nil] at hnil
    obtain ⟨rfl, rfl⟩ := Commits.unique hdefault hfound
    cases hagg : db.inventory.find? (w, p) with
    | none =>
      rw [hagg] at h
      obtain ⟨rfl, rfl⟩ := commits_pure.mp h
      exact ⟨hid, rfl, fun hlocated => absurd hlocated hnil⟩
    | some i =>
      rw [hagg] at h
      simp only [commits_bind, commits_upsert, commits_pure] at h
      obtain ⟨_, _, ⟨_, rfl⟩, rfl, rfl⟩ := h
      exact ⟨hid, rfl, fun hlocated => absurd hlocated hnil⟩
  · obtain ⟨_, rfl⟩ := commits_require.mp hreq
    obtain ⟨rfl, rfl⟩ := Commits.unique hdefault hfound
    obtain ⟨rfl, rfl⟩ := commits_pure.mp h
    exact ⟨hid, rfl, fun _ => rfl⟩

lemma chooseLocation_inv (hl : db.Chosen w locationId location) {primary l : WarehouseLocation} {t : Db}
    (hprimary : (db.defaultBin w).map WarehouseLocation.id = some primary.id)
    (h : Commits (chooseLocation w locationId primary) t l db') : db' = t ∧ l.id = location.id := by
  obtain rfl | ⟨rfl, hbin⟩ := hl.chosen
  · obtain ⟨hstate, hid, _⟩ := assertLocation_commits h
    exact ⟨hstate, hid⟩
  · obtain ⟨rfl, rfl⟩ := commits_pure.mp h
    rw [hbin, Option.map_some, Option.some.injEq] at hprimary
    exact ⟨rfl, hprimary.symm⟩

lemma LedgersConsistent.condition_stock (hdb : db.LedgersConsistent) (hl : db.Chosen w locationId location)
    {c : InventoryConditionBalance} (hc : c ∈ db.conditionBalances) (hplace : c.place = (location.id, p)) :
    c.stock = (w, p) ∧ db.Located (w, p) := by
  obtain ⟨b, hb, hbk, hbw⟩ := hdb.placed c hc
  have hbid : b.locationId = location.id := congrArg Prod.fst (hbk.trans hplace)
  have hbp : b.productId = p := congrArg Prod.snd (hbk.trans hplace)
  have hwarehouse : b.warehouseId = w := (hdb.warehouse_eq hb hl.exists_row hbid).trans hl.warehouse
  have hcp : c.productId = p := congrArg Prod.snd hplace
  exact ⟨Prod.ext (hbw.symm.trans hwarehouse) hcp, b, hb, Prod.ext hwarehouse hbp⟩

/-- A negative adjustment takes what is available out of a balance and a condition that exist. -/
lemma adjustLocationStock_needs (hdb : db.LedgersConsistent) (hl : db.Chosen w locationId location) {d : ℤ}
    (hd : 0 < d) {r : Option ℕ} (h : Commits (adjustLocationStock w p (-d) locationId) db r db') :
    db.Classed (w, p) ∧ d ≤ (db.balanceAt (location.id, p)).1 ∧ d ≤ (db.balanceAt (location.id, p)).2.2 := by
  simp only [adjustLocationStock, commits_ite, commits_steps] at h
  obtain ⟨hzero, _⟩ | ⟨_, a, t, hprep, l, t', hchoose, h⟩ := h
  · omega
  · obtain ⟨hprimary, hconditions, hbalances⟩ := prepareLocationInventory_inv hl hprep
    obtain ⟨rfl, hid⟩ := chooseLocation_inv hl hprimary hchoose
    rcases h with ⟨hpos, _⟩ | ⟨_, _, _, hsub, _⟩
    · omega
    · simp only [subtractAvailable, commits_bind, commits_currentTime] at hsub
      obtain ⟨_, _, ⟨rfl, rfl⟩, _, t', hbalance, hcondition⟩ := hsub
      obtain ⟨b, hb, hbguard, rfl⟩ := updateOne_commits hbalance
      obtain ⟨c, hc, hcguard, _⟩ := updateOne_commits hcondition
      simp only [cond_iff] at hbguard hcguard
      have hcmem : c ∈ db.conditionBalances := hconditions ▸ hc
      have hplace : c.place = (location.id, p) := by
        obtain ⟨h₁, h₂⟩ := Prod.mk.inj hcguard.1
        exact Prod.ext (h₁.trans hid) (Prod.mk.inj h₂).1
      obtain ⟨hstock, hlocated⟩ := LedgersConsistent.condition_stock hdb hl hcmem hplace
      have hbmem : b ∈ db.locationBalances := hbalances hlocated ▸ hb
      have hbk : b.key = (location.id, p) := hbguard.1.1.trans (by rw [hid])
      rw [balanceAt_eq hbmem hbk]
      have habs : ((-d).natAbs : ℤ) = d := by omega
      rw [habs] at hbguard
      exact ⟨⟨c, hcmem, hstock⟩, hbguard.1.2, hbguard.2⟩

/-! ### What a negative adjustment leaves -/

lemma SameLocations.holds {t : Table WarehouseLocation.id} (h : SameLocations db.locations t) {id w : ℕ}
    (hid : db.Holds id w) : ({ db with locations := t } : Db).Holds id w := by
  obtain ⟨l, hl, rfl, rfl⟩ := hid
  obtain ⟨l', hl', hid', hwarehouse, _⟩ := h l hl
  exact ⟨l', hl', hid', hwarehouse⟩

lemma exists_aggregate (hdb : db.LedgersConsistent) {b : InventoryLocationBalance}
    (hb : b ∈ db.locationBalances) (hstock : b.stock = (w, p)) (havailable : 0 < b.available) :
    ∃ i, db.inventory.find? (w, p) = some i := by
  cases hi : db.inventory.find? (w, p) with
  | some i => exact ⟨i, rfl⟩
  | none =>
    have htotals : db.totals (w, p) = db.aggregate (w, p) := hdb.totals (w, p) ⟨b, hb, hstock⟩
    rw [aggregate, hi, Option.elim_none, ← sum_balancesOf] at htotals
    have hsum : (((db.balancesOf w p).map InventoryLocationBalance.available)).sum = 0 := by
      have hsnd := congrArg (fun c : Counts => c.2.2) htotals
      have hhom := map_list_sum ((AddMonoidHom.snd ℤ ℤ).comp (AddMonoidHom.snd ℤ (ℤ × ℤ)))
        ((db.balancesOf w p).map InventoryLocationBalance.counts)
      rw [map_map] at hhom
      exact hhom.symm.trans hsnd
    have hle := List.single_le_sum (l := (db.balancesOf w p).map InventoryLocationBalance.available)
      (fun x hx => by
        obtain ⟨y, hy, rfl⟩ := mem_map.mp hx
        exact (hdb.free y (mem_balancesOf.mp hy).1).2)
      b.available (mem_map_of_mem (mem_balancesOf.mpr ⟨hb, hstock⟩))
    omega

/-- With its stock in conditions and the stock free at the location a negative adjustment succeeds, and the
ledgers agree with the reduced aggregate. -/
lemma adjustLocationStock_reduces (hdb : db.LedgersConsistent) (hl : db.Chosen w locationId location) {d : ℤ}
    (hd : 0 < d) (hclassed : db.Classed (w, p)) (hquantity : d ≤ (db.balanceAt (location.id, p)).1)
    (havailable : d ≤ (db.balanceAt (location.id, p)).2.2) :
    ∃ i st, db.inventory.find? (w, p) = some i ∧
      Commits (adjustLocationStock w p (-d) locationId) db (some location.id) st ∧
      LedgersConsistent { st with inventory := db.inventory.put (i.less d) } := by
  cases hfind : db.locationBalances.find? (location.id, p) with
  | none =>
    rw [balanceAt, hfind, Option.elim_none] at hquantity
    exact absurd hd (not_lt.mpr hquantity)
  | some b =>
    obtain ⟨hb, hbk⟩ := find?_eq_some.mp hfind
    rw [balanceAt_eq hb hbk] at hquantity havailable
    change d ≤ b.quantity at hquantity
    change d ≤ b.available at havailable
    have hbp : b.productId = p := congrArg Prod.snd hbk
    have hwarehouse : b.warehouseId = w :=
      (hdb.warehouse_eq hb hl.exists_row (congrArg Prod.fst hbk)).trans hl.warehouse
    have hstock : b.stock = (w, p) := Prod.ext hwarehouse hbp
    obtain ⟨_, hsellable⟩ := hdb.classified (w, p) hclassed b hb hstock
    change db.sellable b.key - b.reserved = b.available at hsellable
    have hreserved := (hdb.free b hb).1
    rw [hbk, sellable] at hsellable
    cases hcondition : db.conditionBalances.find? (location.id, p, .available) with
    | none =>
      rw [hcondition, Option.elim_none] at hsellable
      omega
    | some c =>
      obtain ⟨hc, hck⟩ := find?_eq_some.mp hcondition
      rw [hcondition, Option.elim_some] at hsellable
      have hlocated : db.Located (w, p) := ⟨b, hb, hstock⟩
      obtain ⟨i, hi⟩ := exists_aggregate hdb hb hstock (by omega)
      obtain ⟨t, hsame, hcommits⟩ := adjustLocationStock_succeeds hd hlocated (hdb.totals _ hlocated) hl hb hbk
        hquantity havailable hc hck (by omega)
      refine ⟨i, _, hi, hcommits, ?_⟩
      -- the same writes without reservations and orders
      have hcons : Consistent (ledgers { db with locations := t }) :=
        hdb.writeLocations (n := db.nextId) fun id w hid => hsame.holds hid
      have hsub : Commits (subtractAvailable location.id p d .recordNotFound)
          (ledgers { db with locations := t }) () (writeStock (ledgers { db with locations := t })
            (taken b db.now d) { c with quantity := c.quantity - d }) :=
        subtractAvailable_succeeds (ledgers { db with locations := t }) hb hbk hquantity havailable hc hck
          (by omega)
      obtain ⟨hmoved, _⟩ := subtractAvailable_commits (hcons.owes (w, p)) ⟨b, hb, hbk, hwarehouse⟩ hsub
      obtain ⟨him, hik⟩ := find?_eq_some.mp hi
      refine hmoved.owes.settle (i := i.less d) hik ?_
      change (i.quantity - d, i.reserved, i.available - d) = db.aggregate (w, p) + (0 + (-d, 0, -d))
      rw [aggregate, hi, Option.elim_some, zero_add, Inventory.counts]
      simp only [Prod.mk_add_mk, sub_eq_add_neg, add_zero]

lemma adjustLocationStock_succeeds_iff (hdb : db.LedgersConsistent) (hl : db.Chosen w locationId location)
    {d : ℤ} (hd : 0 < d) :
    (∃ r db', Commits (adjustLocationStock w p (-d) locationId) db r db') ↔
      db.Classed (w, p) ∧ d ≤ (db.balanceAt (location.id, p)).1 ∧ d ≤ (db.balanceAt (location.id, p)).2.2 := by
  constructor
  · rintro ⟨r, db', h⟩
    exact adjustLocationStock_needs hdb hl hd h
  · rintro ⟨hclassed, hquantity, havailable⟩
    obtain ⟨_, st, _, hc, _⟩ := adjustLocationStock_reduces hdb hl hd hclassed hquantity havailable
    exact ⟨_, st, hc⟩

lemma availableAt_of_classed (hdb : db.LedgersConsistent) (hclassed : db.Classed (w, p)) {l : ℕ} :
    db.availableAt w p l = (db.balanceAt (l, p)).2.2 := by
  obtain ⟨c, hc, hstock⟩ := hclassed
  obtain ⟨b, hb, hbk, hbw⟩ := hdb.placed c hc
  have hlocated : db.Located (w, p) := by
    refine ⟨b, hb, Prod.ext (hbw.trans (congrArg Prod.fst hstock)) ?_⟩
    have hbp : b.productId = c.productId := congrArg Prod.snd hbk
    exact hbp.trans (congrArg Prod.snd hstock)
  rw [availableAt, if_neg (by rw [balancesOf_eq_nil, not_not]; exact hlocated)]

/-- A negative adjustment does what it should, exactly where the stock is in conditions, or the location has
less available; the quantity of the location has to cover the adjustment too, as it does without negative
conditions. -/
theorem adjustsDown_iff (hdb : db.LedgersConsistent) (hl : db.Chosen w locationId location) {d : ℤ}
    (hd : 0 < d) :
    db.AdjustsDown w p locationId location d ↔
      (d ≤ db.availableAt w p location.id → db.Classed (w, p) ∧ d ≤ (db.balanceAt (location.id, p)).1) := by
  constructor
  · intro h hle
    obtain ⟨hclassed, hquantity, _⟩ := (adjustLocationStock_succeeds_iff hdb hl hd).mp (h.succeeds_iff.mpr hle)
    exact ⟨hclassed, hquantity⟩
  · intro h
    refine ⟨⟨fun hsucceeds => ?_, fun hle => ?_⟩, fun r db' hc => ?_⟩
    · obtain ⟨hclassed, _, havailable⟩ := (adjustLocationStock_succeeds_iff hdb hl hd).mp hsucceeds
      rw [availableAt_of_classed hdb hclassed]
      exact havailable
    · obtain ⟨hclassed, hquantity⟩ := h hle
      rw [availableAt_of_classed hdb hclassed] at hle
      exact (adjustLocationStock_succeeds_iff hdb hl hd).mpr ⟨hclassed, hquantity, hle⟩
    · obtain ⟨hclassed, hquantity, havailable⟩ := adjustLocationStock_needs hdb hl hd hc
      obtain ⟨i, st, hi, hst, hcons⟩ := adjustLocationStock_reduces hdb hl hd hclassed hquantity havailable
      obtain ⟨_, rfl⟩ := Commits.unique hst hc
      exact ⟨i, hi, hcons⟩

/-! ### A stock of five units -/

def shelf : WarehouseLocation := { id := 1, warehouseId := 1, code := "A", isDefault := true, isActive := true }

def fiveUnits : Db :=
  { Db.empty with
    locations := Table.empty.put shelf
    inventory := Table.empty.put { warehouseId := 1, productId := 1, quantity := 5, available := 5 } }

def fiveOnShelf : Db := (execute (prepareLocationInventory 1 1) fiveUnits).2

def fiveAvailable : Db := (execute (prepareConditionInventory 1 1) fiveUnits).2

lemma fiveUnits_consistent : Consistent fiveUnits := by
  refine WarehouseLevelOnly.consistent ⟨fun i hi => ?_, rfl, rfl, rfl⟩
  rcases mem_put.mp hi with rfl | ⟨hi, _⟩
  · decide
  · exact absurd hi (not_mem_empty i)

theorem adjustsDown_available : fiveAvailable.AdjustsDown 1 1 (some 1) shelf 2 := by
  have hc : Commits (prepareConditionInventory 1 1) fiveUnits () fiveAvailable :=
    commits_of_execute (by decide +kernel)
  have hcons := (prepareConditionInventory_commits fiveUnits_consistent hc).1.consistent
  have hchosen : fiveAvailable.Chosen 1 (some 1) shelf :=
    ⟨mem_rows.mpr (by decide +kernel), rfl, rfl, .inl rfl⟩
  refine (adjustsDown_iff hcons.ledgersConsistent hchosen (by decide)).mpr fun _ => ⟨?_, by decide +kernel⟩
  exact ⟨⟨1, 1, 1, .available, 5⟩, mem_rows.mpr (by decide +kernel), rfl⟩

/-- On the shelf, but in no condition, none of the five units can be adjusted away. -/
theorem not_adjustsDown_onShelf : fiveOnShelf.LedgersConsistent ∧ fiveOnShelf.Chosen 1 (some 1) shelf ∧
    ¬ fiveOnShelf.AdjustsDown 1 1 (some 1) shelf 2 := by
  have hc : Commits (prepareLocationInventory 1 1) fiveUnits _ fiveOnShelf :=
    commits_of_execute (a := (fiveUnits.inventory.find? (1, 1), shelf)) (by decide +kernel)
  have hcons := (prepareLocationInventory_commits fiveUnits_consistent hc).1.consistent
  have hchosen : fiveOnShelf.Chosen 1 (some 1) shelf :=
    ⟨mem_rows.mpr (by decide +kernel), rfl, rfl, .inl rfl⟩
  refine ⟨hcons.ledgersConsistent, hchosen, fun h => ?_⟩
  obtain ⟨⟨c, hc, _⟩, _⟩ := adjustLocationStock_needs hcons.ledgersConsistent hchosen (by decide)
    (h.succeeds_iff.mpr (by decide +kernel)).choose_spec.choose_spec
  exact absurd hc (not_mem_empty c)

end Mayatoko.Stock
