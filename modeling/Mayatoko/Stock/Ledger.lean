import Mathlib.Algebra.Group.Prod
import Mayatoko.Stock.LocationInventory

/-!
# The three stock ledgers

The stock of a product in a warehouse is kept three times: in the aggregate `Inventory` row, in the
balances of the locations, and in the conditions of each balance. `LedgersAgree` says that the
three agree. `Sound` collects what holds of the location and condition ledgers by themselves, and
`Owes s δ` says that the locations are ahead of the aggregate of the stock `s` by `δ` and agree
everywhere else: a location operation moves from `Owes s δ` to `Owes s (δ + ε)`, and the caller's
write to the aggregate settles the debt.
-/

namespace Mayatoko.Stock

open Core

def InventoryLocationBalance.stock (b : InventoryLocationBalance) : ℕ × ℕ :=
  (b.warehouseId, b.productId)

def InventoryConditionBalance.stock (c : InventoryConditionBalance) : ℕ × ℕ :=
  (c.warehouseId, c.productId)

def InventoryConditionBalance.place (c : InventoryConditionBalance) : ℕ × ℕ :=
  (c.locationId, c.productId)

namespace Db

/-- The aggregate of a stock, zero where there is no row. -/
def aggregate (db : Db) (s : ℕ × ℕ) : Counts := (db.inventory.find? s).elim 0 Inventory.counts

def totals (db : Db) : ℕ × ℕ → Counts :=
  db.locationBalances.sumBy InventoryLocationBalance.stock InventoryLocationBalance.counts

/-- The balance of a place, zero where there is no row. -/
def balanceAt (db : Db) (k : ℕ × ℕ) : Counts :=
  (db.locationBalances.find? k).elim 0 InventoryLocationBalance.counts

def classified (db : Db) : ℕ × ℕ → ℤ :=
  db.conditionBalances.sumBy InventoryConditionBalance.place InventoryConditionBalance.quantity

/-- The `AVAILABLE` condition of a place, zero where there is no row. -/
def sellable (db : Db) (k : ℕ × ℕ) : ℤ :=
  (db.conditionBalances.find? (k.1, k.2, .available)).elim 0 InventoryConditionBalance.quantity

def Located (db : Db) (s : ℕ × ℕ) : Prop := ∃ b ∈ db.locationBalances, b.stock = s

def Classed (db : Db) (s : ℕ × ℕ) : Prop := ∃ c ∈ db.conditionBalances, c.stock = s

def Stocked (db : Db) (k : ℕ × ℕ) (warehouseId : ℕ) : Prop :=
  ∃ b ∈ db.locationBalances, b.key = k ∧ b.warehouseId = warehouseId

def Holds (db : Db) (locationId warehouseId : ℕ) : Prop :=
  ∃ l ∈ db.locations, l.id = locationId ∧ l.warehouseId = warehouseId

def ConditionsAgree (db : Db) (b : InventoryLocationBalance) : Prop :=
  db.classified b.key = b.quantity ∧ db.sellable b.key - b.reserved = b.available

def Classified (db : Db) (s : ℕ × ℕ) : Prop :=
  ∀ b ∈ db.locationBalances, b.stock = s → db.ConditionsAgree b

structure LedgersAgree (db : Db) (warehouseId productId : ℕ) : Prop where
  /-- If a balance row exists, the balances add up to the aggregate. -/
  locations : db.Located (warehouseId, productId) →
    db.totals (warehouseId, productId) = db.aggregate (warehouseId, productId)
  /-- If a condition row exists, then at every location of the warehouse the conditions add up to
  the quantity, and the `AVAILABLE` condition covers what is reserved and leaves what is
  available. -/
  conditions : db.Classed (warehouseId, productId) →
    ∀ l ∈ db.locations, l.warehouseId = warehouseId →
      db.classified (l.id, productId) = (db.balanceAt (l.id, productId)).1 ∧
      (db.balanceAt (l.id, productId)).2.1 ≤ db.sellable (l.id, productId) ∧
      db.sellable (l.id, productId) - (db.balanceAt (l.id, productId)).2.1 =
        (db.balanceAt (l.id, productId)).2.2

structure Sound (db : Db) : Prop where
  located : ∀ b ∈ db.locationBalances, db.Holds b.locationId b.warehouseId
  placed : ∀ c ∈ db.conditionBalances, db.Stocked c.place c.warehouseId
  free : ∀ b ∈ db.locationBalances, 0 ≤ b.reserved ∧ 0 ≤ b.available
  classified : ∀ s, db.Classed s → db.Classified s
  unclassified : ∀ b ∈ db.locationBalances, ¬ db.Classed b.stock →
    b.quantity = b.reserved + b.available
  unlocated : ∀ i ∈ db.inventory, ¬ db.Located i.key →
    0 ≤ i.reserved ∧ 0 ≤ i.available ∧ i.quantity = i.reserved + i.available
  held : ∀ r ∈ db.reservations, 0 ≤ r.quantity ∧
    db.Stocked (r.locationId, r.productId) r.warehouseId
  ordered : ∀ r ∈ db.reservations, r.sourceType = "Order" →
    ∃ o ∈ db.orders, o.id = r.sourceId ∧ o.warehouseId = r.warehouseId

/-- The balances are ahead of the aggregate of the stock `s` by `δ` and agree everywhere else. -/
structure Owes (s : ℕ × ℕ) (δ : Counts) (db : Db) : Prop extends Sound db where
  totals : ∀ k, db.Located k → db.totals k = db.aggregate k + if k = s then δ else 0
  settled : ¬ db.Located s → δ = 0

structure Consistent (db : Db) : Prop extends Sound db where
  totals : ∀ k, db.Located k → db.totals k = db.aggregate k

/-- What no location operation touches or loses. -/
structure Keeps (db db' : Db) : Prop where
  orders : db'.orders = db.orders
  holds : ∀ l w, db.Holds l w → db'.Holds l w
  stocked : ∀ k w, db.Stocked k w → db'.Stocked k w

/-! ### Elementary facts -/

variable {db db' : Db} {s : ℕ × ℕ} {δ : Counts}

lemma Keeps.refl (db : Db) : Keeps db db := ⟨rfl, fun _ _ h => h, fun _ _ h => h⟩

lemma Keeps.trans {db₁ db₂ db₃ : Db} (h : Keeps db₁ db₂) (h' : Keeps db₂ db₃) : Keeps db₁ db₃ :=
  ⟨h'.orders.trans h.orders, fun l w hl => h'.holds l w (h.holds l w hl),
    fun k w hk => h'.stocked k w (h.stocked k w hk)⟩

lemma Consistent.owes (h : Consistent db) (s : ℕ × ℕ) : Owes s 0 db :=
  ⟨h.toSound, fun k hk => by rw [h.totals k hk]; simp, fun _ => rfl⟩

lemma Owes.consistent (h : Owes s 0 db) : Consistent db :=
  ⟨h.toSound, fun k hk => by rw [h.totals k hk]; simp⟩

lemma Sound.warehouse_eq (h : Sound db) {b : InventoryLocationBalance}
    (hb : b ∈ db.locationBalances) {l : WarehouseLocation} (hl : l ∈ db.locations)
    (hid : b.locationId = l.id) : b.warehouseId = l.warehouseId := by
  obtain ⟨l', hl', hid', hw'⟩ := h.located b hb
  rw [← hw', eq_of_key_eq hl' hl (hid'.trans hid)]

lemma Sound.no_conditions (h : Sound db) {k : ℕ × ℕ}
    (hk : db.locationBalances.find? k = none) : ∀ c ∈ db.conditionBalances, c.place ≠ k := by
  intro c hc hk'
  obtain ⟨b, hb, hbk, _⟩ := h.placed c hc
  exact find?_eq_none.mp hk b hb (hbk.trans hk')

lemma Sound.classified_eq_zero (h : Sound db) {k : ℕ × ℕ}
    (hk : db.locationBalances.find? k = none) : db.classified k = 0 ∧ db.sellable k = 0 := by
  have hno := h.no_conditions hk
  refine ⟨Table.sumBy_eq_zero hno _, ?_⟩
  have hnone : db.conditionBalances.find? (k.1, k.2, .available) = none := by
    rw [find?_eq_none]
    intro c hc hck
    simp only [InventoryConditionBalance.key, Prod.mk.injEq] at hck
    exact hno c hc (Prod.ext hck.1 hck.2.1)
  rw [sellable, hnone]
  rfl

lemma totals_eq_zero (h : ¬ db.Located s) : db.totals s = 0 :=
  Table.sumBy_eq_zero (fun b hb hs => h ⟨b, hb, hs⟩) _

lemma Consistent.ledgersAgree (h : Consistent db) (warehouseId productId : ℕ) :
    db.LedgersAgree warehouseId productId := by
  refine ⟨h.totals _, fun hc l hl hw => ?_⟩
  cases hb : db.locationBalances.find? (l.id, productId) with
  | none =>
    obtain ⟨hcl, hse⟩ := h.classified_eq_zero hb
    simp [balanceAt, hb, hcl, hse]
  | some b =>
    obtain ⟨hbm, hbk⟩ := find?_eq_some.mp hb
    simp only [InventoryLocationBalance.key, Prod.mk.injEq] at hbk
    have hstock : b.stock = (warehouseId, productId) := by
      rw [InventoryLocationBalance.stock, h.warehouse_eq hbm hl hbk.1, hw, hbk.2]
    obtain ⟨hcl, hse⟩ := h.classified _ hc b hbm hstock
    obtain ⟨_, hav⟩ := h.free b hbm
    rw [InventoryLocationBalance.key, hbk.1, hbk.2] at hcl hse
    simp only [balanceAt, hb, Option.elim_some, InventoryLocationBalance.counts]
    exact ⟨hcl, by omega, hse⟩

end Db

end Mayatoko.Stock
