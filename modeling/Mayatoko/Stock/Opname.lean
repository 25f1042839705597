import Mayatoko.Stock.Transfer

/-!
# Stock opname

The stock-count calls of `AdvancedInventoryService`: `createOpname` takes a snapshot, `countOpname`
stores counts, `submitOpname` asks for approval and `completeOpname` applies the differences to
the batch, location and aggregate stock. Of the four, `countOpname` and `completeOpname` check the
status of the opname.
-/

namespace Mayatoko.Stock

open Core

def Db.itemsOfOpname (db : Db) (id : ℕ) : List StockOpnameItem :=
  db.opnameItems.findMany fun i => i.opnameId = id

def Db.findOpname (db : Db) (id : ℕ) : StockTx StockOpname :=
  orThrow (db.opnames.find? id) (tenantAccessDenied "StockOpname")

/-! ### Snapshot -/

abbrev SnapshotItem := ℕ × Option String × ℤ

/-- Batches by expiry date, those without one last, then by number. -/
def InventoryBatch.byExpiry (a b : InventoryBatch) : Bool :=
  match a.expiryDate, b.expiryDate with
  | some x, some y => x < y || (x = y && a.batchNumber ≤ b.batchNumber)
  | some _, none => true
  | none, some _ => false
  | none, none => a.batchNumber ≤ b.batchNumber

def snapshotInventory (inventory : Inventory) : StockTx (List SnapshotItem) := do
  let db ← get
  if (db.products.find? inventory.productId).any Product.trackBatch then do
    let batches := db.batches.findSorted
      (fun b => b.warehouseId = inventory.warehouseId && b.productId = inventory.productId)
      InventoryBatch.byExpiry
    let batchTotal := (batches.map InventoryBatch.quantity).sum
    require (batchTotal = inventory.quantity) (.badRequest
      (s!"BATCH_INVENTORY_DRIFT:{inventory.warehouseId}:{inventory.productId}; " ++
        s!"aggregate={inventory.quantity}; batches={batchTotal}"))
    pure (batches.map fun b => (inventory.productId, some b.batchNumber, b.quantity))
  else pure [(inventory.productId, none, inventory.quantity)]

def snapshotWarehouse : List Inventory → StockTx (List SnapshotItem)
  | [] => pure []
  | inventory :: rest => do
    let head ← snapshotInventory inventory
    let tail ← snapshotWarehouse rest
    pure (head ++ tail)

def createOpnameItem (opnameId : ℕ) (item : SnapshotItem) : StockTx Unit := do
  let id ← freshId
  Db.stockOpnameItem.create
    { id, opnameId, productId := item.1, batchNumber := item.2.1, systemQty := item.2.2 }
    .uniqueViolation

def prepareWarehouse (warehouseId : ℕ) (inventories : List Inventory) : StockTx Unit :=
  inventories.forM fun inventory => do
    let _ ← prepareLocationInventory warehouseId inventory.productId

def snapshot (warehouseId : ℕ) (locationId : Option ℕ) (inventories : List Inventory) :
    StockTx (List SnapshotItem) :=
  match locationId with
  | some l => do
    let db ← get
    let balances := db.locationBalances.findMany fun b =>
      b.warehouseId = warehouseId && b.locationId = l
    pure (balances.map fun b => (b.productId, none, b.quantity))
  | none => snapshotWarehouse inventories

def createOpname (warehouseId : ℕ) (locationId : Option ℕ) : StockTx Unit := do
  let db ← get
  require (locationId.all fun l => (db.locations.find? l).any fun x =>
    x.warehouseId = warehouseId && x.isActive) (tenantAccessDenied "WarehouseLocation")
  let inventories := db.inventory.findMany fun i => i.warehouseId = warehouseId
  prepareWarehouse warehouseId inventories
  let items ← snapshot warehouseId locationId inventories
  let id ← freshId
  Db.stockOpname.create { id, warehouseId, locationId, status := .counting } .uniqueViolation
  items.forM (createOpnameItem id)

structure CountStockOpnameItem where
  (opnameItemId countedQty : ℕ)
  reason : Option String := none
  deriving DecidableEq

def countOpnameItem (opnameId : ℕ) (input : CountStockOpnameItem) : StockTx Unit := do
  let db ← get
  let e := Failure.badRequest s!"Item opname {input.opnameItemId} tidak ditemukan."
  let item ← orThrow (db.opnameItems.find? input.opnameItemId) e
  require (item.opnameId = opnameId) e
  let _ ← Db.stockOpnameItem.update item.id
    (fun i => { i with
      countedQty := some input.countedQty, difference := some (input.countedQty - item.systemQty),
      reason := input.reason }) .recordNotFound

def countOpname (id : ℕ) (inputs : List CountStockOpnameItem) : StockTx Unit := do
  let db ← get
  let opname ← db.findOpname id
  require (opname.status = .counting)
    (.badRequest "Stock opname tidak dalam proses penghitungan.")
  inputs.forM (countOpnameItem id)

/-- There is no check of the status here. -/
def submitOpname (id : ℕ) : StockTx Unit := do
  let db ← get
  let _ ← db.findOpname id
  require ((db.itemsOfOpname id).all fun i => i.countedQty.isSome)
    (.badRequest "Semua barang harus dihitung sebelum diajukan.")
  let _ ← Db.stockOpname.update id (fun o => { o with status := .waitingApproval })
    .recordNotFound

/-! ### Completing -/

def adjustOpnameBatch (warehouseId : ℕ) (item : StockOpnameItem) (difference : ℤ) :
    StockTx Unit :=
  match item.batchNumber with
  | none => pure ()
  | some batchNumber => do
    let db ← get
    let batch ← orThrow (db.batches.find? (warehouseId, item.productId, batchNumber))
      (.badRequest s!"Batch {batchNumber} pada opname tidak ditemukan.")
    require (0 ≤ difference ∨ (difference.natAbs : ℤ) ≤ batch.quantity - batch.reserved)
      (.badRequest s!"Stok bebas batch {batchNumber} tidak cukup untuk adjustment opname.")
    let _ ← Db.inventoryBatch.update batch.key
      (fun b => { b with quantity := b.quantity + difference }) .recordNotFound

def adjustOpnameLocations (opname : StockOpname) (productId : ℕ) (difference : ℤ) :
    StockTx (List LocationAllocation) :=
  match opname.locationId with
  | some locationId => do
    let change ← adjustLocationStock opname.warehouseId productId difference (some locationId)
    pure (change.toList.map fun l => ⟨l, difference.natAbs⟩)
  | none =>
    if 0 < difference then do
      let l ← depositLocationStock opname.warehouseId productId difference
      pure [⟨l, difference⟩]
    else consumeAvailableLocationStock opname.warehouseId productId difference.natAbs

def adjustOpnameInventory (warehouseId productId : ℕ) (difference : ℤ) : StockTx Inventory := do
  let db ← get
  let before := db.inventory.find? (warehouseId, productId)
  let nextQuantity := before.elim 0 Inventory.quantity + difference
  let nextAvailable := before.elim 0 Inventory.available + difference
  require (0 ≤ nextQuantity ∧ 0 ≤ nextAvailable) (.badRequest
    ("Adjustment opname membuat stok aggregate negatif atau mengurangi stok yang sedang " ++
      "direservasi."))
  Db.inventoryRow.upsert
    { warehouseId, productId, quantity := nextQuantity, available := nextAvailable }
    (fun i => { i with quantity := nextQuantity, available := nextAvailable })

def completeOpnameItem (opname : StockOpname) (item : StockOpnameItem) : StockTx Unit := do
  let difference := item.countedQty.getD item.systemQty - item.systemQty
  if difference = 0 then pure () else do
    adjustOpnameBatch opname.warehouseId item difference
    let changes ← adjustOpnameLocations opname item.productId difference
    let inventory ← adjustOpnameInventory opname.warehouseId item.productId difference
    createMovements opname.warehouseId item.productId
      (if 0 < difference then .adjustmentIn else .adjustmentOut) inventory.quantity "StockOpname"
      opname.id (if 0 < difference then changes else negated changes)

def completeOpname (id : ℕ) : StockTx Unit := do
  let db ← get
  let opname ← db.findOpname id
  require (opname.status = .waitingApproval)
    (.badRequest "Stock opname belum diajukan untuk persetujuan.")
  let items := db.itemsOfOpname id
  require (items.all fun i => (db.products.find? i.productId).isSome)
    (tenantAccessDenied "StockOpnameProduct")
  items.forM (completeOpnameItem opname)
  let _ ← Db.stockOpname.update id (fun o => { o with status := .completed }) .recordNotFound

end Mayatoko.Stock
