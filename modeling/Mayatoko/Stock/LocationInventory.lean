import Mayatoko.Stock.Schema

/-!
# Location inventory

The operations of `common/location-inventory.ts`. Each runs inside the caller's transaction. They
keep the balances of the locations of a warehouse, the conditions of these balances and the
reservations on them; the aggregate `Inventory` row is the caller's.
-/

namespace Mayatoko.Stock

open Core

abbrev Counts := ℤ × ℤ × ℤ

def Inventory.counts (r : Inventory) : Counts := (r.quantity, r.reserved, r.available)

def InventoryLocationBalance.counts (r : InventoryLocationBalance) : Counts :=
  (r.quantity, r.reserved, r.available)

/-- `quantity/reserved/available`, as the drift messages print it. -/
def Counts.text (c : Counts) : String := s!"{c.1}/{c.2.1}/{c.2.2}"

structure LocationAllocation where
  locationId : ℕ
  quantity : ℤ
  deriving DecidableEq

structure StockSource where
  sourceType : String
  sourceId : ℕ
  deriving DecidableEq

def currentTime : StockTx ℕ := do
  let db ← get
  pure db.now

def freshId : StockTx ℕ := do
  let db ← get
  set { db with nextId := db.nextId + 1 }
  pure db.nextId

def WarehouseLocation.byCode (a b : WarehouseLocation) : Bool := a.code ≤ b.code

def createDefaultLocation (warehouseId : ℕ) : StockTx WarehouseLocation := do
  let id ← freshId
  let location : WarehouseLocation :=
    { id, warehouseId, code := "DEFAULT", isDefault := true, isActive := true }
  let db ← get
  -- a code is used once in a warehouse, also by a location that is not active
  require (db.locations.findMany (fun l => l.warehouseId = warehouseId && l.code = "DEFAULT") = [])
    .uniqueViolation
  Db.warehouseLocation.create location .uniqueViolation
  pure location

def makeDefaultLocation (warehouseId : ℕ) (existing : WarehouseLocation) :
    StockTx WarehouseLocation := do
  let _ ← Db.warehouseLocation.updateMany
    (fun l => l.warehouseId = warehouseId && l.id ≠ existing.id && l.isDefault)
    (fun l => { l with isDefault := false })
  Db.warehouseLocation.update existing.id (fun l => { l with isDefault := true }) .recordNotFound

def defaultLocation (warehouseId : ℕ) : StockTx WarehouseLocation := do
  let db ← get
  match db.locations.findFirst
      (fun l => l.warehouseId = warehouseId && l.isActive && l.isDefault) WarehouseLocation.byCode with
  | some location => pure location
  | none =>
    match db.locations.findFirst
        (fun l => l.warehouseId = warehouseId && l.isActive) WarehouseLocation.byCode with
    | some existing => makeDefaultLocation warehouseId existing
    | none => createDefaultLocation warehouseId

def assertLocation (warehouseId locationId : ℕ) : StockTx WarehouseLocation := do
  let db ← get
  let location ← orThrow (db.locations.find? locationId) (.badRequest
    "Lokasi inventory tidak aktif atau tidak berada pada gudang yang dipilih.")
  require (location.warehouseId = warehouseId ∧ location.isActive = true) (.badRequest
    "Lokasi inventory tidak aktif atau tidak berada pada gudang yang dipilih.")
  pure location

/-! ### Preparation -/

def Db.balancesOf (db : Db) (warehouseId productId : ℕ) : List InventoryLocationBalance :=
  db.locationBalances.findMany fun b => b.warehouseId = warehouseId && b.productId = productId

def Db.conditionsOf (db : Db) (warehouseId productId : ℕ) : List InventoryConditionBalance :=
  db.conditionBalances.findMany fun c => c.warehouseId = warehouseId && c.productId = productId

/-- The first location-aware mutation of a product moves its aggregate into the default location;
every later one checks that the balances still add up to the aggregate. -/
def prepareLocationInventory (warehouseId productId : ℕ) :
    StockTx (Option Inventory × WarehouseLocation) := do
  let db ← get
  let aggregate := db.inventory.find? (warehouseId, productId)
  let balances := db.balancesOf warehouseId productId
  if balances = [] then do
    let location ← defaultLocation warehouseId
    match aggregate with
    | none => pure (aggregate, location)
    | some a => do
      let _ ← Db.inventoryLocationBalance.upsert
        { warehouseId, locationId := location.id, productId, quantity := a.quantity,
          reserved := a.reserved, available := a.available, updatedAt := db.now }
        (fun b => { b with
          warehouseId, quantity := a.quantity, reserved := a.reserved, available := a.available,
          updatedAt := db.now })
      pure (aggregate, location)
  else do
    let totals : Counts := (balances.map InventoryLocationBalance.counts).sum
    let expected : Counts := aggregate.elim 0 Inventory.counts
    require (totals = expected) (.badRequest
      (s!"LOCATION_INVENTORY_DRIFT:{warehouseId}:{productId}; aggregate={expected.text}; " ++
        s!"locations={totals.text}"))
    let location ← defaultLocation warehouseId
    pure (aggregate, location)

/-- Refuse a location whose conditions do not add up to its balance. -/
def checkConditions (existing : List InventoryConditionBalance)
    (location : InventoryLocationBalance) : StockTx Unit := do
  let rows := existing.filter fun c => c.locationId = location.locationId
  let classified := (rows.map InventoryConditionBalance.quantity).sum
  let place := s!"{location.warehouseId}:{location.locationId}:{location.productId}"
  require (classified = location.quantity) (.badRequest
    s!"INVENTORY_CONDITION_DRIFT:{place}; location={location.quantity}; classified={classified}")
  let sellable := (rows.find? fun c => c.condition = .available).elim 0
    InventoryConditionBalance.quantity
  require (location.reserved ≤ sellable ∧ sellable - location.reserved = location.available)
    (.badRequest
      (s!"INVENTORY_CONDITION_AVAILABLE_DRIFT:{place}; availableCondition={sellable}; " ++
        s!"reserved={location.reserved}; free={location.available}"))

/-- The first classification of a product puts the stock of each location in condition
`AVAILABLE`; every later one checks the conditions. The rows it returns are used by no caller. -/
def prepareConditionInventory (warehouseId productId : ℕ) : StockTx Unit := do
  let prepared ← prepareLocationInventory warehouseId productId
  let db ← get
  let locations := db.balancesOf warehouseId productId
  let existing := db.conditionsOf warehouseId productId
  if existing = [] then
    locations.forM fun location =>
      if location.quantity ≤ 0 then pure () else
        Db.inventoryConditionBalance.create
          { warehouseId, locationId := location.locationId, productId, condition := .available,
            quantity := location.quantity } .uniqueViolation
  else do
    locations.forM (checkConditions existing)
    let totalClassified := (existing.map InventoryConditionBalance.quantity).sum
    let expected := prepared.1.elim 0 Inventory.quantity
    require (totalClassified = expected) (.badRequest
      (s!"INVENTORY_CONDITION_TOTAL_DRIFT:{warehouseId}:{productId}; aggregate={expected}; " ++
        s!"classified={totalClassified}"))

def incrementAvailableCondition (warehouseId locationId productId : ℕ) (quantity : ℤ) :
    StockTx Unit := do
  let _ ← Db.inventoryConditionBalance.upsert
    { warehouseId, locationId, productId, condition := .available, quantity }
    (fun c => { c with quantity := c.quantity + quantity })

def decrementAvailableCondition (locationId productId : ℕ) (quantity : ℤ) : StockTx Unit :=
  Db.inventoryConditionBalance.updateOne
    (fun c => c.key = (locationId, productId, .available) && quantity ≤ c.quantity)
    (fun c => { c with quantity := c.quantity - quantity })
    (.badRequest "Saldo kondisi AVAILABLE tidak mencukupi atau tidak sinkron.")

/-- The balances with free stock, oldest write first, the default location before the others. -/
def orderedAvailableBalances (warehouseId productId : ℕ) :
    StockTx (List InventoryLocationBalance) := do
  let prepared ← prepareLocationInventory warehouseId productId
  prepareConditionInventory warehouseId productId
  let db ← get
  let rows := db.locationBalances.findSorted
    (fun b => b.warehouseId = warehouseId && b.productId = productId && 0 < b.available)
    (fun a b => a.updatedAt ≤ b.updatedAt)
  pure ((rows.filter fun b => b.locationId = prepared.2.id) ++
    rows.filter fun b => b.locationId ≠ prepared.2.id)

/-! ### Operations -/

def toAllocations (taken : List (InventoryLocationBalance × ℤ)) : List LocationAllocation :=
  taken.map fun t => ⟨t.1.locationId, t.2⟩

/-- Put stock into a balance and into its `AVAILABLE` condition. -/
def addAvailable (warehouseId locationId productId : ℕ) (quantity : ℤ) : StockTx Unit := do
  let now ← currentTime
  let _ ← Db.inventoryLocationBalance.upsert
    { warehouseId, locationId, productId, quantity, available := quantity, updatedAt := now }
    (fun b => { b with
      quantity := b.quantity + quantity, available := b.available + quantity, updatedAt := now })
  incrementAvailableCondition warehouseId locationId productId quantity

/-- Take free stock out of a balance and out of its `AVAILABLE` condition. -/
def subtractAvailable (locationId productId : ℕ) (quantity : ℤ) (e : Failure) : StockTx Unit := do
  let now ← currentTime
  Db.inventoryLocationBalance.updateOne
    (fun b => b.key = (locationId, productId) && quantity ≤ b.quantity && quantity ≤ b.available)
    (fun b => { b with
      quantity := b.quantity - quantity, available := b.available - quantity, updatedAt := now }) e
  decrementAvailableCondition locationId productId quantity

def chooseLocation (warehouseId : ℕ) (locationId : Option ℕ) (primary : WarehouseLocation) :
    StockTx WarehouseLocation :=
  match locationId with
  | some id => assertLocation warehouseId id
  | none => pure primary

/-- Returns the location that took the stock. -/
def depositLocationStock (warehouseId productId : ℕ) (quantity : ℤ)
    (locationId : Option ℕ := none) : StockTx ℕ := do
  require (0 < quantity) (.badRequest "Jumlah stock-in lokasi harus integer positif.")
  let prepared ← prepareLocationInventory warehouseId productId
  prepareConditionInventory warehouseId productId
  let location ← chooseLocation warehouseId locationId prepared.2
  addAvailable warehouseId location.id productId quantity
  pure location.id

def consumeAvailableAt (productId : ℕ) (row : InventoryLocationBalance) (remaining : ℤ) :
    StockTx ℤ := do
  let take := min row.available remaining
  subtractAvailable row.locationId productId take
    (.badRequest "Saldo lokasi berubah saat stock-out. Ulangi transaksi.")
  pure take

def consumeAvailableLocationStock (warehouseId productId : ℕ) (quantity : ℤ) :
    StockTx (List LocationAllocation) := do
  require (0 < quantity) (.badRequest "Jumlah stock-out lokasi harus integer positif.")
  let rows ← orderedAvailableBalances warehouseId productId
  let result ← allocate (consumeAvailableAt productId) rows quantity
  require (result.2 ≤ 0) (.badRequest
    ("Stok lokasi tidak mencukupi meskipun saldo gudang terlihat tersedia. " ++
      "Jalankan rekonsiliasi lokasi."))
  pure (toAllocations result.1)

/-- The `ACTIVE` reservations of a source on a product. -/
def Db.activeReservations (db : Db) (source : StockSource) (productId : ℕ) :
    List InventoryReservation :=
  db.reservations.findMany fun r =>
    r.sourceType = source.sourceType && r.sourceId = source.sourceId &&
      r.productId = productId && r.status = .active

def reserveAt (warehouseId productId : ℕ) (source : StockSource)
    (row : InventoryLocationBalance) (remaining : ℤ) : StockTx ℤ := do
  let now ← currentTime
  let take := min row.available remaining
  Db.inventoryLocationBalance.updateOne
    (fun b => b.key = row.key && take ≤ b.available)
    (fun b => { b with
      reserved := b.reserved + take, available := b.available - take, updatedAt := now })
    (.badRequest "Saldo lokasi berubah saat reservasi. Ulangi transaksi.")
  Db.inventoryReservation.create
    { warehouseId, locationId := row.locationId, productId, sourceType := source.sourceType,
      sourceId := source.sourceId, quantity := take, createdAt := now } .uniqueViolation
  pure take

def reserveLocationStock (warehouseId productId : ℕ) (quantity : ℤ) (source : StockSource) :
    StockTx (List LocationAllocation) := do
  require (0 < quantity) (.badRequest "Jumlah reservasi lokasi harus integer positif.")
  let db ← get
  let existing := db.activeReservations source productId
  if existing = [] then do
    let rows ← orderedAvailableBalances warehouseId productId
    let result ← allocate (reserveAt warehouseId productId source) rows quantity
    require (result.2 ≤ 0) (.badRequest "Stok lokasi tidak mencukupi untuk reservasi pesanan.")
    pure (toAllocations result.1)
  else do
    require ((existing.map InventoryReservation.quantity).sum = quantity) (.badRequest
      "Reservasi lokasi existing tidak sama dengan quantity sumber.")
    pure (existing.map fun r => ⟨r.locationId, r.quantity⟩)

/-- What the `ACTIVE` reservations hold at a location. -/
def Db.tracked (db : Db) (locationId productId : ℕ) : ℤ :=
  ((db.reservations.findMany fun r =>
    r.locationId = locationId && r.productId = productId && r.status = .active).map
      InventoryReservation.quantity).sum

/-- One round of a release (or, with `consume`, of a fulfilment) of reserved stock that no
reservation row accounts for. -/
def mutateLegacyAt (productId : ℕ) (consume : Bool) (balance : InventoryLocationBalance)
    (remaining : ℤ) : StockTx ℤ := do
  let db ← get
  let tracked := db.tracked balance.locationId productId
  let legacyReserved := max 0 (balance.reserved - tracked)
  if legacyReserved = 0 then pure 0 else do
    let take := min legacyReserved remaining
    Db.inventoryLocationBalance.updateOne
      (fun b => b.key = balance.key && take + tracked ≤ b.reserved &&
        (!consume || take ≤ b.quantity))
      (fun b => if consume
        then { b with
          quantity := b.quantity - take, reserved := b.reserved - take, updatedAt := db.now }
        else { b with
          reserved := b.reserved - take, available := b.available + take, updatedAt := db.now })
      (.badRequest "Reservasi lokasi legacy berubah saat rekonsiliasi. Ulangi transaksi.")
      (by intro b; cases consume <;> rfl)
    let _ ← (if consume then decrementAvailableCondition balance.locationId productId take
      else pure () : StockTx Unit)
    pure take

def mutateLegacyReservedStock (warehouseId productId : ℕ) (quantity : ℤ) (consume : Bool) :
    StockTx (List LocationAllocation) := do
  let _ ← prepareLocationInventory warehouseId productId
  let db ← get
  let balances := db.locationBalances.findSorted
    (fun b => b.warehouseId = warehouseId && b.productId = productId && 0 < b.reserved)
    (fun a b => a.updatedAt ≤ b.updatedAt)
  let result ← allocate (mutateLegacyAt productId consume) balances quantity
  require (result.2 ≤ 0) (.badRequest
    s!"Reservasi lokasi legacy tidak lengkap ({quantity - result.2}/{quantity}).")
  pure (toAllocations result.1)

def releaseReservation (row : InventoryReservation) : StockTx Unit := do
  let now ← currentTime
  Db.inventoryLocationBalance.updateOne
    (fun b => b.key = (row.locationId, row.productId) && row.quantity ≤ b.reserved)
    (fun b => { b with
      reserved := b.reserved - row.quantity, available := b.available + row.quantity,
      updatedAt := now })
    (.badRequest "Reservasi lokasi tidak konsisten saat release.")
  let _ ← Db.inventoryReservation.update row.key (fun r => { r with status := .released })
    .recordNotFound

def releaseLocationReservations (source : StockSource) (warehouseId productId : ℕ)
    (quantity : ℤ) : StockTx (List LocationAllocation) := do
  let db ← get
  let rows := db.activeReservations source productId
  if rows = [] then mutateLegacyReservedStock warehouseId productId quantity false
  else do
    let total := (rows.map InventoryReservation.quantity).sum
    require (total = quantity) (.badRequest
      s!"Reservasi lokasi existing tidak lengkap saat release ({total}/{quantity}).")
    rows.forM releaseReservation
    pure (rows.map fun r => ⟨r.locationId, r.quantity⟩)

def consumeReservation (row : InventoryReservation) : StockTx Unit := do
  let now ← currentTime
  Db.inventoryLocationBalance.updateOne
    (fun b => b.key = (row.locationId, row.productId) && row.quantity ≤ b.quantity &&
      row.quantity ≤ b.reserved)
    (fun b => { b with
      quantity := b.quantity - row.quantity, reserved := b.reserved - row.quantity,
      updatedAt := now })
    (.badRequest "Reservasi lokasi berubah saat fulfillment.")
  decrementAvailableCondition row.locationId row.productId row.quantity
  let _ ← Db.inventoryReservation.update row.key (fun r => { r with status := .consumed })
    .recordNotFound

def consumeLocationReservations (source : StockSource) (warehouseId productId : ℕ)
    (quantity : ℤ) : StockTx (List LocationAllocation) := do
  prepareConditionInventory warehouseId productId
  let db ← get
  let rows := (db.activeReservations source productId).insertionSort
    fun a b => a.createdAt ≤ b.createdAt
  if rows = [] then mutateLegacyReservedStock warehouseId productId quantity true
  else do
    let total := (rows.map InventoryReservation.quantity).sum
    require (total = quantity) (.badRequest
      s!"Reservasi lokasi tidak lengkap untuk fulfillment ({total}/{quantity}).")
    rows.forM consumeReservation
    pure (rows.map fun r => ⟨r.locationId, r.quantity⟩)

/-- Returns the adjusted location, none where there is no difference. -/
def adjustLocationStock (warehouseId productId : ℕ) (difference : ℤ)
    (locationId : Option ℕ := none) : StockTx (Option ℕ) :=
  if difference = 0 then pure none else do
    let prepared ← prepareLocationInventory warehouseId productId
    let location ← chooseLocation warehouseId locationId prepared.2
    if 0 < difference then do
      let deposited ← depositLocationStock warehouseId productId difference (some location.id)
      pure (some deposited)
    else do
      subtractAvailable location.id productId difference.natAbs (.badRequest
        "Stok bebas pada lokasi opname tidak mencukupi untuk adjustment negatif.")
      pure (some location.id)

def relocateLocationStock (warehouseId productId sourceLocationId destinationLocationId : ℕ)
    (quantity : ℤ) : StockTx Unit := do
  require (sourceLocationId ≠ destinationLocationId)
    (.badRequest "Lokasi asal dan tujuan harus berbeda.")
  require (0 < quantity) (.badRequest "Jumlah relokasi harus integer positif.")
  let _ ← prepareLocationInventory warehouseId productId
  prepareConditionInventory warehouseId productId
  let _ ← assertLocation warehouseId sourceLocationId
  let _ ← assertLocation warehouseId destinationLocationId
  subtractAvailable sourceLocationId productId quantity
    (.badRequest "Stok bebas lokasi asal tidak mencukupi untuk relokasi.")
  addAvailable warehouseId destinationLocationId productId quantity

end Mayatoko.Stock
