import Mathlib.Data.Rat.Defs
import Mayatoko.Common.Failure
import Mayatoko.Core.Store

/-!
# The inventory tables

The rows of the Prisma schema that the stock operations read and write. Ids are opaque, quantities
are integers, instants are milliseconds. A row is addressed by its unique key; a surrogate id that
is only another name for that key is left out. The database draws ids from `nextId` and stamps
writes with `now`.
-/

namespace Mayatoko.Stock

open Core

inductive InventoryCondition
  | available
  | damaged
  | quarantine
  | lost
  deriving DecidableEq

structure WarehouseLocation where
  (id warehouseId : ℕ)
  code : String
  (isDefault isActive : Bool)
  deriving DecidableEq

structure Inventory where
  (warehouseId productId : ℕ)
  quantity : ℤ := 0
  reserved : ℤ := 0
  available : ℤ := 0
  deriving DecidableEq

structure InventoryLocationBalance where
  (warehouseId locationId productId : ℕ)
  quantity : ℤ := 0
  reserved : ℤ := 0
  available : ℤ := 0
  updatedAt : ℕ
  deriving DecidableEq

structure InventoryConditionBalance where
  (warehouseId locationId productId : ℕ)
  condition : InventoryCondition
  quantity : ℤ := 0
  deriving DecidableEq

inductive ReservationStatus
  | active
  | released
  | consumed
  deriving DecidableEq

structure InventoryReservation where
  (warehouseId locationId productId : ℕ)
  sourceType : String
  sourceId : ℕ
  quantity : ℤ
  status : ReservationStatus := .active
  createdAt : ℕ

inductive OrderStatus
  | pendingPayment
  | paid
  | processing
  | packed
  | shipped
  | completed
  | cancelled
  | refunded
  deriving DecidableEq

def OrderStatus.text : OrderStatus → String
  | pendingPayment => "PENDING_PAYMENT"
  | paid => "PAID"
  | processing => "PROCESSING"
  | packed => "PACKED"
  | shipped => "SHIPPED"
  | completed => "COMPLETED"
  | cancelled => "CANCELLED"
  | refunded => "REFUNDED"

/-- An item of an order, in base units. The unit conversion only returns whole quantities. -/
structure OrderItem where
  (productId quantity : ℕ)
  deriving DecidableEq

structure Order where
  (id warehouseId : ℕ)
  status : OrderStatus
  items : List OrderItem
  /-- Some payment of the order is `PAID`. -/
  paid : Bool := false

inductive InventoryMovementType
  | openingStock
  | purchaseReceipt
  | sale
  | onlineOrder
  | saleReturn
  | purchaseReturn
  | transferIn
  | transferOut
  | adjustmentIn
  | adjustmentOut
  | locationMoveIn
  | locationMoveOut

structure InventoryMovement where
  (warehouseId productId : ℕ)
  locationId : Option ℕ
  type : InventoryMovementType
  (quantity balanceAfter : ℤ)
  referenceType : String
  referenceId : ℕ

structure Product where
  id : ℕ
  name : String
  sku : String := ""
  barcode : Option String := none
  /-- Further codes that the product is known by. -/
  barcodes : List String := []
  costPrice : ℚ := 0
  trackBatch : Bool := false
  trackSerial : Bool := false
  allowNegativeStock : Bool := false
  deriving DecidableEq

structure InventoryBatch where
  (warehouseId productId : ℕ)
  batchNumber : String
  producedAt : Option ℕ := none
  expiryDate : Option ℕ := none
  quantity : ℤ := 0
  reserved : ℤ := 0
  createdAt : ℕ := 0

inductive SerialStatus
  | available
  | inTransit
  | reserved
  | sold
  | returned
  | consumed
  | damaged
  | lost
  deriving DecidableEq

structure InventorySerial where
  serialNumber : String
  (warehouseId productId : ℕ)
  status : SerialStatus := .available
  referenceType : Option String := none
  referenceId : Option String := none

inductive StockTransferStatus
  | draft
  | requested
  | approved
  | picking
  | shipped
  | partiallyReceived
  | received
  | rejected
  | cancelled
  deriving DecidableEq

structure StockTransfer where
  (id sourceWarehouseId destinationWarehouseId : ℕ)
  status : StockTransferStatus := .draft
  deriving DecidableEq

structure StockTransferItem where
  (id transferId productId : ℕ)
  quantity : ℤ
  shippedQty : ℤ := 0
  receivedQty : ℤ := 0
  batchNumber : Option String := none
  serialNumbers : List String := []
  deriving DecidableEq

inductive StockOpnameStatus
  | draft
  | counting
  | waitingApproval
  | completed
  | cancelled
  deriving DecidableEq

structure StockOpname where
  (id warehouseId : ℕ)
  locationId : Option ℕ := none
  status : StockOpnameStatus := .draft
  deriving DecidableEq

structure StockOpnameItem where
  (id opnameId productId : ℕ)
  batchNumber : Option String := none
  systemQty : ℤ
  countedQty : Option ℤ := none
  difference : Option ℤ := none
  reason : Option String := none

def Inventory.key (r : Inventory) : ℕ × ℕ := (r.warehouseId, r.productId)

def InventoryLocationBalance.key (r : InventoryLocationBalance) : ℕ × ℕ :=
  (r.locationId, r.productId)

def InventoryConditionBalance.key (r : InventoryConditionBalance) : ℕ × ℕ × InventoryCondition :=
  (r.locationId, r.productId, r.condition)

def InventoryReservation.key (r : InventoryReservation) : String × ℕ × ℕ × ℕ :=
  (r.sourceType, r.sourceId, r.locationId, r.productId)

def InventoryBatch.key (r : InventoryBatch) : ℕ × ℕ × String :=
  (r.warehouseId, r.productId, r.batchNumber)

structure Db where
  (now nextId : ℕ)
  locations : Table WarehouseLocation.id
  inventory : Table Inventory.key
  locationBalances : Table InventoryLocationBalance.key
  conditionBalances : Table InventoryConditionBalance.key
  reservations : Table InventoryReservation.key
  orders : Table Order.id
  movements : List InventoryMovement
  products : Table Product.id
  batches : Table InventoryBatch.key
  serials : Table InventorySerial.serialNumber
  transfers : Table StockTransfer.id
  transferItems : Table StockTransferItem.id
  opnames : Table StockOpname.id
  opnameItems : Table StockOpnameItem.id

namespace Db

def empty : Db where
  now := 0
  nextId := 0
  locations := .empty
  inventory := .empty
  locationBalances := .empty
  conditionBalances := .empty
  reservations := .empty
  orders := .empty
  movements := []
  products := .empty
  batches := .empty
  serials := .empty
  transfers := .empty
  transferItems := .empty
  opnames := .empty
  opnameItems := .empty

/-! The tables as places a statement can write to. -/

def warehouseLocation : TableOf Db WarehouseLocation.id :=
  ⟨Db.locations, fun db t => { db with locations := t }⟩

def inventoryRow : TableOf Db Inventory.key :=
  ⟨Db.inventory, fun db t => { db with inventory := t }⟩

def inventoryLocationBalance : TableOf Db InventoryLocationBalance.key :=
  ⟨Db.locationBalances, fun db t => { db with locationBalances := t }⟩

def inventoryConditionBalance : TableOf Db InventoryConditionBalance.key :=
  ⟨Db.conditionBalances, fun db t => { db with conditionBalances := t }⟩

def inventoryReservation : TableOf Db InventoryReservation.key :=
  ⟨Db.reservations, fun db t => { db with reservations := t }⟩

def order : TableOf Db Order.id :=
  ⟨Db.orders, fun db t => { db with orders := t }⟩

def inventoryBatch : TableOf Db InventoryBatch.key :=
  ⟨Db.batches, fun db t => { db with batches := t }⟩

def inventorySerial : TableOf Db InventorySerial.serialNumber :=
  ⟨Db.serials, fun db t => { db with serials := t }⟩

def stockTransfer : TableOf Db StockTransfer.id :=
  ⟨Db.transfers, fun db t => { db with transfers := t }⟩

def stockTransferItem : TableOf Db StockTransferItem.id :=
  ⟨Db.transferItems, fun db t => { db with transferItems := t }⟩

def stockOpname : TableOf Db StockOpname.id :=
  ⟨Db.opnames, fun db t => { db with opnames := t }⟩

def stockOpnameItem : TableOf Db StockOpnameItem.id :=
  ⟨Db.opnameItems, fun db t => { db with opnameItems := t }⟩

variable (db : Db)

@[simp] lemma warehouseLocation_write (r : WarehouseLocation) :
    warehouseLocation.write db r = { db with locations := db.locations.put r } := rfl

@[simp] lemma inventoryRow_write (r : Inventory) :
    inventoryRow.write db r = { db with inventory := db.inventory.put r } := rfl

@[simp] lemma inventoryLocationBalance_write (r : InventoryLocationBalance) :
    inventoryLocationBalance.write db r =
      { db with locationBalances := db.locationBalances.put r } := rfl

@[simp] lemma inventoryConditionBalance_write (r : InventoryConditionBalance) :
    inventoryConditionBalance.write db r =
      { db with conditionBalances := db.conditionBalances.put r } := rfl

@[simp] lemma inventoryReservation_write (r : InventoryReservation) :
    inventoryReservation.write db r = { db with reservations := db.reservations.put r } := rfl

@[simp] lemma order_write (r : Order) : order.write db r = { db with orders := db.orders.put r } := rfl

@[simp] lemma inventoryBatch_write (r : InventoryBatch) :
    inventoryBatch.write db r = { db with batches := db.batches.put r } := rfl

@[simp] lemma stockTransferItem_write (r : StockTransferItem) :
    stockTransferItem.write db r = { db with transferItems := db.transferItems.put r } := rfl

@[simp] lemma stockTransfer_write (r : StockTransfer) :
    stockTransfer.write db r = { db with transfers := db.transfers.put r } := rfl

@[simp] lemma stockOpname_write (r : StockOpname) :
    stockOpname.write db r = { db with opnames := db.opnames.put r } := rfl

@[simp] lemma stockOpnameItem_write (r : StockOpnameItem) :
    stockOpnameItem.write db r = { db with opnameItems := db.opnameItems.put r } := rfl

end Db

abbrev StockTx := Tx Db Failure

end Mayatoko.Stock
