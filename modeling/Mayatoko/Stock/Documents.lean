import Mayatoko.Stock.LocationInventory

/-!
# The documents that move stock

The stock part of the transactions that call a location operation: order creation, cancellation
and shipment, POS sale, the returns, goods receipt and relocation. Each pairs a location operation
with the write to the aggregate `Inventory` row. Tenant checks, prices, payments, journals, audit
and outbox rows are not part of the stock tables: they can only make the transaction throw.

Of `GoodsReceiptsService.confirm` the accepted quantity of each item goes into the locations and the aggregate,
into the batch that the item names and, for a serial-tracked product, into one serial row a unit.
-/

namespace Mayatoko.Stock

open Core

def addToInventory (warehouseId productId : ℕ) (quantity : ℤ) : StockTx Inventory :=
  Db.inventoryRow.upsert { warehouseId, productId, quantity, available := quantity }
    fun i => { i with quantity := i.quantity + quantity, available := i.available + quantity }

def takeFromInventory (warehouseId productId : ℕ) (quantity : ℤ) : StockTx Inventory :=
  Db.inventoryRow.update (warehouseId, productId)
    (fun i => { i with quantity := i.quantity - quantity, available := i.available - quantity })
    .recordNotFound

def createMovements (warehouseId productId : ℕ) (type : InventoryMovementType)
    (balanceAfter : ℤ) (referenceType : String) (referenceId : ℕ)
    (changes : List LocationAllocation) : StockTx Unit :=
  modify fun db => { db with
    movements := db.movements ++ changes.map fun c =>
      { warehouseId, productId, locationId := some c.locationId, type, quantity := c.quantity,
        balanceAfter, referenceType, referenceId } }

def negated (allocations : List LocationAllocation) : List LocationAllocation :=
  allocations.map fun a => { a with quantity := -a.quantity }

/-! ### Orders -/

/-- The `Map` from product to ordered quantity, in order of first mention. -/
def quantitiesByProduct (items : List OrderItem) : Table (Prod.fst : ℕ × ℕ → ℕ) :=
  items.foldl (fun m item =>
    m.put (item.productId, (m.find? item.productId).elim 0 Prod.snd + item.quantity)) .empty

def orderSource (id : ℕ) : StockSource := ⟨"Order", id⟩

def reserveOrderProduct (orderId warehouseId : ℕ) (line : ℕ × ℕ) : StockTx Unit := do
  let _ ← reserveLocationStock warehouseId line.1 line.2 (orderSource orderId)
  Db.inventoryRow.updateOne
    (fun i => i.key = (warehouseId, line.1) && line.2 ≤ i.available)
    (fun i => { i with reserved := i.reserved + line.2, available := i.available - line.2 })
    (.badRequest "Stok tidak mencukupi untuk reservasi pesanan.")

/-- `OrdersService.create`: the order row and the reservation of its items. -/
def createOrder (warehouseId : ℕ) (items : List OrderItem) : StockTx Unit := do
  let id ← freshId
  Db.order.create { id, warehouseId, status := .pendingPayment, items } .uniqueViolation
  (quantitiesByProduct items).rows.forM (reserveOrderProduct id warehouseId)

def Db.productName (db : Db) (productId : ℕ) : String :=
  (db.products.find? productId).elim "" Product.name

def releaseOrderProduct (order : Order) (line : ℕ × ℕ) : StockTx Unit := do
  let _ ← releaseLocationReservations (orderSource order.id) order.warehouseId line.1 line.2
  let db ← get
  Db.inventoryRow.updateOne
    (fun i => i.key = (order.warehouseId, line.1) && line.2 ≤ i.reserved)
    (fun i => { i with reserved := i.reserved - line.2, available := i.available + line.2 })
    (.badRequest (s!"Reservasi stok {db.productName line.1} tidak konsisten; " ++
      "pembatalan dibatalkan untuk menjaga integritas stok."))

/-- `OrdersService.cancel`. -/
def cancelOrder (id : ℕ) : StockTx Unit := do
  let db ← get
  let order ← orThrow (db.orders.find? id) (.notFound
    "Pesanan tidak ditemukan pada branch pengguna.")
  if order.status = .cancelled then pure () else do
    require (order.status ≠ .shipped ∧ order.status ≠ .completed ∧ order.status ≠ .refunded)
      (.badRequest (s!"Pesanan tidak dapat dibatalkan dari status {order.status.text}; " ++
        "gunakan alur retur/refund yang sesuai."))
    require (order.paid = false) (.badRequest
      ("Pesanan sudah menerima pembayaran. Refund harus diproses sebelum pembatalan agar " ++
        "uang muka pelanggan tetap terlacak."))
    Db.order.updateOne (fun o => o.id = order.id && o.status = order.status)
      (fun o => { o with status := .cancelled })
      (.badRequest "Status order berubah saat pembatalan. Muat ulang lalu coba lagi.")
    (quantitiesByProduct order.items).rows.forM (releaseOrderProduct order)

/-- One round of the first-expiry-first-out issue of a batch product. -/
def consumeBatchAt (batch : InventoryBatch) (remaining : ℤ) : StockTx ℤ := do
  let free := max 0 (batch.quantity - batch.reserved)
  if free = 0 then pure 0 else do
    let take := min free remaining
    Db.inventoryBatch.updateOne
      (fun b => b.key = batch.key && batch.reserved + take ≤ b.quantity)
      (fun b => { b with quantity := b.quantity - take })
      (.badRequest "Stok batch berubah saat fulfillment. Ulangi proses pengiriman.")
    pure take

def consumeBatches (warehouseId productId : ℕ) (quantity : ℤ) : StockTx Unit := do
  let db ← get
  let ofProduct (b : InventoryBatch) : Bool :=
    b.warehouseId = warehouseId && b.productId = productId && 0 < b.quantity
  let expiring := db.batches.findSorted (fun b => ofProduct b && b.expiryDate.any (db.now < ·))
    fun a b => a.expiryDate.getD 0 < b.expiryDate.getD 0 ||
      (a.expiryDate = b.expiryDate && a.createdAt ≤ b.createdAt)
  let nonExpiring := db.batches.findSorted (fun b => ofProduct b && b.expiryDate.isNone)
    fun a b => a.createdAt ≤ b.createdAt
  let result ← allocate consumeBatchAt (expiring ++ nonExpiring) quantity
  require (result.2 ≤ 0) (.badRequest "Stok batch bebas tidak mencukupi untuk pengiriman.")

def shipOrderProduct (order : Order) (line : ℕ × ℕ) : StockTx Unit := do
  let allocations ←
    consumeLocationReservations (orderSource order.id) order.warehouseId line.1 line.2
  let db ← get
  Db.inventoryRow.updateOne
    (fun i => i.key = (order.warehouseId, line.1) && line.2 ≤ i.quantity && line.2 ≤ i.reserved)
    (fun i => { i with quantity := i.quantity - line.2, reserved := i.reserved - line.2 })
    (.badRequest s!"Stok/reservasi {db.productName line.1} tidak lagi mencukupi.")
  let after ← get
  let inventory ← orThrow (after.inventory.find? (order.warehouseId, line.1)) .recordNotFound
  createMovements order.warehouseId line.1 .onlineOrder inventory.quantity "Order" order.id
    (negated allocations)

def shipOrderBatches (order : Order) (item : OrderItem) : StockTx Unit := do
  let db ← get
  if (db.products.find? item.productId).any Product.trackBatch then
    consumeBatches order.warehouseId item.productId item.quantity
  else pure ()

/-- `OrdersService.ship`: stock and batches. The checks of shipment, gate pass, payment and scanned
serials come before and write nothing that is modelled here. -/
def shipOrder (id : ℕ) : StockTx Unit := do
  let db ← get
  let order ← orThrow (db.orders.find? id) (.notFound
    "Pesanan tidak ditemukan pada branch pengguna.")
  if order.status = .shipped ∨ order.status = .completed then pure () else do
    require (order.status = .packed)
      (.badRequest s!"Pesanan tidak dapat dikirim dari status {order.status.text}.")
    (quantitiesByProduct order.items).rows.forM (shipOrderProduct order)
    order.items.forM (shipOrderBatches order)
    let _ ← Db.order.update order.id (fun o => { o with status := .shipped }) .recordNotFound

structure StockLine where
  productId : ℕ
  quantity : ℤ

def checkSaleLine (warehouseId : ℕ) (line : StockLine) : StockTx Unit := do
  let db ← get
  let enough := (db.inventory.find? (warehouseId, line.productId)).any
    fun i => line.quantity ≤ i.available
  let allowed := (db.products.find? line.productId).any Product.allowNegativeStock
  require (enough = true ∨ allowed = true)
    (.badRequest s!"Stok {db.productName line.productId} tidak mencukupi.")

def sellLine (warehouseId saleId : ℕ) (line : StockLine) : StockTx Unit := do
  let allocations ← consumeAvailableLocationStock warehouseId line.productId line.quantity
  let inventory ← takeFromInventory warehouseId line.productId line.quantity
  createMovements warehouseId line.productId .sale inventory.quantity "Sale" saleId
    (negated allocations)

/-- `SalesService.create`: the stock-out of the prepared lines. -/
def createSale (warehouseId : ℕ) (prepared : List StockLine) : StockTx Unit := do
  prepared.forM (checkSaleLine warehouseId)
  let saleId ← freshId
  prepared.forM (sellLine warehouseId saleId)

/-! ### Returns and receipts -/

def receiveStock (warehouseId : ℕ) (type : InventoryMovementType) (referenceType : String)
    (referenceId : ℕ) (line : StockLine) : StockTx Unit := do
  let locationId ← depositLocationStock warehouseId line.productId line.quantity
  let inventory ← addToInventory warehouseId line.productId line.quantity
  createMovements warehouseId line.productId type inventory.quantity referenceType referenceId
    [⟨locationId, line.quantity⟩]

inductive ReturnCondition
  | good
  | damaged
  | unsellable
  deriving DecidableEq

structure ReturnLine extends StockLine where
  restock : Bool
  condition : ReturnCondition

/-- `ReturnsService.confirmSaleReturn`: good items go back into stock. -/
def confirmSaleReturnStock (warehouseId returnId : ℕ) (items : List ReturnLine) : StockTx Unit :=
  (items.filter fun item => item.restock && item.condition = .good).forM fun item =>
    receiveStock warehouseId .saleReturn "SaleReturn" returnId item.toStockLine

/-- `ReturnsService.confirmOrderReturn`: items that passed inspection go back into stock. -/
def confirmOrderReturnStock (warehouseId returnId : ℕ) (items : List ReturnLine) : StockTx Unit :=
  items.forM fun item =>
    if item.restock then receiveStock warehouseId .saleReturn "OrderReturn" returnId item.toStockLine
    else pure ()

/-- `GoodsReceiptsService.confirm`: accepted quantities come into stock. -/
def confirmGoodsReceiptStock (warehouseId receiptId : ℕ) (items : List StockLine) : StockTx Unit :=
  items.forM fun item =>
    if 0 < item.quantity then
      receiveStock warehouseId .purchaseReceipt "GoodsReceipt" receiptId item
    else pure ()

structure SupplierReturnLine extends StockLine where
  batchNumber : Option String

def returnBatch (warehouseId : ℕ) (item : SupplierReturnLine) : StockTx Unit :=
  match item.batchNumber with
  | none => pure ()
  | some batchNumber => do
    let db ← get
    let e := Failure.badRequest s!"Stok batch {batchNumber} tidak mencukupi untuk retur supplier."
    let batch ← orThrow (db.batches.find? (warehouseId, item.productId, batchNumber)) e
    require (item.quantity ≤ batch.quantity - batch.reserved) e
    let _ ← Db.inventoryBatch.update batch.key
      (fun b => { b with quantity := b.quantity - item.quantity }) .recordNotFound

def returnToSupplier (warehouseId returnId : ℕ) (item : SupplierReturnLine) : StockTx Unit := do
  let db ← get
  let e := Failure.badRequest s!"Stok retur produk {item.productId} tidak mencukupi."
  let inventory ← orThrow (db.inventory.find? (warehouseId, item.productId)) e
  require (item.quantity ≤ inventory.available) e
  let allocations ← consumeAvailableLocationStock warehouseId item.productId item.quantity
  let updated ← takeFromInventory warehouseId item.productId item.quantity
  createMovements warehouseId item.productId .purchaseReturn updated.quantity "PurchaseReturn"
    returnId (negated allocations)
  returnBatch warehouseId item

/-- `ReturnsService.confirmPurchaseReturn`: stock and batches go back to the supplier. -/
def confirmPurchaseReturnStock (warehouseId returnId : ℕ) (items : List SupplierReturnLine) :
    StockTx Unit :=
  items.forM (returnToSupplier warehouseId returnId)

/-- `AdvancedInventoryService.relocateLocation`: the aggregate does not move. -/
def relocateLocation (warehouseId productId sourceLocationId destinationLocationId : ℕ)
    (quantity : ℤ) : StockTx Unit := do
  relocateLocationStock warehouseId productId sourceLocationId destinationLocationId quantity
  let referenceId ← freshId
  let db ← get
  let balanceAfter := (db.inventory.find? (warehouseId, productId)).elim 0 Inventory.quantity
  createMovements warehouseId productId .locationMoveOut balanceAfter "LocationRelocation"
    referenceId [⟨sourceLocationId, -quantity⟩]
  createMovements warehouseId productId .locationMoveIn balanceAfter "LocationRelocation"
    referenceId [⟨destinationLocationId, quantity⟩]

/-! ### Goods that a receipt brings in -/

structure GoodsReceiptItem where
  (id purchaseOrderItemId productId : ℕ)
  quantityDamaged : ℕ := 0
  acceptedQty : ℕ
  quantityReceived : ℕ := acceptedQty
  subtotal : ℚ := 0
  taxAmount : ℚ := 0
  grossSubtotal : ℚ := 0
  taxCodeId : Option ℕ := none
  batchNumber : Option String := none
  expiryDate : Option ℕ := none
  serialNumbers : List String := []

/-- The batch that an item names; an empty number names none. -/
def GoodsReceiptItem.batch (item : GoodsReceiptItem) : Option String :=
  item.batchNumber.filter (· ≠ "")

def receiveGoodsBatch (warehouseId : ℕ) (item : GoodsReceiptItem) : StockTx Unit :=
  match item.batch with
  | none => pure ()
  | some batchNumber => do
    let db ← get
    let existingBatch := db.batches.find? (warehouseId, item.productId, batchNumber)
    require ((existingBatch.bind InventoryBatch.expiryDate).all fun date =>
        item.expiryDate.all fun d => date = d)
      (.badRequest (s!"Tanggal kedaluwarsa batch {batchNumber} berbeda dari batch yang sudah " ++
        "terdaftar."))
    let _ ← Db.inventoryBatch.upsert
      { warehouseId, productId := item.productId, batchNumber, expiryDate := item.expiryDate,
        quantity := item.acceptedQty, createdAt := db.now }
      (fun b => { b with
        quantity := b.quantity + item.acceptedQty, expiryDate := b.expiryDate.or item.expiryDate })

def receiveGoodsSerials (warehouseId : ℕ) (item : GoodsReceiptItem) : StockTx Unit := do
  let db ← get
  if (db.products.find? item.productId).any Product.trackSerial then
    item.serialNumbers.forM fun serialNumber =>
      Db.inventorySerial.create
        { serialNumber, warehouseId, productId := item.productId,
          referenceType := some "GoodsReceiptItem", referenceId := some (toString item.id) }
        .uniqueViolation
  else pure ()

def receiveGoodsItem (warehouseId receiptId : ℕ) (item : GoodsReceiptItem) : StockTx Unit :=
  if 0 < item.acceptedQty then do
    receiveStock warehouseId .purchaseReceipt "GoodsReceipt" receiptId
      ⟨item.productId, item.acceptedQty⟩
    receiveGoodsBatch warehouseId item
    receiveGoodsSerials warehouseId item
  else pure ()

def receiveGoods (warehouseId receiptId : ℕ) (items : List GoodsReceiptItem) : StockTx Unit :=
  items.forM (receiveGoodsItem warehouseId receiptId)

end Mayatoko.Stock
