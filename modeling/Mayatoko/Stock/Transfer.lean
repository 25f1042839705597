import Mayatoko.Stock.Documents

/-!
# Stock transfers between warehouses

`shipTransfer` and `receiveTransfer` of `AdvancedInventoryService`. A receipt may be partial, and
its list of entries may name an item of the transfer more than once. Serial numbers are taken as
already trimmed.
-/

namespace Mayatoko.Stock

open Core

/-- An entry of a receipt; the request validation only lets natural quantities pass. -/
structure ReceiveStockTransferItem where
  (transferItemId receivedQty : ℕ)
  serialNumbers : List String := []

def Db.itemsOfTransfer (db : Db) (id : ℕ) : List StockTransferItem :=
  db.transferItems.findMany fun i => i.transferId = id

def shipTransferBatch (sourceId : ℕ) (item : StockTransferItem) : StockTx Unit :=
  match item.batchNumber with
  | none => pure ()
  | some batchNumber => do
    let db ← get
    let e := Failure.badRequest s!"Stok batch {batchNumber} tidak mencukupi untuk transfer."
    let batch ← orThrow (db.batches.find? (sourceId, item.productId, batchNumber)) e
    require (item.quantity ≤ batch.quantity - batch.reserved) e
    require (batch.expiryDate.all (db.now < ·)) (.badRequest
      s!"Batch {batchNumber} sudah kedaluwarsa dan tidak boleh dikirim sebagai stok AVAILABLE.")
    Db.inventoryBatch.updateOne
      (fun b => b.key = batch.key && item.quantity + batch.reserved ≤ b.quantity)
      (fun b => { b with quantity := b.quantity - item.quantity })
      (.badRequest s!"Saldo batch {batchNumber} berubah saat transfer diproses.")

def shipTransferSerials (transfer : StockTransfer) (item : StockTransferItem) : StockTx Unit :=
  if item.serialNumbers = [] then pure () else do
    let claimed ← Db.inventorySerial.updateMany
      (fun s => item.serialNumbers.contains s.serialNumber &&
        s.warehouseId = transfer.sourceWarehouseId && s.productId = item.productId &&
        s.status = .available)
      (fun s => { s with
        status := .inTransit, referenceType := some "StockTransfer",
        referenceId := some (toString transfer.id) })
    require (claimed = item.serialNumbers.length)
      (.badRequest "Satu atau lebih serial transfer tidak tersedia pada gudang asal.")

def shipTransferItem (transfer : StockTransfer) (item : StockTransferItem) : StockTx Unit := do
  let sourceId := transfer.sourceWarehouseId
  let db ← get
  let e := Failure.badRequest s!"Stok produk {item.productId} tidak mencukupi."
  let inventory ← orThrow (db.inventory.find? (sourceId, item.productId)) e
  require (item.quantity ≤ inventory.available) e
  shipTransferBatch sourceId item
  shipTransferSerials transfer item
  let allocations ← consumeAvailableLocationStock sourceId item.productId item.quantity
  let updated ← takeFromInventory sourceId item.productId item.quantity
  createMovements sourceId item.productId .transferOut updated.quantity "StockTransfer"
    transfer.id (negated allocations)
  let _ ← Db.stockTransferItem.update item.id (fun i => { i with shippedQty := item.quantity })
    .recordNotFound

def shipTransfer (id : ℕ) : StockTx Unit := do
  let db ← get
  let transfer ← orThrow (db.transfers.find? id) (tenantAccessDenied "StockTransfer")
  require (transfer.status = .approved)
    (.badRequest "Transfer harus disetujui sebelum dikirim.")
  let items := db.itemsOfTransfer id
  items.forM (shipTransferItem transfer)
  require (items.all fun i => (db.products.find? i.productId).isSome)
    (tenantAccessDenied "StockTransferProduct")
  let _ ← Db.stockTransfer.update id (fun t => { t with status := .shipped }) .recordNotFound

/-! ### Receiving -/

def receiveTransferBatch (transfer : StockTransfer) (item : StockTransferItem)
    (receivedQty : ℤ) : StockTx Unit :=
  match item.batchNumber with
  | none => pure ()
  | some batchNumber => do
    let db ← get
    let sourceBatch ← orThrow
      (db.batches.find? (transfer.sourceWarehouseId, item.productId, batchNumber))
      (.badRequest s!"Metadata batch {batchNumber} tidak ditemukan pada gudang asal.")
    let _ ← Db.inventoryBatch.upsert
      { warehouseId := transfer.destinationWarehouseId, productId := item.productId, batchNumber,
        producedAt := sourceBatch.producedAt, expiryDate := sourceBatch.expiryDate,
        quantity := receivedQty, createdAt := db.now }
      (fun b => { b with quantity := b.quantity + receivedQty })

def inTransitSerial (transfer : StockTransfer) (item : StockTransferItem) (s : InventorySerial) :
    Bool :=
  s.warehouseId = transfer.sourceWarehouseId && s.productId = item.productId &&
    s.status = .inTransit && s.referenceType = some "StockTransfer" &&
    s.referenceId = some (toString transfer.id)

def receiveTransferSerials (transfer : StockTransfer) (item : StockTransferItem)
    (input : ReceiveStockTransferItem) (remaining : ℤ) : StockTx Unit :=
  if item.serialNumbers = [] then pure () else do
    let db ← get
    let underWay := db.serials.findSorted
      (fun s => item.serialNumbers.contains s.serialNumber && inTransitSerial transfer item s)
      (fun a b => a.serialNumber ≤ b.serialNumber)
    let receiveSerials := if input.serialNumbers = [] ∧ (input.receivedQty : ℤ) = remaining
      then (underWay.take input.receivedQty).map InventorySerial.serialNumber
      else input.serialNumbers
    require (receiveSerials.length = input.receivedQty) (.badRequest
      ("Penerimaan parsial produk serial wajib menyebut serialNumbers tepat sejumlah " ++
        "receivedQty."))
    require (receiveSerials.all item.serialNumbers.contains)
      (.badRequest "Serial penerimaan bukan bagian dari manifest transfer.")
    let movedSerials ← Db.inventorySerial.updateMany
      (fun s => receiveSerials.contains s.serialNumber && inTransitSerial transfer item s)
      (fun s => { s with
        warehouseId := transfer.destinationWarehouseId, status := .available,
        referenceType := some "StockTransferReceipt",
        referenceId := some s!"{transfer.id}:{item.id}" })
    require (movedSerials = input.receivedQty)
      (.badRequest "Serial in-transit tidak lengkap atau sudah diterima sebelumnya.")

/-- One entry of a receipt. `items` is the snapshot that was read before the first entry: what
remains of an item does not see the entries before this one. -/
def receiveTransferEntry (transfer : StockTransfer) (items : List StockTransferItem)
    (input : ReceiveStockTransferItem) : StockTx Unit := do
  let item ← orThrow (items.find? fun i => i.id = input.transferItemId)
    (.badRequest s!"Item transfer {input.transferItemId} tidak ditemukan.")
  let remaining := item.shippedQty - item.receivedQty
  require ((input.receivedQty : ℤ) ≤ remaining)
    (.badRequest "Jumlah diterima melebihi jumlah dalam perjalanan.")
  if input.receivedQty = 0 then pure () else do
    receiveTransferBatch transfer item input.receivedQty
    receiveTransferSerials transfer item input remaining
    receiveStock transfer.destinationWarehouseId .transferIn "StockTransfer" transfer.id
      ⟨item.productId, input.receivedQty⟩
    let _ ← Db.stockTransferItem.update item.id
      (fun i => { i with receivedQty := i.receivedQty + input.receivedQty }) .recordNotFound

/-- The journal and the outbox row of the receipt are not part of the stock tables. -/
def receiveTransfer (id : ℕ) (inputs : List ReceiveStockTransferItem) : StockTx Unit := do
  let db ← get
  let transfer ← orThrow (db.transfers.find? id) (tenantAccessDenied "StockTransfer")
  require (transfer.status = .shipped ∨ transfer.status = .partiallyReceived)
    (.badRequest "Transfer belum dikirim atau sudah selesai.")
  let items := db.itemsOfTransfer id
  inputs.forM (receiveTransferEntry transfer items)
  let after ← get
  let complete := (after.itemsOfTransfer id).all fun i => i.shippedQty ≤ i.receivedQty
  let received := items.filter fun i =>
    inputs.any fun input => 0 < input.receivedQty && input.transferItemId = i.id
  require (received.all fun i => (after.products.find? i.productId).isSome)
    (tenantAccessDenied "StockTransferProduct")
  let _ ← Db.stockTransfer.update id
    (fun t => { t with status := if complete then .received else .partiallyReceived })
    .recordNotFound

end Mayatoko.Stock
