import Mayatoko.Accounting.OperationalEvent
import Mayatoko.Core.Part
import Mayatoko.Stock.Transfer

/-!
# Approval and valuation of stock transfers

`approveTransfer`, `shipTransfer` and `receiveTransfer` of `AdvancedInventoryService` with the
warehouses that the tenant scope looks at and the events that shipment and receipt post. The stock
part of the last two is the one of the stock tables. Approval reads the transfer first and writes it
in a transaction of its own.
-/

namespace Mayatoko.Transit

open Core Accounting Stock

structure TenantScope where
  (companyId branchId : ℕ)
  deriving DecidableEq

structure Warehouse where
  (id branchId companyId : ℕ)

structure TransitDb where
  stock : Db
  ledger : AccountingDb
  warehouses : Table Warehouse.id

abbrev TransitTx := Tx TransitDb Failure

def stockPart : Part TransitDb Db where
  get := TransitDb.stock
  set := fun db stock => { db with stock }

def ledgerPart : Part TransitDb AccountingDb where
  get := TransitDb.ledger
  set := fun db ledger => { db with ledger }

/-- A warehouse of the company, and of the branch of the scope where `ofBranch` says so. -/
def findWarehouse (scope : TenantScope) (ofBranch : Bool) (id : ℕ) : TransitTx Warehouse := do
  let db ← get
  orThrow ((db.warehouses.find? id).filter fun w =>
      w.companyId = scope.companyId && (!ofBranch || w.branchId = scope.branchId))
    (tenantAccessDenied "Warehouse")

def findTransfer (scope : TenantScope) (id : ℕ) (ofSource : Bool) :
    TransitTx (StockTransfer × Warehouse × Warehouse) := do
  let db ← get
  let row ← orThrow (db.stock.transfers.find? id) (tenantAccessDenied "StockTransfer")
  let source ← findWarehouse scope ofSource row.sourceWarehouseId
  let destination ← findWarehouse scope (!ofSource) row.destinationWarehouseId
  pure (row, source, destination)

def statusText : StockTransferStatus → String
  | .draft => "DRAFT"
  | .requested => "REQUESTED"
  | .approved => "APPROVED"
  | .picking => "PICKING"
  | .shipped => "SHIPPED"
  | .partiallyReceived => "PARTIALLY_RECEIVED"
  | .received => "RECEIVED"
  | .rejected => "REJECTED"
  | .cancelled => "CANCELLED"

/-- The first half of `approveTransfer`: the status is read outside the transaction that writes. -/
def readForApproval (scope : TenantScope) (id : ℕ) : TransitTx Unit := do
  let (transfer, _, _) ← findTransfer scope id true
  require (transfer.status = .draft ∨ transfer.status = .requested)
    (.badRequest s!"Transfer berstatus {statusText transfer.status}.")

/-- The second half of `approveTransfer`. -/
def writeApproval (id : ℕ) : TransitTx Unit :=
  stockPart.lift do
    let _ ← Db.stockTransfer.update id (fun t => { t with status := .approved }) .recordNotFound

/-! ### Shipment and receipt -/

def costPrice (db : Db) (productId : ℕ) : ℚ :=
  (db.products.find? productId).elim 0 Product.costPrice

def shippedValue (costPrice : ℕ → ℚ) (items : List StockTransferItem) : ℚ :=
  (items.map fun item => costPrice item.productId * item.quantity).sum

def shippedEvent (scope : TenantScope) (source : Warehouse) (transferId : ℕ) (value : ℚ) :
    PostOperationalEventInput where
  companyId := scope.companyId
  branchId := source.branchId
  eventType := "STOCK_TRANSFER_SHIPPED"
  sourceType := "StockTransfer"
  sourceId := toString transferId
  idempotencyKey := s!"stock-transfer-shipped:{transferId}"
  amounts := [("gross", value)]
  accountCodes := [("debit", "1302"), ("credit", "1301")]

/-- The status is written before the posting; inside one transaction the order does not show. -/
def shipTransfer (scope : TenantScope) (id : ℕ) : TransitTx Unit := do
  let db ← get
  let (_, source, _) ← findTransfer scope id true
  stockPart.lift (Stock.shipTransfer id)
  let value := shippedValue (costPrice db.stock) (db.stock.itemsOfTransfer id)
  if 0 < value then do
    let _ ← ledgerPart.lift (postOperationalEvent (shippedEvent scope source id value))
  else pure ()

/-- The value of the entries of a receipt; an entry of a product without a cost counts as zero. -/
def receivedValue (costPrice : ℕ → ℚ) (items : List StockTransferItem)
    (inputs : List ReceiveStockTransferItem) : ℚ :=
  (inputs.map fun input =>
    (items.find? fun i => i.id = input.transferItemId).elim 0 fun item =>
      costPrice item.productId * input.receivedQty).sum

def receivedEvent (scope : TenantScope) (destination : Warehouse) (transferId : ℕ)
    (receiptSequence : ℤ) (value : ℚ) : PostOperationalEventInput where
  companyId := scope.companyId
  branchId := destination.branchId
  eventType := "STOCK_TRANSFER_RECEIVED"
  sourceType := "StockTransferReceipt"
  sourceId := s!"{transferId}:{receiptSequence}"
  idempotencyKey := s!"stock-transfer-received:{transferId}:{receiptSequence}"
  amounts := [("gross", value)]
  accountCodes := [("debit", "1301"), ("credit", "1302")]

def receiveTransfer (scope : TenantScope) (id : ℕ) (inputs : List ReceiveStockTransferItem) :
    TransitTx Unit := do
  let db ← get
  let (_, _, destination) ← findTransfer scope id false
  stockPart.lift (Stock.receiveTransfer id inputs)
  let after ← get
  let value := receivedValue (costPrice db.stock) (db.stock.itemsOfTransfer id) inputs
  let receiptSequence := ((after.stock.itemsOfTransfer id).map StockTransferItem.receivedQty).sum
  if 0 < value then do
    let _ ← ledgerPart.lift
      (postOperationalEvent (receivedEvent scope destination id receiptSequence value))
  else pure ()

def transitRule (id : ℕ) (eventType : String) : AccountingPostingRule where
  id := id
  companyId := 1
  code := eventType
  eventType := eventType
  status := .active
  journalLines := [
    { accountCodeKey := "debit", side := "DEBIT", amountKey := "gross" },
    { accountCodeKey := "credit", side := "CREDIT", amountKey := "gross" }]

def tenUnits : TransitDb where
  stock := { Db.empty with
    products := Table.empty.put { id := 1, name := "Beras", costPrice := 100 }
    inventory := Table.empty.put
      { warehouseId := 1, productId := 1, quantity := 10, available := 10 }
    transfers := Table.empty.put
      { id := 1, sourceWarehouseId := 1, destinationWarehouseId := 2, status := .requested }
    transferItems := Table.empty.put { id := 1, transferId := 1, productId := 1, quantity := 4 } }
  ledger := { AccountingDb.empty with
    postingRules := (Table.empty.put (transitRule 1 "STOCK_TRANSFER_SHIPPED")).put
      (transitRule 2 "STOCK_TRANSFER_RECEIVED")
    accounts := (Table.empty.put ⟨1, 1, "1301", true⟩).put ⟨2, 1, "1302", true⟩ }
  warehouses := (Table.empty.put ⟨1, 1, 1⟩).put ⟨2, 1, 1⟩

end Mayatoko.Transit
