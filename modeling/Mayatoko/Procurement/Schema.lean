import Mathlib.Algebra.Group.Prod
import Mayatoko.Core.Tally
import Mayatoko.Stock.TransferPosting

/-!
# The procurement tables

The rows that the confirmation and the rejection of goods receipts read and write, next to the
stock and the accounting tables. Which company a product belongs to is left out: the lookup by
tenant can only make a call fail.

`confirm` and `reject` of `GoodsReceiptsService`. A confirmation is one serializable transaction; it
checks the status inside. A rejection reads the receipt first and writes it in a transaction of its
own. Serial numbers are taken as already trimmed.
-/

namespace Mayatoko.Procurement

open Core Stock Accounting Transit

inductive GoodsReceiptOperationalStatus
  | draft
  | pendingInspection
  | readyToConfirm
  | confirmed
  | partiallyAccepted
  | rejected
  | cancelled
  deriving DecidableEq

def GoodsReceiptOperationalStatus.text : GoodsReceiptOperationalStatus → String
  | draft => "DRAFT"
  | pendingInspection => "PENDING_INSPECTION"
  | readyToConfirm => "READY_TO_CONFIRM"
  | confirmed => "CONFIRMED"
  | partiallyAccepted => "PARTIALLY_ACCEPTED"
  | rejected => "REJECTED"
  | cancelled => "CANCELLED"

def GoodsReceiptOperationalStatus.isPosted (s : GoodsReceiptOperationalStatus) : Bool :=
  s = confirmed || s = partiallyAccepted

structure GoodsReceipt where
  (id purchaseOrderId supplierId warehouseId : ℕ)
  operationalStatus : GoodsReceiptOperationalStatus
  inspectionRequired : Bool := true
  inspectionId : Option ℕ := none
  items : List GoodsReceiptItem
  taxTotal : ℚ := 0
  grossTotal : ℚ := 0
  /-- The event of the posting. -/
  accountingEventId : Option (ℕ × String) := none
  notes : Option String := none

inductive PurchaseOrderStatus
  | draft
  | approved
  | partiallyReceived
  | received
  | cancelled

structure PurchaseOrder where
  id : ℕ
  status : PurchaseOrderStatus := .draft

structure PurchaseOrderItem where
  (id purchaseOrderId : ℕ)
  orderedQty : ℤ
  receivedQty : ℤ := 0

structure Supplier where
  (id companyId : ℕ)

inductive InspectionStatus
  | draft
  | inProgress
  | passed
  | partially
  | failed
  | reviewRequired
  | approved
  | rejected
  | cancelled
  deriving DecidableEq

def InspectionStatus.text : InspectionStatus → String
  | draft => "DRAFT"
  | inProgress => "IN_PROGRESS"
  | passed => "PASSED"
  | partially => "PARTIAL"
  | failed => "FAILED"
  | reviewRequired => "REVIEW_REQUIRED"
  | approved => "APPROVED"
  | rejected => "REJECTED"
  | cancelled => "CANCELLED"

structure OperationalInspection where
  (id companyId : ℕ)
  branchId : Option ℕ
  sourceType : String
  sourceId : ℕ
  status : InspectionStatus := .draft
  templateId : Option ℕ := none
  mismatchCount : ℕ := 0
  blockingFailureCount : ℕ := 0

structure OperationPolicy where
  (id companyId : ℕ)
  branchId : Option ℕ
  operationType : String
  enabled : Bool := true
  blockOnMismatch : Bool := true
  requirePhoto : Bool := false
  requireBarcodeScan : Bool := false
  updatedAt : ℕ := 0

inductive ConfirmationStatus
  | pending
  | approved
  | rejected
  | cancelled
  deriving DecidableEq

structure OperationalConfirmation where
  (id companyId : ℕ)
  branchId : Option ℕ
  sourceType : String
  sourceId : ℕ
  confirmationType : String
  status : ConfirmationStatus := .pending

structure ProcurementDb where
  stock : Db
  ledger : AccountingDb
  warehouses : Table Warehouse.id
  suppliers : Table Supplier.id
  orders : Table PurchaseOrder.id
  orderItems : Table PurchaseOrderItem.id
  receipts : Table GoodsReceipt.id
  inspections : Table OperationalInspection.id
  policies : Table OperationPolicy.id
  confirmations : Table OperationalConfirmation.id

abbrev ProcurementTx := Tx ProcurementDb Failure

namespace ProcurementDb

def stockPart : Part ProcurementDb Db where
  get := ProcurementDb.stock
  set := fun db stock => { db with stock }

def ledgerPart : Part ProcurementDb AccountingDb where
  get := ProcurementDb.ledger
  set := fun db ledger => { db with ledger }

def purchaseOrder : TableOf ProcurementDb PurchaseOrder.id :=
  ⟨ProcurementDb.orders, fun db t => { db with orders := t }⟩

def purchaseOrderItem : TableOf ProcurementDb PurchaseOrderItem.id :=
  ⟨ProcurementDb.orderItems, fun db t => { db with orderItems := t }⟩

def goodsReceipt : TableOf ProcurementDb GoodsReceipt.id :=
  ⟨ProcurementDb.receipts, fun db t => { db with receipts := t }⟩

def operationalConfirmation : TableOf ProcurementDb OperationalConfirmation.id :=
  ⟨ProcurementDb.confirmations, fun db t => { db with confirmations := t }⟩

end ProcurementDb

open ProcurementDb

structure ConfirmGoodsReceipt where
  inspectionId : Option ℕ := none
  notes : Option String := none

def findReceipt (scope : TenantScope) (id : ℕ) (e : Failure) : ProcurementTx GoodsReceipt := do
  let db ← get
  orThrow ((db.receipts.find? id).filter fun r =>
    (db.warehouses.find? r.warehouseId).any (fun w =>
      w.branchId = scope.branchId && w.companyId = scope.companyId) &&
    (db.suppliers.find? r.supplierId).any fun s => s.companyId = scope.companyId) e

/-! ### Checks -/

/-- The policy of the branch for purchase receipts; rows without a branch come first. -/
def ProcurementDb.receiptPolicy (db : ProcurementDb) (scope : TenantScope) :
    Option OperationPolicy :=
  db.policies.findFirst
    (fun p => p.companyId = scope.companyId && p.operationType = "PURCHASE_RECEIPT" && p.enabled &&
      (p.branchId = some scope.branchId || p.branchId = none))
    (fun a b => a.branchId.isNone && b.branchId.isSome ||
      a.branchId = b.branchId && b.updatedAt ≤ a.updatedAt)

def checkInspection (scope : TenantScope) (receipt : GoodsReceipt) (inspectionId : Option ℕ) :
    ProcurementTx Unit :=
  if receipt.inspectionRequired then do
    let id ← orThrow inspectionId (.badRequest "Pemeriksaan barang wajib.")
    let db ← get
    let inspection ← orThrow ((db.inspections.find? id).filter fun i =>
        i.companyId = scope.companyId && i.branchId = some scope.branchId &&
          i.sourceType = "GoodsReceipt" && i.sourceId = receipt.id)
      (.badRequest "Pemeriksaan tidak sesuai penerimaan.")
    require (inspection.status ∈ [.passed, .partially, .approved]) (.badRequest
      s!"Pemeriksaan berstatus {inspection.status.text} dan belum dapat dikonfirmasi.")
    require (¬ ((db.receiptPolicy scope).all OperationPolicy.blockOnMismatch = true ∧
        inspection.status = .partially)) (.badRequest
      ("Penerimaan memiliki mismatch dan harus disetujui terlebih dahulu sebelum stok/jurnal " ++
        "diposting."))
  else pure ()

/-- The first serial number of a list that has been seen before. -/
def firstDuplicate : List String → List String → Option String
  | _, [] => none
  | seen, s :: rest => if s ∈ seen then some s else firstDuplicate (s :: seen) rest

/-- The serial numbers of the items of a receipt; `seen` are those of the items before. -/
def checkSerials (seen : List String) : List GoodsReceiptItem → ProcurementTx (List String)
  | [] => pure seen
  | item :: rest => do
    let db ← get
    let name := db.stock.productName item.productId
    if (db.stock.products.find? item.productId).any Product.trackSerial then do
      require (item.serialNumbers.length = item.acceptedQty) (.badRequest
        (s!"Serial {name} tidak lengkap: butuh {item.acceptedQty}, tersimpan " ++
          s!"{item.serialNumbers.length}."))
      refuse (firstDuplicate seen item.serialNumbers) fun s =>
        .badRequest s!"Serial {s} duplikat dalam dokumen penerimaan."
      checkSerials (seen ++ item.serialNumbers) rest
    else do
      require (item.serialNumbers = []) (.badRequest
        s!"Produk {name} tidak memakai serial tetapi dokumen menyimpan serialNumbers.")
      checkSerials seen rest

def checkNewSerials (serials : List String) : ProcurementTx Unit := do
  let db ← get
  let existing := db.stock.serials.findMany fun s => serials.contains s.serialNumber
  let numbers := ", ".intercalate (existing.map InventorySerial.serialNumber)
  require (existing = []) (.badRequest s!"Serial sudah terdaftar: {numbers}.")

/-- The `Map` from the items of the order to their accepted quantities. -/
def acceptedByPoItem (items : List GoodsReceiptItem) : Table (Prod.fst : ℕ × ℤ → ℕ) :=
  tally GoodsReceiptItem.purchaseOrderItemId (fun i => (i.acceptedQty : ℤ)) items

def checkRemaining (purchaseOrderId : ℕ) (accepted : ℕ × ℤ) : ProcurementTx Unit := do
  let db ← get
  let poItem ← orThrow
    ((db.orderItems.find? accepted.1).filter fun i => i.purchaseOrderId = purchaseOrderId)
    (.badRequest s!"Item PO {accepted.1} tidak ditemukan saat konfirmasi.")
  let remaining := poItem.orderedQty - poItem.receivedQty
  require (accepted.2 ≤ remaining) (.badRequest
    (s!"Jumlah diterima untuk item PO {accepted.1} melebihi sisa PO ({remaining}). Buat " ++
      "penerimaan baru sesuai sisa yang valid."))

/-! ### Postings -/

def confirmItem (receipt : GoodsReceipt) (item : GoodsReceiptItem) : ProcurementTx Unit := do
  let _ ← purchaseOrderItem.update item.purchaseOrderItemId
    (fun i => { i with receivedQty := i.receivedQty + item.acceptedQty }) .recordNotFound
  stockPart.lift (receiveGoodsItem receipt.warehouseId receipt.id item)

def updateOrder (purchaseOrderId : ℕ) : ProcurementTx Unit := do
  let db ← get
  let complete := (db.orderItems.findMany fun i => i.purchaseOrderId = purchaseOrderId).all
    fun i => i.orderedQty ≤ i.receivedQty
  let _ ← purchaseOrder.update purchaseOrderId
    (fun o => { o with status := if complete then .received else .partiallyReceived })
    .recordNotFound

def GoodsReceipt.net (r : GoodsReceipt) : ℚ := (r.items.map GoodsReceiptItem.subtotal).sum

def GoodsReceipt.tax (r : GoodsReceipt) : ℚ := (r.items.map GoodsReceiptItem.taxAmount).sum

def GoodsReceipt.gross (r : GoodsReceipt) : ℚ := (r.items.map GoodsReceiptItem.grossSubtotal).sum

def GoodsReceipt.taxLines (r : GoodsReceipt) : List TaxLine :=
  let taxed := r.items.filter fun i => i.taxCodeId.isSome && 0 < i.taxAmount
  let groups := tally (fun i : GoodsReceiptItem => i.taxCodeId.getD 0)
    (fun i => ((i.subtotal, i.taxAmount) : ℚ × ℚ)) taxed
  groups.rows.map fun g => ⟨g.1, .input, g.2.1, g.2.2⟩

def receiptEvent (scope : TenantScope) (r : GoodsReceipt) : PostOperationalEventInput where
  companyId := scope.companyId
  branchId := scope.branchId
  eventType := "PURCHASE_RECEIPT_CREDIT"
  sourceType := "GoodsReceipt"
  sourceId := toString r.id
  idempotencyKey := s!"goods-receipt-confirm:{r.id}"
  amounts := [("inventory", r.net), ("inputTax", r.tax), ("payable", r.gross), ("gross", r.gross),
    ("net", r.net), ("tax", r.tax)]
  accountCodes := [("inventory", "1301"), ("inputTax", "1205"), ("payable", "2101")]
  taxLines := r.taxLines

def confirm (scope : TenantScope) (id : ℕ) (dto : ConfirmGoodsReceipt) :
    ProcurementTx GoodsReceipt := do
  let receipt ← findReceipt scope id (.notFound "Penerimaan barang tidak ditemukan.")
  if receipt.operationalStatus.isPosted then pure receipt else do
    require (receipt.operationalStatus ≠ .rejected ∧ receipt.operationalStatus ≠ .cancelled)
      (.badRequest s!"Penerimaan berstatus {receipt.operationalStatus.text}.")
    let inspectionId := dto.inspectionId.or receipt.inspectionId
    checkInspection scope receipt inspectionId
    let serials ← checkSerials [] receipt.items
    checkNewSerials serials
    (acceptedByPoItem receipt.items).rows.forM (checkRemaining receipt.purchaseOrderId)
    receipt.items.forM (confirmItem receipt)
    updateOrder receipt.purchaseOrderId
    let event ← ledgerPart.lift (postOperationalEvent (receiptEvent scope receipt))
    let partially := receipt.items.any fun i => 0 < i.quantityDamaged
    let _ ← operationalConfirmation.updateMany
      (fun c => c.sourceType = "GoodsReceipt" && c.sourceId = receipt.id &&
        c.confirmationType = "GOODS_RECEIPT_CONFIRMATION" && c.status = .pending)
      (fun c => { c with status := .approved })
    goodsReceipt.update receipt.id
      (fun r => { r with
        operationalStatus := if partially then .partiallyAccepted else .confirmed, inspectionId,
        accountingEventId := some event.key, taxTotal := receipt.tax, grossTotal := receipt.gross,
        notes := dto.notes.or receipt.notes }) .recordNotFound

/-- The first half of `reject`: the status is read outside the transaction that writes. -/
def readForRejection (scope : TenantScope) (id : ℕ) : ProcurementTx Unit := do
  let receipt ← findReceipt scope id (tenantAccessDenied "GoodsReceipt")
  require (receipt.operationalStatus.isPosted = false)
    (.badRequest "Penerimaan yang sudah diposting harus diretur/reversal, bukan ditolak.")

/-- The second half of `reject`. -/
def writeRejection (id : ℕ) (reason : String) : ProcurementTx GoodsReceipt := do
  let _ ← operationalConfirmation.updateMany
    (fun c => c.sourceType = "GoodsReceipt" && c.sourceId = id && c.status = .pending)
    (fun c => { c with status := .rejected })
  goodsReceipt.update id
    (fun r => { r with operationalStatus := .rejected, notes := some reason }) .recordNotFound

end Mayatoko.Procurement
