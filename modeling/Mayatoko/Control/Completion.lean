import Mayatoko.Control.Inspections

/-!
# The completion and the approval of inspections

`completeInspection` checks the rows of a client against the source of the inspection and replaces the stored
rows by them; a counter of scans is taken from the row that had the same code when the rows were read.
`approveInspection` decides by the status that it has read. Audit and outbox rows, and the summary, are left
out.
-/

namespace Mayatoko.Control

open Core Procurement Finance
open Transit (TenantScope)
open Orders (Shipment)

/-! ### The checklist -/

def isDecision (r : InspectionResultCode) : Bool := r = .pass || r = .fail

def checkTemplateItems (inspection : OperationalInspection) (results : List InspectionResult) :
    InspectionService Unit := do
  let templateIds := (results.filterMap InspectionResult.templateItemId).eraseDups
  if templateIds = [] then pure () else do
    let count ← query fun d => (d.templateItems.findMany fun t =>
      t.id ∈ templateIds && some t.templateId = inspection.templateId).length
    check (count = templateIds.length) (tenantAccessDenied "InspectionTemplateItem")

def readTemplate (inspection : OperationalInspection) : InspectionService (List InspectionTemplateItem) :=
  query fun d => d.templateItems.findMany fun t => some t.templateId = inspection.templateId

def checkRequired (results : List InspectionResult) (item : InspectionTemplateItem) :
    InspectionService Unit := do
  let submitted ← expect (results.find? fun r => r.templateItemId = some item.id)
    (.badRequest s!"Checklist wajib {item.label} tidak boleh dihilangkan.")
  check (isDecision submitted.result = true) (.badRequest
    s!"Checklist wajib {item.label} harus diputuskan PASS atau FAIL sebelum inspeksi diselesaikan.")

/-- Once the checklist has been stored, none of its required items may be left out. -/
def checkChecklist (persisted : List InspectionResultItem) (template : List InspectionTemplateItem)
    (results : List InspectionResult) : InspectionService Unit :=
  if persisted.any fun r => r.templateItemId.isSome then
    (template.filter InspectionTemplateItem.required).forM (checkRequired results)
  else pure ()

/-! ### Goods receipts -/

namespace InspectionResult

variable (r : InspectionResult)

def accepted : ℤ := r.acceptedQty.getD 0

def rejected : ℤ := r.rejectedQty.getD 0

def damaged : ℤ := r.damagedQty.getD 0

def missing : ℤ := r.missingQty.getD 0

def extra : ℤ := r.extraQty.getD 0

/-- What was damaged in a receipt: what was rejected, unless it says otherwise. -/
def damagedReceived : ℤ := r.damagedQty.getD r.rejected

end InspectionResult

def rowsOf (results : List InspectionResult) (productId : ℕ) : List InspectionResult :=
  results.filter fun r => r.productId = some productId

def checkReceived (items : List Stock.GoodsReceiptItem) (result : InspectionResult) : InspectionService Unit :=
  match result.productId with
  | none => pure ()
  | some productId => do
    check (items.any (·.productId = productId) = true)
      (.badRequest s!"Produk inspeksi {productId} tidak termasuk dalam penerimaan barang.")
    check (0 ≤ result.accepted ∧ 0 ≤ result.rejected ∧ 0 ≤ result.damagedReceived)
      (.badRequest "Kuantitas hasil inspeksi tidak boleh negatif.")

def checkReceivedProduct (items : List Stock.GoodsReceiptItem) (results : List InspectionResult)
    (productId : ℕ) : InspectionService Unit :=
  let expected := items.filter (·.productId = productId)
  let actual := rowsOf results productId
  check (actual ≠ [] ∧
      (actual.map fun r => r.accepted + r.rejected).sum =
        (expected.map fun i => (i.quantityReceived : ℤ)).sum ∧
      (actual.map InspectionResult.accepted).sum = (expected.map fun i => (i.acceptedQty : ℤ)).sum ∧
      (actual.map InspectionResult.damagedReceived).sum =
        (expected.map fun i => (i.quantityDamaged : ℤ)).sum)
    (.badRequest s!"Hasil inspeksi produk {productId} tidak sesuai dengan kuantitas Goods Receipt.")

def checkReceipt (scope : TenantScope) (receiptId : ℕ) (results : List InspectionResult) :
    InspectionService Unit := do
  let found ← query fun d => (d.finance.procurement.receipts.find? receiptId).filter fun r =>
    d.hasWarehouse scope r.warehouseId &&
      (d.finance.procurement.suppliers.find? r.supplierId).any (·.companyId = scope.companyId)
  let receipt ← expect found (tenantAccessDenied "GoodsReceipt")
  results.forM (checkReceived receipt.items)
  ((receipt.items.map (·.productId)).eraseDups).forM (checkReceivedProduct receipt.items results)

def returnItemCode (item : OrderReturnItem) : String := s!"ORDER_RETURN_ITEM:{item.id}"

/-- The row by which an item is checked: the first one of its code. -/
def validatedResult (results : List InspectionResult) (item : OrderReturnItem) : Option InspectionResult :=
  results.find? fun r => r.code = returnItemCode item

def checkReturnItem (results : List InspectionResult) (item : OrderReturnItem) : InspectionService Unit := do
  let code := returnItemCode item
  let result ← expect (validatedResult results item) (.badRequest s!"Hasil inspeksi {code} wajib diisi.")
  check (result.expectedQty.getD item.quantity = item.quantity ∧ 0 ≤ result.accepted ∧ 0 ≤ result.rejected ∧
      0 ≤ result.damaged ∧ 0 ≤ result.missing ∧ 0 ≤ result.extra)
    (.badRequest s!"Kuantitas inspeksi {code} tidak valid.")
  check (result.accepted + result.rejected = item.quantity ∧ result.missing = 0 ∧ result.extra = 0 ∧
      result.damaged ≤ result.accepted) (.badRequest
    (s!"Hasil inspeksi {code} harus mencakup tepat {item.quantity} unit tanpa kuantitas " ++ "hilang/lebih."))
  check (isDecision result.result = true)
    (.badRequest s!"Hasil inspeksi {code} harus diputuskan PASS atau FAIL.")

def checkReturn (scope : TenantScope) (returnId : ℕ) (results : List InspectionResult) :
    InspectionService Unit := do
  let found ← query fun d => (d.finance.orderReturns.find? returnId).filter fun r =>
    r.companyId = scope.companyId && r.branchId = scope.branchId
  let orderReturn ← expect found (tenantAccessDenied "OrderReturn")
  orderReturn.items.forM (checkReturnItem results)

def checkShipped (order : Finance.Order) (result : InspectionResult) : InspectionService Unit :=
  match result.productId with
  | none => pure ()
  | some productId => do
    check (order.items.any (·.productId = productId) = true)
      (.badRequest s!"Produk inspeksi {productId} tidak termasuk shipment.")
    let expected := result.expectedQty.getD 0
    check (result.acceptedQty.getD expected = expected ∧ result.rejected = 0 ∧ result.damaged = 0 ∧
        result.missing = 0 ∧ result.extra = 0 ∧ result.result = .pass) (.badRequest
      (s!"Shipment saat ini hanya mendukung fulfillment penuh; hasil inspeksi {productId} harus PASS " ++
        "tanpa mismatch."))

def checkShippedProduct (order : Finance.Order) (results : List InspectionResult) (productId : ℕ) :
    InspectionService Unit :=
  let rows := rowsOf results productId
  check (rows ≠ [] ∧ (rows.map fun r => r.expectedQty.getD 0).sum =
      ((order.items.filter (·.productId = productId)).map fun i => (i.quantity : ℤ)).sum)
    (.badRequest s!"Manifest inspeksi produk {productId} tidak sesuai dengan order.")

def checkShipment (scope : TenantScope) (shipmentId : ℕ) (results : List InspectionResult) :
    InspectionService Unit := do
  let (_, order) ← shippedOrder scope shipmentId
  results.forM (checkShipped order)
  ((order.items.map Finance.OrderItem.productId).eraseDups).forM (checkShippedProduct order results)

def checkSource (scope : TenantScope) (inspection : OperationalInspection) (results : List InspectionResult) :
    InspectionService Unit :=
  if inspection.sourceType = "GoodsReceipt" then checkReceipt scope inspection.sourceId results
  else if inspection.sourceType = "OrderReturn" then checkReturn scope inspection.sourceId results
  else if inspection.sourceType = "Shipment" then checkShipment scope inspection.sourceId results
  else pure ()

/-! ### What a completion writes -/

/-- A failure that blocks, by the severity of the template item, if the row has one. -/
def blocks (template : List InspectionTemplateItem) (templateItemId : Option ℕ)
    (result : InspectionResultCode) : Bool :=
  result = .fail && templateItemId.all fun id =>
    (template.find? fun t => t.id = id).any (·.failureSeverity = "BLOCKING")

def blockingFailures (template : List InspectionTemplateItem) (results : List InspectionResult) : ℕ :=
  results.countP fun r => blocks template r.templateItemId r.result

def warningFailures (template : List InspectionTemplateItem) (results : List InspectionResult) : ℕ :=
  results.countP (fun r => r.result = .fail) - blockingFailures template results

def mismatches (results : List InspectionResult) : ℕ :=
  results.countP fun r => 0 < r.missing || 0 < r.extra || 0 < r.damaged

def completionStatus (template : List InspectionTemplateItem) (results : List InspectionResult) :
    InspectionStatus :=
  if 0 < blockingFailures template results then .failed
  else if 0 < mismatches results then .partially
  else if 0 < warningFailures template results then .reviewRequired
  else .passed

def scanCounter (persisted : List InspectionResultItem) (r : InspectionResult) : Option ℤ :=
  (((persisted.filter fun row => row.code = r.code).getLast?).bind InspectionResultItem.scannedQty).or
    r.scannedQty

def InspectionResult.row (r : InspectionResult) (persisted : List InspectionResultItem)
    (inspectionId id : ℕ) : InspectionResultItem where
  id := id
  inspectionId := inspectionId
  templateItemId := r.templateItemId
  code := r.code
  label := r.label
  result := r.result
  productId := r.productId
  expectedQty := r.expectedQty
  scannedQty := scanCounter persisted r
  acceptedQty := r.acceptedQty
  rejectedQty := r.rejectedQty
  damagedQty := r.damagedQty
  missingQty := r.missingQty
  extraQty := r.extraQty

def createResult (inspectionId : ℕ) (persisted : List InspectionResultItem) (r : InspectionResult) :
    ControlTx Unit := do
  let id ← ControlDb.financePart.lift FinanceDb.freshId
  ControlDb.inspectionResultItem.create (r.row persisted inspectionId id) .uniqueViolation

def CompletionEvidence.row (e : CompletionEvidence) (inspectionId : ℕ) : InspectionEvidence where
  inspectionId := inspectionId
  evidenceType := e.evidenceType
  verifiedByServer := e.verifiedByServer
  legacyUnverified := true

def createEvidence (inspectionId : ℕ) (evidence : List CompletionEvidence) : ControlTx Unit := do
  let d ← get
  set { d with evidence := d.evidence ++ evidence.map (CompletionEvidence.row · inspectionId) }

def complete (template : List InspectionTemplateItem) (results : List InspectionResult)
    (i : OperationalInspection) : OperationalInspection :=
  { i with
    status := completionStatus template results
    mismatchCount := mismatches results
    blockingFailureCount := blockingFailures template results }

def writeCompletion (id : ℕ) (persisted : List InspectionResultItem) (template : List InspectionTemplateItem)
    (dto : CompleteInspection) : ControlTx Unit := do
  ControlDb.inspectionResultItem.deleteMany fun r => r.inspectionId = id
  dto.results.forM (createResult id persisted)
  createEvidence id dto.evidence
  let _ ← ControlDb.inspection.update id (complete template dto.results) .recordNotFound

def completeInspection (scope : TenantScope) (id : ℕ) (dto : CompleteInspection) : InspectionService Unit := do
  let inspection ← scopedOperationalInspection scope id
  check (isDecided inspection.status = false) (.badRequest s!"Pemeriksaan sudah {inspection.status.text}.")
  enforceInspectionEvidencePolicy inspection
  let persisted ← query fun d => d.resultsOf id
  checkTemplateItems inspection dto.results
  let template ← readTemplate inspection
  checkChecklist persisted template dto.results
  checkSource scope inspection dto.results
  transaction (.completed id persisted dto.results) (writeCompletion id persisted template dto)

/-! ### The approval -/

/-- The inspection has been completed, and not been decided on. -/
def isCompleted (s : InspectionStatus) : Bool :=
  s = .passed || s = .partially || s = .failed || s = .reviewRequired

def decision (s : InspectionStatus) : InspectionStatus := if s = .failed then .rejected else .approved

def decideAs (status : InspectionStatus) (i : OperationalInspection) : OperationalInspection :=
  { i with status }

def writeDecision (id : ℕ) (status : InspectionStatus) : ControlTx Unit := do
  let _ ← ControlDb.inspection.update id (decideAs status) .recordNotFound

def approveInspection (scope : TenantScope) (id : ℕ) : InspectionService Unit := do
  let inspection ← scopedOperationalInspection scope id
  check (isCompleted inspection.status = true) (.badRequest "Pemeriksaan belum selesai.")
  transaction (.approved id (decision inspection.status)) (writeDecision id (decision inspection.status))

end Mayatoko.Control
