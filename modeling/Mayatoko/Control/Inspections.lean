import Mayatoko.Core.Protocol
import Mayatoko.Finance.OrderReturns
import Mayatoko.Orders.Schema

/-!
# Inspections

`addInspectionEvidence`, `completeInspection` and `approveInspection` of `OperationsControlService`. Each
reads what it decides on in one query after the other, outside a transaction, and writes by id in a
transaction of its own. What the files of an evidence contain, and where they are stored, is left out: it can
only make a call fail. So are the coordinates and the metadata of a client, apart from the key that the
policy looks at. Scanned values are taken as already trimmed.
-/

namespace Mayatoko.Control

open Core Procurement Finance
open Transit (TenantScope)
open Orders (Shipment)

/-! ### The tables -/

structure InspectionEvidence where
  inspectionId : ℕ
  evidenceType : String
  /-- The product and the serial number that the server found for a scanned value. -/
  productId : Option ℕ := none
  serialNumber : Option String := none
  verifiedByServer : Bool
  /-- It came with a completion. -/
  legacyUnverified : Bool := false

structure InspectionTemplateItem where
  (id templateId : ℕ)
  label : String
  required : Bool := true
  failureSeverity : String := "BLOCKING"

structure ControlDb where
  finance : FinanceDb
  shipments : Table Shipment.id
  evidence : List InspectionEvidence
  templateItems : Table InspectionTemplateItem.id

abbrev ControlTx := Tx ControlDb Failure

namespace ControlDb

def financePart : Part ControlDb FinanceDb where
  get := ControlDb.finance
  set := fun d finance => { d with finance }

def inspections (d : ControlDb) : Table OperationalInspection.id := d.finance.procurement.inspections

def results (d : ControlDb) : Table InspectionResultItem.id := d.finance.inspectionResults

def products (d : ControlDb) : Table Stock.Product.id := d.finance.procurement.stock.products

def serials (d : ControlDb) : Table Stock.InventorySerial.serialNumber := d.finance.procurement.stock.serials

def inspection : TableOf ControlDb OperationalInspection.id :=
  ⟨inspections, fun d t => { d with finance.procurement.inspections := t }⟩

def inspectionResultItem : TableOf ControlDb InspectionResultItem.id :=
  ⟨results, fun d t => { d with finance.inspectionResults := t }⟩

def inventorySerial : TableOf ControlDb Stock.InventorySerial.serialNumber :=
  ⟨serials, fun d t => { d with finance.procurement.stock.serials := t }⟩

def resultsOf (d : ControlDb) (id : ℕ) : List InspectionResultItem :=
  d.results.findMany fun r => r.inspectionId = id

def productsOf (d : ControlDb) (ids : List ℕ) : List Stock.Product := ids.filterMap d.products.find?

def hasWarehouse (d : ControlDb) (scope : TenantScope) (id : ℕ) : Bool :=
  (d.finance.procurement.warehouses.find? id).any fun w =>
    w.branchId = scope.branchId && w.companyId = scope.companyId

def empty : ControlDb where
  finance := .empty
  shipments := .empty
  evidence := []
  templateItems := .empty

end ControlDb

/-! ### The requests -/

inductive EvidenceType
  | photo
  | barcode
  | document
  | signature
  deriving DecidableEq

def EvidenceType.text : EvidenceType → String
  | photo => "PHOTO"
  | barcode => "BARCODE"
  | document => "DOCUMENT"
  | signature => "SIGNATURE"

structure AddInspectionEvidence where
  evidenceType : EvidenceType
  value : Option String := none

structure InspectionResult where
  templateItemId : Option ℕ := none
  code : String
  label : String := ""
  result : InspectionResultCode
  productId : Option ℕ := none
  expectedQty : Option ℤ := none
  scannedQty : Option ℤ := none
  acceptedQty : Option ℤ := none
  rejectedQty : Option ℤ := none
  damagedQty : Option ℤ := none
  missingQty : Option ℤ := none
  extraQty : Option ℤ := none
  deriving DecidableEq

structure CompletionEvidence where
  evidenceType : String
  verifiedByServer : Bool := false

structure CompleteInspection where
  results : List InspectionResult
  evidence : List CompletionEvidence := []

/-! ### The services -/

inductive InspectionLabel
  | looked
  | evidenced (id : ℕ) (productId : Option ℕ) (serialNumber : Option String)
  | completed (id : ℕ) (persisted : List InspectionResultItem) (results : List InspectionResult)
  | approved (id : ℕ) (status : InspectionStatus)

abbrev InspectionService := Service InspectionLabel ControlDb Failure

def query {α : Type} (f : ControlDb → α) : InspectionService α := lookup .looked f

/-- A transaction as a step with the label `l`. -/
def transaction {α : Type} (l : InspectionLabel) (x : ControlTx α) : InspectionService α :=
  atomically (fun r => match r with
    | .ok _ => l
    | .error _ => .looked) x

def isDecided (s : InspectionStatus) : Bool := s = .approved || s = .rejected || s = .cancelled

def scopedOperationalInspection (scope : TenantScope) (id : ℕ) : InspectionService OperationalInspection := do
  let found ← query fun d => (d.inspections.find? id).filter fun i =>
    i.companyId = scope.companyId && i.branchId = some scope.branchId
  expect found (tenantAccessDenied "OperationalInspection")

def shippedOrder (scope : TenantScope) (shipmentId : ℕ) : InspectionService (Shipment × Finance.Order) := do
  let found ← query fun d => d.shipments.find? shipmentId
  let shipment ← expect found (tenantAccessDenied "Shipment")
  let orderId ← expect shipment.orderId (tenantAccessDenied "Shipment")
  let here ← query fun d => d.hasWarehouse scope shipment.warehouseId
  check (here = true) (tenantAccessDenied "Shipment")
  let found ← query fun d => (d.finance.orders.find? orderId).filter fun o =>
    o.companyId = scope.companyId && o.branchId = scope.branchId
  let order ← expect found (tenantAccessDenied "Order")
  pure (shipment, order)

/-! ### Evidence -/

structure Scan where
  productId : ℕ
  serialNumber : Option String := none

def scanReceipt (scope : TenantScope) (receiptId : ℕ) (value : String) : InspectionService Scan := do
  let found ← query fun d => ((d.finance.procurement.receipts.find? receiptId).filter fun r =>
    d.hasWarehouse scope r.warehouseId).map fun r => d.productsOf (r.items.map (·.productId))
  let products ← expect found (tenantAccessDenied "GoodsReceipt")
  let matched ← expect (products.find? fun p => p.barcode = some value || p.sku = value)
    (.badRequest "Barcode/SKU tidak termasuk dalam Goods Receipt ini.")
  pure { productId := matched.id }

def scanReturn (scope : TenantScope) (returnId : ℕ) (value : String) : InspectionService Scan := do
  let found ← query fun d => ((d.finance.orderReturns.find? returnId).filter fun r =>
    r.companyId = scope.companyId && r.branchId = scope.branchId).map fun r =>
      d.productsOf (r.items.map OrderReturnItem.productId)
  let products ← expect found (tenantAccessDenied "OrderReturn")
  let matched ← expect
    (products.find? fun p => p.sku = value || p.barcode = some value || value ∈ p.barcodes)
    (.badRequest "Barcode/SKU tidak termasuk dalam retur order ini.")
  pure { productId := matched.id }

def serialStatusText : Stock.SerialStatus → String
  | .available => "AVAILABLE"
  | .inTransit => "IN_TRANSIT"
  | .reserved => "RESERVED"
  | .sold => "SOLD"
  | .returned => "RETURNED"
  | .consumed => "CONSUMED"
  | .damaged => "DAMAGED"
  | .lost => "LOST"

def scanSerial (shipment : Shipment) (products : List Stock.Product) (serial : Stock.InventorySerial) :
    InspectionService Scan := do
  let _ ← expect (products.find? fun p => p.id = serial.productId && p.trackSerial)
    (.badRequest "Serial tidak termasuk produk/warehouse pada shipment ini.")
  check (serial.warehouseId = shipment.warehouseId)
    (.badRequest "Serial tidak termasuk produk/warehouse pada shipment ini.")
  check (¬ (serial.status = .reserved ∧ serial.referenceType = some "Shipment" ∧
      serial.referenceId = some (toString shipment.id)))
    (.badRequest "Serial ini sudah pernah discan untuk shipment yang sama.")
  check (serial.status = .available)
    (.badRequest (s!"Serial {serial.serialNumber} berstatus {serialStatusText serial.status} dan " ++
      "tidak tersedia untuk shipment ini."))
  pure { productId := serial.productId, serialNumber := some serial.serialNumber }

def scanProduct (products : List Stock.Product) (value : String) : InspectionService Scan := do
  let matched ← expect
    (products.find? fun p => !p.trackSerial && (p.barcode = some value || p.sku = value))
    (.badRequest "Barcode/SKU/serial tidak termasuk dalam shipment ini.")
  pure { productId := matched.id }

def scanShipment (scope : TenantScope) (shipmentId : ℕ) (value : String) : InspectionService Scan := do
  let (shipment, order) ← shippedOrder scope shipmentId
  let products ← query fun d => d.productsOf (order.items.map Finance.OrderItem.productId)
  let serial ← query fun d => d.serials.find? value
  match serial with
  | some serial => scanSerial shipment products serial
  | none => scanProduct products value

def resolveScan (scope : TenantScope) (inspection : OperationalInspection) (value : String) :
    InspectionService (Option Scan) :=
  if inspection.sourceType = "GoodsReceipt" then do
    let scan ← scanReceipt scope inspection.sourceId value
    pure (some scan)
  else if inspection.sourceType = "OrderReturn" then do
    let scan ← scanReturn scope inspection.sourceId value
    pure (some scan)
  else if inspection.sourceType = "Shipment" then do
    let scan ← scanShipment scope inspection.sourceId value
    pure (some scan)
  else pure none

def countScan (result row : InspectionResultItem) : InspectionResultItem :=
  { row with
    scannedQty := row.scannedQty.map (· + 1)
    result := if result.expectedQty.getD 0 ≤ result.scannedQty.getD 0 + 1 then .pass else row.result }

def reserveSerial (sourceId : ℕ) (row : Stock.InventorySerial) : Stock.InventorySerial :=
  { row with status := .reserved, referenceType := some "Shipment", referenceId := some (toString sourceId) }

def claimSerial (sourceId : ℕ) : Option String → ControlTx Unit
  | none => pure ()
  | some serialNumber =>
    ControlDb.inventorySerial.updateOne
      (fun s => s.serialNumber = serialNumber && s.status = .available) (reserveSerial sourceId)
      (.badRequest "Serial berubah status saat scan. Silakan scan ulang.")

def awaitsScan (id productId : ℕ) (row : InspectionResultItem) : Bool :=
  row.inspectionId = id && row.productId = some productId && 0 < row.expectedQty.getD 0 &&
    row.scannedQty.getD 0 < row.expectedQty.getD 0

def claimScan (inspection : OperationalInspection) (scan : Scan) : ControlTx Unit := do
  let d ← get
  let result ← orThrow
    (d.results.findFirst (awaitsScan inspection.id scan.productId) fun a b => a.id ≤ b.id)
    (.badRequest "Jumlah scan produk ini sudah memenuhi kuantitas yang diharapkan.")
  claimSerial inspection.sourceId scan.serialNumber
  ControlDb.inspectionResultItem.updateOne
    (fun r => r.id = result.id && r.scannedQty = some (result.scannedQty.getD 0)) (countScan result)
    (.badRequest "Jumlah scan berubah saat proses berjalan. Silakan scan ulang.")

def claim (inspection : OperationalInspection) : Option Scan → ControlTx Unit
  | none => pure ()
  | some scan => claimScan inspection scan

def writeEvidence (inspection : OperationalInspection) (evidenceType : EvidenceType) (scan : Option Scan) :
    ControlTx Unit := do
  claim inspection scan
  let d ← get
  let row : InspectionEvidence :=
    { inspectionId := inspection.id
      evidenceType := evidenceType.text
      productId := scan.map Scan.productId
      serialNumber := scan.bind Scan.serialNumber
      verifiedByServer := true }
  set { d with evidence := d.evidence ++ [row] }

/-- What has been scanned, if it is a scan. -/
def scanned (scope : TenantScope) (inspection : OperationalInspection) (dto : AddInspectionEvidence) :
    InspectionService (Option Scan) :=
  if dto.evidenceType = .barcode then do
    let value ← expect (dto.value.filter (· ≠ "")) (.badRequest "Nilai barcode wajib diisi.")
    resolveScan scope inspection value
  else pure none

def addInspectionEvidence (scope : TenantScope) (id : ℕ) (dto : AddInspectionEvidence) :
    InspectionService Unit := do
  let inspection ← scopedOperationalInspection scope id
  check (isDecided inspection.status = false)
    (.badRequest s!"Pemeriksaan sudah {inspection.status.text}; evidence tidak dapat diubah.")
  let scan ← scanned scope inspection dto
  transaction (.evidenced id (scan.map Scan.productId) (scan.bind Scan.serialNumber))
    (writeEvidence inspection dto.evidenceType scan)

/-! ### The evidence that a policy asks for -/

def inspectionOperationType (sourceType : String) : Option String :=
  if sourceType = "GoodsReceipt" then some "PURCHASE_RECEIPT"
  else if sourceType = "Shipment" ∨ sourceType = "Order" then some "ORDER_OUTBOUND"
  else if sourceType = "PurchaseReturn" then some "PURCHASE_RETURN"
  else if sourceType = "SaleReturn" ∨ sourceType = "OrderReturn" then some "SALE_RETURN"
  else none

/-- The policy of a branch for an operation; rows without a branch come first. -/
def ControlDb.policyFor (d : ControlDb) (companyId branchId : ℕ) (operationType : String) :
    Option OperationPolicy :=
  d.finance.procurement.policies.findFirst
    (fun p => p.companyId = companyId && p.operationType = operationType && p.enabled &&
      (p.branchId = some branchId || p.branchId = none))
    (fun a b => a.branchId.isNone && b.branchId.isSome ||
      a.branchId = b.branchId && b.updatedAt ≤ a.updatedAt)

def checkPhoto (policy : OperationPolicy) (verified : List InspectionEvidence) : InspectionService Unit :=
  check (policy.requirePhoto = false ∨ verified.any (·.evidenceType = "PHOTO") = true) (.badRequest
    ("Policy mewajibkan foto evidence yang diunggah dan diverifikasi server sebelum inspeksi " ++
      "diselesaikan."))

def checkBarcodes (inspection : OperationalInspection) (policy : OperationPolicy)
    (verified : List InspectionEvidence) : InspectionService Unit :=
  if policy.requireBarcodeScan then do
    check (verified.any (·.evidenceType = "BARCODE") = true)
      (.badRequest "Policy mewajibkan hasil scan barcode sebelum inspeksi diselesaikan.")
    let results ← query fun d => d.results.findMany fun r =>
      r.inspectionId = inspection.id && r.productId.isSome
    match results.find? fun r => r.scannedQty.getD 0 < r.expectedQty.getD 0 with
    | none => pure ()
    | some r =>
      throw (.badRequest (s!"Scan barcode belum lengkap untuk {r.label}: " ++
        s!"{r.scannedQty.getD 0}/{r.expectedQty.getD 0}."))
  else pure ()

def checkEvidence (inspection : OperationalInspection) (policy : OperationPolicy) : InspectionService Unit :=
  if policy.requirePhoto || policy.requireBarcodeScan then do
    let evidence ← query fun d => d.evidence.filter fun e => e.inspectionId = inspection.id
    let verified := evidence.filter InspectionEvidence.verifiedByServer
    checkPhoto policy verified
    checkBarcodes inspection policy verified
  else pure ()

def enforceInspectionEvidencePolicy (inspection : OperationalInspection) : InspectionService Unit :=
  match inspectionOperationType inspection.sourceType, inspection.branchId with
  | some operationType, some branchId => do
    let policy ← query fun d => d.policyFor inspection.companyId branchId operationType
    match policy with
    | none => pure ()
    | some policy => checkEvidence inspection policy
  | _, _ => pure ()

end Mayatoko.Control
