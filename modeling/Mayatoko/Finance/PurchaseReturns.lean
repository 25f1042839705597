import Mayatoko.Finance.Snapshots

/-!
# Returns to suppliers

`createPurchaseReturn` and `confirmPurchaseReturn` of `ReturnsService`, each one serializable
transaction. The gate for repeated requests in front of a creation is left out: it can only answer
without running it. The lookup before the transaction asks for the same tenant. Credit note numbers
are taken as already trimmed.
-/

namespace Mayatoko.Finance

open Core Accounting Transit Procurement FinanceDb

/-- A requested item; the request validation lets only positive quantities pass. -/
structure PurchaseReturnInput where
  (goodsReceiptItemId quantity : ℕ)

structure CreatePurchaseReturn where
  goodsReceiptId : ℕ
  supplierCreditNoteNumber : Option String := none
  items : List PurchaseReturnInput

def usesReceipt (s : Returns.ReturnStatus) : Bool :=
  s = .draft || s = .requested || s = .approved || s = .received || s = .completed

def FinanceDb.returnsOf (db : FinanceDb) (goodsReceiptId : ℕ) : List PurchaseReturn :=
  db.purchaseReturns.findMany fun r => r.goodsReceiptId = some goodsReceiptId && usesReceipt r.status

def returnedItems (returns : List PurchaseReturn) (goodsReceiptItemId : ℕ) :
    List PurchaseReturnItem :=
  (returns.flatMap PurchaseReturn.items).filter fun i =>
    i.goodsReceiptItemId = some goodsReceiptItemId

/-- The entry of the `Map` from receipt item to quantity in the returns so far. -/
def alreadyReturned (returns : List PurchaseReturn) (goodsReceiptItemId : ℕ) : ℕ :=
  ((returnedItems returns goodsReceiptItemId).map PurchaseReturnItem.quantity).sum

/-- The entry of the `Map` of what the returns so far have taken from a receipt item. -/
def purchaseAllocation (returns : List PurchaseReturn) (goodsReceiptItemId : ℕ) :
    Returns.HistoricalReturnState :=
  let items := returnedItems returns goodsReceiptItemId
  { quantity := (items.map fun i => (i.quantity : ℤ)).sum
    net := (items.map PurchaseReturnItem.netAmount).sum
    tax := (items.map PurchaseReturnItem.taxAmount).sum
    gross := (items.map PurchaseReturnItem.grossAmount).sum }

def receiptItem (receipt : GoodsReceipt) (id : ℕ) : Option Stock.GoodsReceiptItem :=
  receipt.items.find? fun i => i.id = id

def receivedAmounts (item : Stock.GoodsReceiptItem) : Returns.SoldAmounts :=
  ⟨item.acceptedQty, item.subtotal, item.taxAmount, item.grossSubtotal⟩

/-! ### Creating a return -/

/-- The `Map` from receipt item to requested quantity. -/
def requestedNow (items : List PurchaseReturnInput) : Table (Prod.fst : ℕ × ℕ → ℕ) :=
  tally PurchaseReturnInput.goodsReceiptItemId PurchaseReturnInput.quantity items

def checkRequested (receipt : GoodsReceipt) (returns : List PurchaseReturn) (requested : ℕ × ℕ) :
    FinanceTx Unit := do
  let e := Failure.badRequest
    s!"Jumlah retur penerimaan {requested.1} melebihi sisa yang dapat diretur."
  let original ← orThrow (receiptItem receipt requested.1) e
  let used := alreadyReturned returns requested.1
  require (0 < requested.2 ∧ used + requested.2 ≤ original.acceptedQty) e

/-- The rows of a return; the `Map` of what has been taken moves along with them. -/
def returnRows (receipt : GoodsReceipt) : ℕ → (ℕ → Returns.HistoricalReturnState) →
    List PurchaseReturnInput → Except Failure (List PurchaseReturnItem)
  | _, _, [] => pure []
  | number, allocation, input :: rest => do
    let e := Failure.badRequest s!"Jumlah retur penerimaan {input.goodsReceiptItemId} tidak valid."
    match receiptItem receipt input.goodsReceiptItemId with
    | none => throw e
    | some original =>
      if original.acceptedQty < input.quantity then throw e else do
        let (a, taken) ← Returns.allocateReturn (receivedAmounts original) (allocation original.id)
          input.quantity
        let rows ← returnRows receipt (number + 1) (Function.update allocation original.id taken) rest
        pure ({ id := number, goodsReceiptItemId := some original.id,
                productId := original.productId, quantity := input.quantity,
                netAmount := a.netAmount, taxAmount := a.taxAmount, grossAmount := a.grossAmount,
                taxCodeId := original.taxCodeId } :: rows)

def assertReturnTaxCodes (scope : TenantScope) (taxCodeIds : List (Option ℕ)) : FinanceTx Unit := do
  let db ← get
  require (taxCodeIds.reduceOption.all (fun id =>
      (db.procurement.ledger.taxCodes.find? id).any fun t => t.companyId = scope.companyId) = true)
    (tenantAccessDenied "TaxCode")

def createReturnInspection (scope : TenantScope) (purchaseReturnId : ℕ) : FinanceTx ℕ := do
  let id ← freshId
  inspection.create
    { id, companyId := scope.companyId, branchId := some scope.branchId,
      sourceType := "PurchaseReturn", sourceId := purchaseReturnId, status := .inProgress }
    .uniqueViolation
  pure id

def readReturnRows (scope : TenantScope) (dto : CreatePurchaseReturn) :
    FinanceTx (GoodsReceipt × List PurchaseReturnItem) := do
  require (dto.items ≠ []) (.badRequest "Retur pembelian harus memiliki item.")
  let receipt ← procurementPart.lift
    (findReceipt scope dto.goodsReceiptId (tenantAccessDenied "GoodsReceipt"))
  require (receipt.operationalStatus.isPosted = true) (.badRequest
    ("Retur supplier hanya dapat dibuat dari penerimaan yang sudah diposting ke stok dan " ++
      "akuntansi."))
  let db ← get
  let previousReturns := db.returnsOf receipt.id
  (requestedNow dto.items).rows.forM (checkRequested receipt previousReturns)
  let rows ← ofExcept (returnRows receipt 0 (purchaseAllocation previousReturns) dto.items)
  assertReturnTaxCodes scope (rows.map PurchaseReturnItem.taxCodeId)
  pure (receipt, rows)

def createPurchaseReturn (scope : TenantScope) (dto : CreatePurchaseReturn) :
    FinanceTx PurchaseReturn := do
  let (receipt, rows) ← readReturnRows scope dto
  let id ← freshId
  purchaseReturn.create
    { id, goodsReceiptId := some receipt.id, supplierId := receipt.supplierId,
      warehouseId := receipt.warehouseId, status := .requested,
      amount := (rows.map PurchaseReturnItem.grossAmount).sum,
      supplierCreditNoteNumber := dto.supplierCreditNoteNumber.filter (· ≠ ""), items := rows }
    .uniqueViolation
  let inspectionId ← createReturnInspection scope id
  purchaseReturn.update id (fun r => { r with inspectionId := some inspectionId }) .recordNotFound

/-! ### Confirming a return -/

structure ConfirmReturn where
  inspectionId : Option ℕ := none
  confirmationId : Option ℕ := none
  gatePassId : Option ℕ := none
  supplierCreditNoteNumber : Option String := none

def assertWarehouse (scope : TenantScope) (id : ℕ) : FinanceTx Unit := do
  let db ← get
  let _ ← orThrow ((db.procurement.warehouses.find? id).filter fun w =>
    w.branchId = scope.branchId && w.companyId = scope.companyId) (tenantAccessDenied "Warehouse")

def scopedPurchaseReturn (scope : TenantScope) (id : ℕ) : FinanceTx PurchaseReturn := do
  let db ← get
  let row ← orThrow (db.purchaseReturns.find? id) (tenantAccessDenied "PurchaseReturn")
  assertWarehouse scope row.warehouseId
  pure row

/-- The inspection of a source, if one is named. -/
def assertInspection (scope : TenantScope) (id : Option ℕ) (sourceType : String) (sourceId : ℕ) :
    FinanceTx (Option OperationalInspection) :=
  match id with
  | none => pure none
  | some id => do
    let db ← get
    let row ← orThrow ((db.procurement.inspections.find? id).filter fun i =>
        i.companyId = scope.companyId && i.branchId = some scope.branchId &&
          i.sourceType = sourceType && i.sourceId = sourceId)
      (tenantAccessDenied "OperationalInspection")
    pure (some row)

/-- The confirmation of a source, if one is named. -/
def assertConfirmation (scope : TenantScope) (id : Option ℕ) (sourceType : String) (sourceId : ℕ) :
    FinanceTx Unit :=
  match id with
  | none => pure ()
  | some id => do
    let db ← get
    let _ ← orThrow ((db.procurement.confirmations.find? id).filter fun c =>
        c.companyId = scope.companyId && c.branchId = some scope.branchId && c.status = .approved &&
          c.sourceType = sourceType && c.sourceId = sourceId)
      (tenantAccessDenied "OperationalConfirmation")

def checkGatePass (scope : TenantScope) (id : Option ℕ) (purchaseReturnId : ℕ) : FinanceTx Unit :=
  match id with
  | none => pure ()
  | some id => do
    let db ← get
    let pass ← orThrow ((db.gatePasses.find? id).filter fun g =>
        g.companyId = scope.companyId && g.branchId = scope.branchId &&
          g.sourceType = "PurchaseReturn" && g.sourceId = purchaseReturnId)
      (tenantAccessDenied "GatePass")
    require (pass.status = .approved ∨ pass.status = .exited)
      (.badRequest "Gate pass retur supplier belum disetujui.")

def findSourceReceipt (scope : TenantScope) (row : PurchaseReturn) : FinanceTx GoodsReceipt := do
  let goodsReceiptId ← orThrow row.goodsReceiptId
    (.badRequest "Retur supplier tidak memiliki referensi penerimaan barang.")
  let e := Failure.badRequest "Penerimaan asal retur tidak valid atau belum diposting."
  let receipt ← procurementPart.lift (findReceipt scope goodsReceiptId e)
  require (receipt.warehouseId = row.warehouseId ∧ receipt.supplierId = row.supplierId ∧
    receipt.operationalStatus.isPosted = true) e
  pure receipt

/-- The `Map` from receipt item to the quantity of the return. -/
def requestedByReceiptItem (items : List PurchaseReturnItem) : Table (Prod.fst : ℕ × ℕ → ℕ) :=
  tally (fun i => i.goodsReceiptItemId.getD 0) PurchaseReturnItem.quantity items

def checkRemainingReturn (receipt : GoodsReceipt) (otherReturns : List PurchaseReturn)
    (requested : ℕ × ℕ) : FinanceTx Unit := do
  let e := Failure.badRequest
    s!"Retur melebihi sisa kuantitas penerimaan untuk item {requested.1}."
  let original ← orThrow (receiptItem receipt requested.1) e
  require (alreadyReturned otherReturns requested.1 + requested.2 ≤ original.acceptedQty) e

def checkReceiptItems (receipt : GoodsReceipt) (otherReturns : List PurchaseReturn)
    (items : List PurchaseReturnItem) : FinanceTx Unit := do
  items.forM fun item => require (item.goodsReceiptItemId.isSome = true)
    (.badRequest s!"Item retur {item.id} kehilangan referensi goods receipt item.")
  (requestedByReceiptItem items).rows.forM (checkRemainingReturn receipt otherReturns)

def checkPurchaseReturn (scope : TenantScope) (dto : ConfirmReturn) (row : PurchaseReturn) :
    FinanceTx GoodsReceipt := do
  require (row.status = .requested ∨ row.status = .approved)
    (.badRequest s!"Retur berstatus {row.status.text}.")
  let inspection ← assertInspection scope (dto.inspectionId.or row.inspectionId) "PurchaseReturn"
    row.id
  require (inspection.all (fun i => i.status ∈ [.passed, .partially, .approved]) = true)
    (.badRequest "Pemeriksaan barang keluar retur belum lulus.")
  require (inspection.all (fun i => i.status ≠ .partially) = true) (.badRequest
    ("Pemeriksaan retur supplier memiliki mismatch dan harus disetujui sebelum stok/jurnal " ++
      "diposting."))
  assertConfirmation scope (dto.confirmationId.or row.confirmationId) "PurchaseReturn" row.id
  checkGatePass scope (dto.gatePassId.or row.gatePassId) row.id
  assertWarehouse scope row.warehouseId
  assertReturnTaxCodes scope (row.items.map PurchaseReturnItem.taxCodeId)
  let sourceReceipt ← findSourceReceipt scope row
  let db ← get
  let otherReturns := (db.returnsOf sourceReceipt.id).filter fun r => r.id ≠ row.id
  checkReceiptItems sourceReceipt otherReturns row.items
  pure sourceReceipt

namespace FinanceDb

variable (db : FinanceDb)

def completedReturnAmount (goodsReceiptId purchaseReturnId : ℕ) : ℚ :=
  (((db.returnsOf goodsReceiptId).filter fun r =>
    r.id ≠ purchaseReturnId && r.status = .completed).map PurchaseReturn.amount).sum

def paidAmount (scope : TenantScope) (goodsReceiptId : ℕ) : ℚ :=
  ((db.transactions.findMany fun t => t.companyId = scope.companyId &&
    t.branchId = scope.branchId && t.settles .supplierPayment "GoodsReceipt" goodsReceiptId &&
    t.status.settled).map FinanceTransaction.grossAmount).sum

def openPayable (scope : TenantScope) (receipt : GoodsReceipt) (purchaseReturnId : ℕ) : ℚ :=
  rest (receipt.grossTotal - db.completedReturnAmount receipt.id purchaseReturnId)
    (db.paidAmount scope receipt.id)

end FinanceDb

namespace PurchaseReturn

variable (row : PurchaseReturn)

def net : ℚ := (row.items.map PurchaseReturnItem.netAmount).sum

def tax : ℚ := (row.items.map PurchaseReturnItem.taxAmount).sum

def gross : ℚ := (row.items.map PurchaseReturnItem.grossAmount).sum

def stockLines (receipt : GoodsReceipt) : List Stock.SupplierReturnLine :=
  row.items.map fun i =>
    { productId := i.productId, quantity := i.quantity,
      batchNumber := (i.goodsReceiptItemId.bind (receiptItem receipt)).bind
        Stock.GoodsReceiptItem.batch }

def taxLines : List TaxLine :=
  (row.items.filter fun i => i.taxAmount ≠ 0).filterMap fun i =>
    i.taxCodeId.map fun taxCodeId => ⟨taxCodeId, .input, -i.netAmount, -i.taxAmount⟩

def eventInput (scope : TenantScope) (payableOffset supplierReceivable : ℚ) :
    PostOperationalEventInput where
  companyId := scope.companyId
  branchId := scope.branchId
  eventType := "PURCHASE_RETURN"
  sourceType := "PurchaseReturn"
  sourceId := toString row.id
  idempotencyKey := s!"purchase-return:{row.id}"
  amounts := [("net", row.net), ("inputTax", row.tax), ("gross", row.gross),
    ("payableOffset", payableOffset), ("supplierReceivable", supplierReceivable)]
  accountCodes := [("payable", "2101"), ("supplierReceivable", "1202"), ("inventory", "1301"),
    ("inputTax", "1205")]
  taxLines := row.taxLines

end PurchaseReturn

def confirmPurchaseReturn (scope : TenantScope) (id : ℕ) (dto : ConfirmReturn) :
    FinanceTx PurchaseReturn := do
  let row ← scopedPurchaseReturn scope id
  let sourceReceipt ← checkPurchaseReturn scope dto row
  let db ← get
  -- What is still owed is set off; the rest becomes a refund that the supplier owes.
  let payableOffset := min row.amount (db.openPayable scope sourceReceipt row.id)
  let supplierReceivable := row.amount - payableOffset
  let supplierCreditNoteNumber := (dto.supplierCreditNoteNumber.filter (· ≠ "")).or
    (row.supplierCreditNoteNumber.filter (· ≠ ""))
  require (supplierReceivable ≤ 0 ∨ supplierCreditNoteNumber.isSome = true) (.badRequest
    (s!"Retur supplier menciptakan piutang refund {toFixed2 supplierReceivable} karena barang " ++
      "sudah dibayar. Nomor credit note supplier wajib dicatat sebelum retur diposting."))
  stockPart.lift (Stock.confirmPurchaseReturnStock row.warehouseId row.id (row.stockLines sourceReceipt))
  let event ← ledgerPart.lift
    (postOperationalEvent (row.eventInput scope payableOffset supplierReceivable))
  purchaseReturn.update row.id
    (fun r => { r with
      status := .completed, inspectionId := dto.inspectionId.or row.inspectionId,
      confirmationId := dto.confirmationId.or row.confirmationId,
      gatePassId := dto.gatePassId.or row.gatePassId, accountingEventId := some event.key,
      payableOffsetAmount := payableOffset, supplierReceivableAmount := supplierReceivable,
      supplierCreditNoteNumber }) .recordNotFound

end Mayatoko.Finance
