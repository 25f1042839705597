import Mayatoko.Finance.PurchaseReturns

/-!
# Returns of customer orders

`confirmOrderReturn` of `ReturnsService`, one serializable transaction: stock that passed its
inspection comes back and the refund is posted, either as a settlement or as a credit on the receivable
of the order. The condition of the returned items and the loyalty points that a return takes back are
left out.
-/

namespace Mayatoko.Finance

open Core Accounting Transit Procurement FinanceDb

structure ConfirmOrderReturn where
  refundMethod : Option String := none

def scopedOrderReturn (scope : TenantScope) (id : ℕ) : FinanceTx OrderReturn := do
  let db ← get
  let row ← orThrow ((db.orderReturns.find? id).filter fun r =>
    r.companyId = scope.companyId && r.branchId = scope.branchId) (tenantAccessDenied "OrderReturn")
  assertWarehouse scope row.warehouseId
  pure row

def FinanceDb.inspectionResult (db : FinanceDb) (inspectionId : ℕ) (code : String) :
    Option InspectionResultItem :=
  (db.inspectionResults.findMany fun r => r.inspectionId = inspectionId && r.code = code).getLast?

def InspectionResultItem.restocks (result : InspectionResultItem) (quantity : ℕ) : Bool :=
  result.result = .pass && result.rejectedQty.getD 0 = 0 && result.damagedQty.getD 0 = 0 &&
    result.acceptedQty.getD 0 = result.expectedQty.getD quantity

def restocked (db : FinanceDb) (inspectionId : ℕ) (item : OrderReturnItem) : Bool :=
  (db.inspectionResult inspectionId s!"ORDER_RETURN_ITEM:{item.id}").any fun r =>
    r.restocks item.quantity

def confirmReturnItem (row : OrderReturn) (inspectionId : ℕ) (item : OrderReturnItem) :
    FinanceTx Unit := do
  let db ← get
  let result ← orThrow (db.inspectionResult inspectionId s!"ORDER_RETURN_ITEM:{item.id}")
    (.badRequest s!"Hasil inspeksi item {item.id} tidak ditemukan.")
  let expected := result.expectedQty.getD item.quantity
  require (expected = item.quantity ∧
      result.acceptedQty.getD 0 + result.rejectedQty.getD 0 = expected)
    (.badRequest s!"Kuantitas inspeksi item {item.id} belum lengkap.")
  if result.restocks item.quantity then
    stockPart.lift (Stock.receiveStock row.warehouseId .saleReturn "OrderReturn" row.id
      ⟨item.productId, item.quantity⟩)
  else pure ()

/-! ### The refund -/

namespace OrderReturn

variable (row : OrderReturn)

def net : ℚ := (row.items.map OrderReturnItem.netAmount).sum

def tax : ℚ := (row.items.map OrderReturnItem.taxAmount).sum

def gross : ℚ := (row.items.map OrderReturnItem.grossAmount).sum

def cogs (db : FinanceDb) (inspectionId : ℕ) : ℚ :=
  ((row.items.filter (restocked db inspectionId)).map fun i => i.unitCost * (i.quantity : ℚ)).sum

def refundMethodFor (dto : ConfirmOrderReturn) (payment : Option Payment) : String :=
  let requestedMethod := (dto.refundMethod.or row.refundMethod).getD "ORIGINAL"
  if requestedMethod = "ORIGINAL" then
    if payment.any (·.method = "COD") then "CASH"
    else if payment.any (·.method = "INVOICE") then "RECEIVABLE"
    else "BANK_TRANSFER"
  else requestedMethod

def reducesReceivable (dto : ConfirmOrderReturn) (payment : Option Payment) : Bool :=
  row.refundMethodFor dto payment = "RECEIVABLE" ||
    payment.all (·.status ≠ .paid) && payment.any fun p => p.method = "COD" || p.method = "INVOICE"

def receivableAmount (dto : ConfirmOrderReturn) (payment : Option Payment) : ℚ :=
  if row.reducesReceivable dto payment then row.gross else 0

def settlementAmount (dto : ConfirmOrderReturn) (payment : Option Payment) : ℚ :=
  if row.reducesReceivable dto payment then 0 else row.gross

def taxLines : List TaxLine :=
  (row.items.filter fun i => i.taxAmount ≠ 0).filterMap fun i =>
    i.taxCodeId.map fun taxCodeId => ⟨taxCodeId, .output, -i.netAmount, -i.taxAmount⟩

def eventInput (scope : TenantScope) (dto : ConfirmOrderReturn) (payment : Option Payment)
    (cogs : ℚ) : PostOperationalEventInput where
  companyId := scope.companyId
  branchId := scope.branchId
  eventType := "ORDER_RETURN"
  sourceType := "OrderReturn"
  sourceId := toString row.id
  idempotencyKey := s!"order-return:{row.id}"
  amounts := [("net", row.net), ("outputTax", row.tax), ("gross", row.gross),
    ("settlement", row.settlementAmount dto payment),
    ("receivable", row.receivableAmount dto payment), ("inventory", cogs), ("cogs", cogs)]
  accountCodes := [("returns", "4102"), ("outputTax", "2201"),
    ("settlement", if row.refundMethodFor dto payment = "CASH" then "1101" else "1102"),
    ("receivable", if payment.any (·.method = "COD") then "1203" else "1201"),
    ("inventory", "1301"), ("cogs", "5101")]
  taxLines := row.taxLines

end OrderReturn

/-! ### The confirmation -/

def checkReturnInspection (scope : TenantScope) (row : OrderReturn) : FinanceTx ℕ := do
  let inspectionId ← orThrow row.inspectionId
    (.badRequest "Retur order belum memiliki inspeksi inbound.")
  let db ← get
  let _ ← orThrow ((db.procurement.inspections.find? inspectionId).filter fun i =>
      i.companyId = scope.companyId && i.branchId = some scope.branchId &&
        i.sourceType = "OrderReturn" && i.sourceId = row.id && i.status = .approved)
    (.badRequest "Inspeksi retur order harus APPROVED sebelum refund diposting.")
  pure inspectionId

def fullOrderReturn (db : FinanceDb) (row : OrderReturn) (order : Order) : Bool :=
  let activeReturns := db.orderReturns.findMany fun r =>
    r.orderId = row.orderId && r.id ≠ row.id && r.status = .completed
  let items := activeReturns.flatMap OrderReturn.items ++ row.items
  order.items.all fun item => item.quantity ≤
    ((items.filter fun i => i.orderItemId = item.id).map OrderReturnItem.quantity).sum

def refundOrder (row : OrderReturn) (payment : Option Payment) : FinanceTx Unit := do
  let db ← get
  if (db.orders.find? row.orderId).all (fullOrderReturn db row) then do
    let _ ← order.update row.orderId (fun o => { o with status := .refunded }) .recordNotFound
    match payment with
    | none => pure ()
    | some p => do
      let _ ← FinanceDb.payment.update p.id (fun p => { p with status := .refunded }) .recordNotFound
  else pure ()

def completeOrderReturn (scope : TenantScope) (row : OrderReturn) (dto : ConfirmOrderReturn) :
    FinanceTx OrderReturn := do
  let inspectionId ← checkReturnInspection scope row
  row.items.forM (confirmReturnItem row inspectionId)
  assertReturnTaxCodes scope (row.items.map OrderReturnItem.taxCodeId)
  let db ← get
  let payment := db.paymentOf row.orderId
  let event ← ledgerPart.lift
    (postOperationalEvent (row.eventInput scope dto payment (row.cogs db inspectionId)))
  refundOrder row payment
  orderReturn.update row.id
    (fun r => { r with
      status := .completed, refundMethod := some (row.refundMethodFor dto payment),
      accountingEventId := some event.key }) .recordNotFound

def confirmOrderReturn (scope : TenantScope) (id : ℕ) (dto : ConfirmOrderReturn) :
    FinanceTx OrderReturn := do
  let row ← scopedOrderReturn scope id
  if row.status = .completed then pure row else do
    require (row.status = .inspection ∨ row.status = .approved)
      (.badRequest s!"Retur order berstatus {row.status.text}.")
    completeOrderReturn scope row dto

end Mayatoko.Finance
