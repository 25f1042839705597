import Mayatoko.Core.Settlement
import Mayatoko.Finance.Schema

/-!
# What is left to settle

The snapshots of `FinanceOperationsService`: the document that a finance transaction settles, the
total of it, what has been settled and what other transactions reserve. A transaction that is about
to be posted is left out of its own snapshot.
-/

namespace Mayatoko.Finance

open Core Accounting Transit Procurement FinanceDb

def position (total : ℚ) (rows : List FinanceTransaction) : Position ℚ where
  total := total
  settled := ((rows.filter fun t => t.status.settled).map FinanceTransaction.grossAmount).sum
  pending := ((rows.filter fun t => t.status.reserved).map FinanceTransaction.grossAmount).sum

def FinanceTransaction.settles (t : FinanceTransaction) (type : FinanceTransactionType)
    (referenceType : String) (referenceId : ℕ) : Bool :=
  t.type = type && t.referenceType = some referenceType && t.referenceId = some referenceId

namespace FinanceDb

variable (db : FinanceDb)

/-- The transactions of the tenant that meet `p` and are not cancelled, one of them left out. -/
def settlements (scope : TenantScope) (p : FinanceTransaction → Bool) (exclude : Option ℕ) :
    List FinanceTransaction :=
  db.transactions.findMany fun t => t.companyId = scope.companyId && t.branchId = scope.branchId &&
    p t && t.status ≠ .cancelled && exclude.all (t.id ≠ ·)

/-- The first posted event of a document; events stand in the order of their creation. -/
def postedEvent (scope : TenantScope) (sourceType : String) (sourceId : ℕ) (eventType : String) :
    Option AccountingEvent :=
  (db.procurement.ledger.events.findMany fun e => e.companyId = scope.companyId &&
    e.branchId = scope.branchId && e.sourceType = sourceType && e.sourceId = toString sourceId &&
    e.eventType = eventType && e.status = .posted).head?

def activeAccount (branchId : ℕ) (code : String) (type : AccountType) : Option Account :=
  (db.procurement.ledger.activeAccount branchId code).filter fun _ =>
    db.accountType (branchId, code) = type

def paymentOf (orderId : ℕ) : Option Payment :=
  (db.payments.findMany fun p => p.orderId = orderId).head?

def completedReturns (goodsReceiptId : ℕ) : List PurchaseReturn :=
  db.purchaseReturns.findMany fun r =>
    r.goodsReceiptId = some goodsReceiptId && r.status = .completed

end FinanceDb

def findSupplier (scope : TenantScope) (id : ℕ) : FinanceTx Supplier := do
  let db ← get
  orThrow ((db.procurement.suppliers.find? id).filter fun s => s.companyId = scope.companyId)
    (tenantAccessDenied "Supplier")

/-! ### Payables -/

def supplierPayableSnapshot (scope : TenantScope) (goodsReceiptId : ℕ) (exclude : Option ℕ) :
    FinanceTx (ℕ × Position ℚ) := do
  let e := tenantAccessDenied "GoodsReceipt"
  let receipt ← procurementPart.lift (findReceipt scope goodsReceiptId e)
  require (receipt.operationalStatus.isPosted = true) e
  let db ← get
  let returned := ((db.completedReturns receipt.id).map PurchaseReturn.amount).sum
  let payments := db.settlements scope (·.settles .supplierPayment "GoodsReceipt" receipt.id) exclude
  pure (receipt.supplierId, position (receipt.grossTotal - returned) payments)

def assetPayableSnapshot (scope : TenantScope) (assetId : ℕ) (exclude : Option ℕ) :
    FinanceTx (ℕ × Position ℚ) := do
  let db ← get
  let asset ← orThrow ((db.assets.find? assetId).filter fun a =>
      a.companyId = scope.companyId && a.branchId = some scope.branchId)
    (tenantAccessDenied "Asset")
  let supplierId ← orThrow asset.supplierId (tenantAccessDenied "Asset")
  let supplier ← findSupplier scope supplierId
  let acquisition ← orThrow (db.postedEvent scope "Asset" asset.id "ASSET_ACQUISITION_CREDIT")
    (.badRequest "Aset tidak memiliki acquisition payable yang sudah diposting.")
  let payments := db.settlements scope (·.settles .supplierPayment "Asset" asset.id) exclude
  pure (supplier.id, position acquisition.grossAmount payments)

def findWorkOrder (scope : TenantScope) (id : ℕ) : FinanceTx (ℕ × String) := do
  let db ← get
  let e := tenantAccessDenied "MaintenanceWorkOrder"
  let work ← orThrow ((db.workOrders.find? id).filter fun w => w.companyId = scope.companyId &&
    w.branchId = some scope.branchId && w.status = .completed) e
  let vendorId ← orThrow work.vendorId e
  pure (vendorId, "ASSET_MAINTENANCE_CREDIT")

def findFuelTransaction (scope : TenantScope) (id : ℕ) : FinanceTx (ℕ × String) := do
  let db ← get
  let e := tenantAccessDenied "FuelTransaction"
  let fuel ← orThrow ((db.fuelTransactions.find? id).filter fun f =>
    f.companyId = scope.companyId && f.branchId = scope.branchId) e
  let supplierId ← orThrow fuel.supplierId e
  pure (supplierId, "FLEET_FUEL_CREDIT")

def findCreditDocument (scope : TenantScope) (referenceType : String) (referenceId : ℕ) :
    FinanceTx (ℕ × String) :=
  if referenceType = "MaintenanceWorkOrder" then findWorkOrder scope referenceId
  else findFuelTransaction scope referenceId

def operationalCreditPayableSnapshot (scope : TenantScope) (referenceType : String)
    (referenceId : ℕ) (exclude : Option ℕ) : FinanceTx (ℕ × Position ℚ) := do
  let document ← findCreditDocument scope referenceType referenceId
  let supplier ← findSupplier scope document.1
  let db ← get
  let event ← orThrow (db.postedEvent scope referenceType referenceId document.2)
    (.badRequest s!"{referenceType} tidak memiliki supplier payable yang sudah diposting.")
  let payments := db.settlements scope (·.settles .supplierPayment referenceType referenceId) exclude
  pure (supplier.id, position event.grossAmount payments)

def supplierPayableReferenceSnapshot (scope : TenantScope) (referenceType : String)
    (referenceId : ℕ) (exclude : Option ℕ) : FinanceTx (ℕ × Position ℚ) :=
  if referenceType = "GoodsReceipt" then supplierPayableSnapshot scope referenceId exclude
  else if referenceType = "Asset" then assetPayableSnapshot scope referenceId exclude
  else if referenceType = "MaintenanceWorkOrder" ∨ referenceType = "FuelTransaction" then
    operationalCreditPayableSnapshot scope referenceType referenceId exclude
  else throw (.badRequest ("Pembayaran supplier hanya dapat mereferensikan GoodsReceipt, Asset, " ++
    "MaintenanceWorkOrder, atau FuelTransaction kredit."))

def supplierRefundSnapshot (scope : TenantScope) (purchaseReturnId : ℕ) (exclude : Option ℕ) :
    FinanceTx (PurchaseReturn × Position ℚ) := do
  let db ← get
  let e := tenantAccessDenied "PurchaseReturn"
  let purchaseReturn ← orThrow ((db.purchaseReturns.find? purchaseReturnId).filter fun r =>
    r.status = .completed && 0 < r.supplierReceivableAmount) e
  let _ ← orThrow ((db.procurement.warehouses.find? purchaseReturn.warehouseId).filter fun w =>
    w.branchId = scope.branchId && w.companyId = scope.companyId) e
  let _ ← findSupplier scope purchaseReturn.supplierId
  let refunds :=
    db.settlements scope (·.settles .supplierRefund "PurchaseReturn" purchaseReturn.id) exclude
  pure (purchaseReturn, position purchaseReturn.supplierReceivableAmount refunds)

structure CustomerReceivable where
  order : Order
  payment : Payment
  position : Position ℚ
  receivableAccountCode : String

def customerReceivableSnapshot (scope : TenantScope) (orderId : ℕ) (exclude : Option ℕ) :
    FinanceTx CustomerReceivable := do
  let db ← get
  let order ← orThrow ((db.orders.find? orderId).filter fun o => o.branchId = scope.branchId &&
    o.companyId = scope.companyId && (o.status = .shipped || o.status = .completed))
    (tenantAccessDenied "Order")
  let payment ← orThrow ((db.paymentOf order.id).filter fun p =>
      p.method = "COD" || p.method = "INVOICE")
    (.badRequest "Order bukan transaksi piutang COD/INVOICE.")
  require (order.accountingEventId.isSome = true)
    (.badRequest "Order belum mempunyai posting fulfillment/piutang.")
  let receipts := db.settlements scope (·.settles .customerReceipt "Order" order.id) exclude
  pure
    { order, payment, position := position order.total receipts
      receivableAccountCode := if payment.method = "COD" then "1203" else "1201" }

namespace FinanceDb

variable (db : FinanceDb)

def chainRuns (scope : TenantScope) (rootRunId : ℕ) : List Payroll.PayrollRun :=
  db.payroll.runs.findMany fun r => r.companyId = scope.companyId &&
    r.branchId = some scope.branchId && r.status.recognized &&
    (r.id = rootRunId || r.adjustmentOfRunId = some rootRunId)

end FinanceDb

def recognizedBy (liabilityAccountCode : String) (run : Payroll.PayrollRun) : ℚ :=
  if liabilityAccountCode = "2103" then run.taxTotal
  else run.deductionTotal + run.employerContributionTotal

def settlesLiability (liabilityAccountCode : String) (type : FinanceTransactionType) : Bool :=
  type = .payrollLiabilityPayment || liabilityAccountCode = "2103" && type = .taxPayment

def payrollLiabilitySnapshot (scope : TenantScope) (payrollRunId : ℕ)
    (liabilityAccountCode : String) (exclude : Option ℕ) : FinanceTx (Position ℚ) := do
  require (liabilityAccountCode = "2103" ∨ liabilityAccountCode = "2104")
    (.badRequest "Settlement kewajiban payroll hanya mendukung akun 2103/2104.")
  let db ← get
  let run ← orThrow ((db.payroll.runs.find? payrollRunId).filter fun r =>
      r.companyId = scope.companyId && r.branchId = some scope.branchId && r.status.recognized)
    (tenantAccessDenied "PayrollRun")
  let rootRunId := run.adjustmentOfRunId.getD run.id
  let chainRuns := db.chainRuns scope rootRunId
  require (rootRunId ∈ chainRuns.map Payroll.PayrollRun.id)
    (.badRequest "Payroll sumber adjustment tidak lagi tersedia sebagai POSTED/PAID.")
  let recognized := (chainRuns.map (recognizedBy liabilityAccountCode)).sum
  let settlements := db.settlements scope (fun t => t.referenceType = some "PayrollRun" &&
    t.referenceId.any (fun id => id ∈ chainRuns.map Payroll.PayrollRun.id) &&
    t.debitAccountCode = liabilityAccountCode && settlesLiability liabilityAccountCode t.type) exclude
  pure (position recognized settlements)

end Mayatoko.Finance
