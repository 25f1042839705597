import Mayatoko.Payroll.Run
import Mayatoko.Procurement.Schema
import Mayatoko.Returns.SaleReturn

/-!
# The finance tables

The rows that finance transactions, returns and payroll postings read and write, next to the
procurement and the payroll tables. Document numbers, evidence, metadata, audit and outbox rows are
left out. Columns that only some calls look at (the type of an account, the journal of a payroll run,
the end of its period) stand in tables of their own.
-/

namespace Mayatoko.Finance

open Core Accounting Transit Procurement Payroll

inductive FinanceTransactionType
  | operatingExpense
  | otherIncome
  | customerReceipt
  | supplierPayment
  | supplierRefund
  | taxPayment
  | payrollLiabilityPayment
  | cashTransfer
  | bankTransfer
  | other
  deriving DecidableEq

inductive FinanceTransactionStatus
  | draft
  | waitingApproval
  | approved
  | posted
  | paid
  | cancelled
  deriving DecidableEq

def FinanceTransactionStatus.text : FinanceTransactionStatus → String
  | draft => "DRAFT"
  | waitingApproval => "WAITING_APPROVAL"
  | approved => "APPROVED"
  | posted => "POSTED"
  | paid => "PAID"
  | cancelled => "CANCELLED"

def FinanceTransactionStatus.settled (s : FinanceTransactionStatus) : Bool := s = posted || s = paid

def FinanceTransactionStatus.reserved (s : FinanceTransactionStatus) : Bool :=
  s = draft || s = waitingApproval || s = approved

structure FinanceTransaction where
  (id companyId branchId : ℕ)
  type : FinanceTransactionType
  status : FinanceTransactionStatus := .draft
  transactionDate : ℕ
  counterpartyId : Option ℕ := none
  description : String
  netAmount : ℚ := 0
  taxAmount : ℚ := 0
  grossAmount : ℚ := 0
  taxCodeId : Option ℕ := none
  (debitAccountCode creditAccountCode : String)
  taxAccountCode : Option String := none
  paymentMethod : Option String := none
  referenceType : Option String := none
  referenceId : Option ℕ := none
  accountingEventId : Option (ℕ × String) := none
  idempotencyKey : String

inductive AccountType
  | asset
  | liability
  | equity
  | revenue
  | expense
  deriving DecidableEq

structure Asset where
  (id companyId : ℕ)
  (branchId supplierId : Option ℕ)

inductive MaintenanceStatus
  | planned
  | opened
  | inProgress
  | waitingPart
  | completed
  | cancelled
  deriving DecidableEq

structure MaintenanceWorkOrder where
  (id companyId : ℕ)
  branchId : Option ℕ
  status : MaintenanceStatus := .planned
  vendorId : Option ℕ

structure FuelTransaction where
  (id companyId branchId : ℕ)
  supplierId : Option ℕ

/-- An item of a supplier return; items are numbered within their return. The receipt item stands in
the metadata, which may lack it. -/
structure PurchaseReturnItem where
  id : ℕ
  goodsReceiptItemId : Option ℕ
  (productId quantity : ℕ)
  netAmount : ℚ := 0
  taxAmount : ℚ := 0
  grossAmount : ℚ := 0
  taxCodeId : Option ℕ := none

structure PurchaseReturn where
  id : ℕ
  goodsReceiptId : Option ℕ
  (supplierId warehouseId : ℕ)
  status : Returns.ReturnStatus := .draft
  amount : ℚ := 0
  payableOffsetAmount : ℚ := 0
  supplierReceivableAmount : ℚ := 0
  supplierCreditNoteNumber : Option String := none
  inspectionId : Option ℕ := none
  confirmationId : Option ℕ := none
  gatePassId : Option ℕ := none
  accountingEventId : Option (ℕ × String) := none
  items : List PurchaseReturnItem

inductive GatePassStatus
  | draft
  | checking
  | approved
  | exited
  | entered
  | rejected
  | cancelled
  deriving DecidableEq

structure GatePass where
  (id companyId branchId : ℕ)
  sourceType : String
  sourceId : ℕ
  status : GatePassStatus := .draft

/-! ### Customer orders -/

structure OrderItem where
  (id productId quantity : ℕ)

structure Order where
  (id companyId branchId : ℕ)
  status : Stock.OrderStatus
  total : ℚ
  accountingEventId : Option (ℕ × String) := none
  items : List OrderItem

inductive PaymentStatus
  | pending
  | paid
  | failed
  | cancelled
  | refunded
  deriving DecidableEq

structure Payment where
  (id orderId : ℕ)
  method : String
  status : PaymentStatus := .pending

inductive OrderReturnStatus
  | requested
  | inspection
  | approved
  | completed
  | rejected
  deriving DecidableEq

def OrderReturnStatus.text : OrderReturnStatus → String
  | requested => "REQUESTED"
  | inspection => "INSPECTION"
  | approved => "APPROVED"
  | completed => "COMPLETED"
  | rejected => "REJECTED"

structure OrderReturnItem where
  (id orderItemId productId quantity : ℕ)
  unitCost : ℚ := 0
  (netAmount taxAmount grossAmount : ℚ)
  taxCodeId : Option ℕ := none

structure OrderReturn where
  (id companyId branchId orderId warehouseId : ℕ)
  status : OrderReturnStatus := .requested
  refundMethod : Option String := none
  inspectionId : Option ℕ := none
  accountingEventId : Option (ℕ × String) := none
  items : List OrderReturnItem

inductive InspectionResultCode
  | pass
  | fail
  | observation
  | notApplicable
  deriving DecidableEq

structure InspectionResultItem where
  (id inspectionId : ℕ)
  templateItemId : Option ℕ := none
  code : String
  label : String := ""
  result : InspectionResultCode
  productId : Option ℕ := none
  expectedQty : Option ℤ := none
  scannedQty : Option ℤ := none
  acceptedQty : Option ℤ := none
  rejectedQty : Option ℤ := none
  damagedQty : Option ℤ := none
  missingQty : Option ℤ := none
  extraQty : Option ℤ := none

/-! ### Payroll postings -/

structure RunPosting where
  payrollRunId : ℕ
  adjustmentPostingDate : Option ℕ := none
  postedJournalEntryId : Option ℕ := none

inductive PaymentDirection
  | outbound
  | recovery
  deriving DecidableEq

inductive PayrollPaymentStatus
  | pending
  | processing
  | paid
  | failed
  | cancelled
  deriving DecidableEq

def PayrollPaymentStatus.text : PayrollPaymentStatus → String
  | pending => "PENDING"
  | processing => "PROCESSING"
  | paid => "PAID"
  | failed => "FAILED"
  | cancelled => "CANCELLED"

structure PayrollPayment where
  (companyId payrollRunId employeeId : ℕ)
  paymentMethod : String
  direction : PaymentDirection := .outbound
  amount : ℚ
  status : PayrollPaymentStatus := .pending
  settlementAccountCode : Option String := none
  externalReference : Option String := none
  accountingEventId : Option (ℕ × String) := none
  createdAt : ℕ := 0

def PayrollPayment.payrollResultId (p : PayrollPayment) : ℕ × ℕ := (p.payrollRunId, p.employeeId)

structure PayrollAccountingMapping where
  (id companyId : ℕ)
  branchId : Option ℕ
  componentCode : String
  debitAccountId : Option ℕ := none
  creditAccountId : Option ℕ := none
  isActive : Bool := true

/-! ### The tables -/

structure FinanceDb where
  (now nextId : ℕ)
  procurement : ProcurementDb
  payroll : PayrollDb
  /-- The type of an account, by branch and code. -/
  accountType : ℕ × String → AccountType
  transactions : Table FinanceTransaction.id
  assets : Table Asset.id
  workOrders : Table MaintenanceWorkOrder.id
  fuelTransactions : Table FuelTransaction.id
  purchaseReturns : Table PurchaseReturn.id
  gatePasses : Table GatePass.id
  orders : Table Order.id
  payments : Table Payment.id
  orderReturns : Table OrderReturn.id
  inspectionResults : Table InspectionResultItem.id
  runPostings : Table RunPosting.payrollRunId
  /-- The end of a payroll period. -/
  periodEnd : ℕ → ℕ
  payrollPayments : Table PayrollPayment.payrollResultId
  accountingMappings : Table PayrollAccountingMapping.id

abbrev FinanceTx := Tx FinanceDb Failure

namespace FinanceDb

def procurementPart : Part FinanceDb ProcurementDb where
  get := FinanceDb.procurement
  set := fun db procurement => { db with procurement }

def ledgerPart : Part FinanceDb AccountingDb where
  get := fun db => db.procurement.ledger
  set := fun db ledger => { db with procurement.ledger := ledger }

def stockPart : Part FinanceDb Stock.Db where
  get := fun db => db.procurement.stock
  set := fun db stock => { db with procurement.stock := stock }

def payrollPart : Part FinanceDb PayrollDb where
  get := FinanceDb.payroll
  set := fun db payroll => { db with payroll }

def financeTransaction : TableOf FinanceDb FinanceTransaction.id :=
  ⟨FinanceDb.transactions, fun db t => { db with transactions := t }⟩

def purchaseReturn : TableOf FinanceDb PurchaseReturn.id :=
  ⟨FinanceDb.purchaseReturns, fun db t => { db with purchaseReturns := t }⟩

def inspection : TableOf FinanceDb OperationalInspection.id :=
  ⟨fun db => db.procurement.inspections, fun db t => { db with procurement.inspections := t }⟩

def order : TableOf FinanceDb Order.id :=
  ⟨FinanceDb.orders, fun db t => { db with orders := t }⟩

def payment : TableOf FinanceDb Payment.id :=
  ⟨FinanceDb.payments, fun db t => { db with payments := t }⟩

def orderReturn : TableOf FinanceDb OrderReturn.id :=
  ⟨FinanceDb.orderReturns, fun db t => { db with orderReturns := t }⟩

def payrollRun : TableOf FinanceDb PayrollRun.id :=
  ⟨fun db => db.payroll.runs, fun db t => { db with payroll.runs := t }⟩

def runPosting : TableOf FinanceDb RunPosting.payrollRunId :=
  ⟨FinanceDb.runPostings, fun db t => { db with runPostings := t }⟩

def payrollPayment : TableOf FinanceDb PayrollPayment.payrollResultId :=
  ⟨FinanceDb.payrollPayments, fun db t => { db with payrollPayments := t }⟩

def empty : FinanceDb where
  now := 0
  nextId := 0
  procurement :=
    { stock := .empty, ledger := .empty, warehouses := .empty, suppliers := .empty, orders := .empty,
      orderItems := .empty, receipts := .empty, inspections := .empty, policies := .empty,
      confirmations := .empty }
  payroll :=
    { nextId := 0, employees := .empty, periods := .empty, taxRuleSets := .empty,
      socialSecurityRuleSets := .empty, runs := .empty, results := .empty, lines := [],
      periodSummaries := .empty }
  accountType := fun _ => .asset
  transactions := .empty
  assets := .empty
  workOrders := .empty
  fuelTransactions := .empty
  purchaseReturns := .empty
  gatePasses := .empty
  orders := .empty
  payments := .empty
  orderReturns := .empty
  inspectionResults := .empty
  runPostings := .empty
  periodEnd := fun _ => 0
  payrollPayments := .empty
  accountingMappings := .empty

def freshId : FinanceTx ℕ := do
  let db ← get
  set { db with nextId := db.nextId + 1 }
  pure db.nextId

end FinanceDb

def headOffice : Transit.TenantScope := ⟨1, 1⟩

def grossRule (id : ℕ) (eventType debit credit : String) : AccountingPostingRule where
  id := id
  companyId := 1
  code := eventType
  eventType := eventType
  status := .active
  journalLines := [
    { accountCodeKey := debit, side := "DEBIT", amountKey := "gross" },
    { accountCodeKey := credit, side := "CREDIT", amountKey := "gross" }]

def leftBy {α : Type} (x : FinanceTx α) (db : FinanceDb) : FinanceDb := (execute x db).2

lemma commits_leftBy {α : Type} (x : FinanceTx α) (db : FinanceDb)
    (h : (execute x db).1.isOk = true) : ∃ a, Commits x db a (leftBy x db) := by
  cases hx : (execute x db).1 with
  | ok a => exact ⟨a, commits_of_execute hx⟩
  | error e =>
    rw [hx] at h
    cases h

end Mayatoko.Finance
