import Mayatoko.Finance.Snapshots

/-!
# Finance transactions

`create`, `approve`, `reject`, `cancel` and `post` of `FinanceOperationsService`, each one
serializable transaction. What a transaction settles is checked when it is created and again when
it is posted.
-/

namespace Mayatoko.Finance

open Core Accounting Transit Procurement FinanceDb

structure CreateFinanceTransaction where
  type : FinanceTransactionType
  description : String
  amount : ℚ
  taxCodeId : Option ℕ := none
  (debitAccountCode creditAccountCode : String)
  taxAccountCode : Option String := none
  counterpartyId : Option ℕ := none
  paymentMethod : Option String := none
  referenceType : Option String := none
  referenceId : Option ℕ := none
  transactionDate : Option ℕ := none
  requireApproval : Bool := false
  /-- The key of the request, or the random one that stands for it. -/
  idempotencyKey : String

/-- A text that is given; the empty text is none. -/
def given (text : Option String) : Bool := text.any (· ≠ "")

/-! ### Checks of a new transaction -/

namespace CreateFinanceTransaction

variable (dto : CreateFinanceTransaction) (tax : TaxedAmount)

/-- Settlements carry no tax. -/
def requireNoTax (message : String) : FinanceTx Unit :=
  require (dto.taxCodeId = none ∧ given dto.taxAccountCode = false ∧ tax.tax = 0)
    (.badRequest message)

def requireAsset (scope : TenantScope) (code message : String) : FinanceTx Unit := do
  let db ← get
  require ((db.activeAccount scope.branchId code .asset).isSome = true) (.badRequest message)

def requireAvailable (p : Position ℚ) (positive exceeds : String) : FinanceTx Unit := do
  require (0 < tax.gross) (.badRequest positive)
  require (tax.gross ≤ p.available) (.badRequest s!"{exceeds} ({toFixed2 p.available}).")

def checkCustomerReceipt (scope : TenantScope) : FinanceTx Unit := do
  let e := Failure.badRequest
    "Penerimaan pelanggan wajib mereferensikan Order yang sudah dikirim."
  require (dto.referenceType = some "Order") e
  let orderId ← orThrow dto.referenceId e
  dto.requireNoTax tax
    "Penerimaan piutang pelanggan tidak membuat pajak baru; tax code tidak boleh diisi."
  let receivable ← customerReceivableSnapshot scope orderId none
  require (dto.creditAccountCode = receivable.receivableAccountCode) (.badRequest
    (s!"Penerimaan {receivable.payment.method} wajib mengkredit akun " ++
      s!"{receivable.receivableAccountCode}."))
  requireAsset scope dto.debitAccountCode
    "Akun penerimaan pelanggan harus berupa akun aset aktif pada branch."
  requireAvailable tax receivable.position "Nominal penerimaan pelanggan harus lebih dari nol."
    "Penerimaan pelanggan melebihi piutang tersedia"

def checkCounterparty (supplierId : ℕ) : FinanceTx Unit :=
  require (dto.counterpartyId.all (· = supplierId)) (tenantAccessDenied "Supplier")

def payableTypes : List String := ["GoodsReceipt", "Asset", "MaintenanceWorkOrder", "FuelTransaction"]

def checkSupplierPayment (scope : TenantScope) : FinanceTx Unit := do
  let e := Failure.badRequest ("Pembayaran supplier wajib mereferensikan dokumen payable yang " ++
    "sudah diposting (GoodsReceipt/Asset/Maintenance/Fuel).")
  let referenceType ← orThrow dto.referenceType e
  let referenceId ← orThrow dto.referenceId e
  require (referenceType ∈ payableTypes) e
  dto.requireNoTax tax
    "Pembayaran utang supplier tidak membuat pajak baru; tax code tidak boleh diisi."
  require (dto.debitAccountCode = "2101")
    (.badRequest "Pembayaran supplier wajib mendebit akun Utang Usaha (2101).")
  requireAsset scope dto.creditAccountCode
    "Akun sumber pembayaran supplier harus berupa akun aset aktif pada branch (contoh Kas/Bank)."
  let payable ← supplierPayableReferenceSnapshot scope referenceType referenceId none
  dto.checkCounterparty payable.1
  requireAvailable tax payable.2 "Nominal pembayaran supplier harus lebih dari nol."
    "Pembayaran supplier melebihi sisa yang tersedia"

def checkSupplierRefund (scope : TenantScope) : FinanceTx Unit := do
  let e := Failure.badRequest
    "Refund supplier wajib mereferensikan PurchaseReturn yang sudah diposting."
  require (dto.referenceType = some "PurchaseReturn") e
  let purchaseReturnId ← orThrow dto.referenceId e
  dto.requireNoTax tax
    "Penerimaan refund supplier tidak membuat pajak baru; tax code tidak boleh diisi."
  require (dto.creditAccountCode = "1202")
    (.badRequest "Refund supplier wajib mengkredit akun Piutang Refund Supplier (1202).")
  requireAsset scope dto.debitAccountCode
    "Akun penerima refund supplier harus berupa akun aset aktif pada branch (Kas/Bank)."
  let receivable ← supplierRefundSnapshot scope purchaseReturnId none
  dto.checkCounterparty receivable.1.supplierId
  requireAvailable tax receivable.2 "Nominal refund supplier harus lebih dari nol."
    "Refund supplier melebihi piutang yang tersedia"

def checkPayrollLiabilityPayment (scope : TenantScope) : FinanceTx Unit := do
  let e := Failure.badRequest
    "Pembayaran kewajiban payroll wajib mereferensikan PayrollRun yang sudah diposting."
  require (dto.referenceType = some "PayrollRun") e
  let payrollRunId ← orThrow dto.referenceId e
  dto.requireNoTax tax
    "Pelunasan kewajiban payroll tidak membuat pajak baru; tax code tidak boleh diisi."
  require (dto.debitAccountCode = "2103" ∨ dto.debitAccountCode = "2104") (.badRequest
    ("Pelunasan kewajiban payroll wajib mendebit 2103 (PPh payroll) atau 2104 (BPJS/potongan " ++
      "payroll)."))
  requireAsset scope dto.creditAccountCode
    "Sumber pembayaran kewajiban payroll harus berupa akun aset aktif pada branch (Kas/Bank)."
  let liability ← payrollLiabilitySnapshot scope payrollRunId dto.debitAccountCode none
  requireAvailable tax liability "Nominal pembayaran kewajiban payroll harus lebih dari nol."
    "Pembayaran kewajiban payroll melebihi saldo tersedia"

def taxPayableCodes : List String := ["2103", "2201", "2202"]

/-- A tax payment need not refer to a document, and its amount is not compared with one. -/
def checkTaxPayment (scope : TenantScope) : FinanceTx Unit := do
  dto.requireNoTax tax
    "Pembayaran utang pajak tidak membuat pajak baru; tax code tidak boleh diisi."
  let db ← get
  require ((db.activeAccount scope.branchId dto.debitAccountCode .liability).isSome = true ∧
      dto.debitAccountCode ∈ taxPayableCodes)
    (.badRequest "Pembayaran pajak wajib mendebit akun utang pajak aktif (2103/2201/2202).")
  requireAsset scope dto.creditAccountCode
    "Pembayaran pajak wajib mengkredit akun aset aktif pada branch (Kas/Bank)."
  require (0 < tax.gross) (.badRequest "Nominal pembayaran pajak harus lebih dari nol.")

def checkNew (scope : TenantScope) : FinanceTx Unit :=
  match dto.type with
  | .customerReceipt => dto.checkCustomerReceipt tax scope
  | .supplierPayment => dto.checkSupplierPayment tax scope
  | .supplierRefund => dto.checkSupplierRefund tax scope
  | .payrollLiabilityPayment => dto.checkPayrollLiabilityPayment tax scope
  | .taxPayment => dto.checkTaxPayment tax scope
  | _ => pure ()

/-- The tax scopes of a type; none stand for any. -/
def expectedTaxScopes : List TaxScope :=
  match dto.type with
  | .operatingExpense => [.expense, .purchase, .other]
  | .otherIncome => [.sale, .other]
  | _ => []

def sameIdentity (existing : FinanceTransaction) : Bool :=
  existing.type = dto.type && existing.description = dto.description &&
    existing.netAmount = tax.net && existing.taxAmount = tax.tax &&
    existing.grossAmount = tax.gross && existing.taxCodeId = dto.taxCodeId &&
    existing.debitAccountCode = dto.debitAccountCode &&
    existing.creditAccountCode = dto.creditAccountCode &&
    existing.taxAccountCode = dto.taxAccountCode && existing.paymentMethod = dto.paymentMethod &&
    existing.referenceType = dto.referenceType && existing.referenceId = dto.referenceId

def row (scope : TenantScope) (id transactionDate : ℕ) : FinanceTransaction where
  id := id
  companyId := scope.companyId
  branchId := scope.branchId
  type := dto.type
  status := if dto.requireApproval then .waitingApproval else .draft
  transactionDate := transactionDate
  counterpartyId := dto.counterpartyId
  description := dto.description
  netAmount := tax.net
  taxAmount := tax.tax
  grossAmount := tax.gross
  taxCodeId := dto.taxCodeId
  debitAccountCode := dto.debitAccountCode
  creditAccountCode := dto.creditAccountCode
  taxAccountCode := dto.taxAccountCode
  paymentMethod := dto.paymentMethod
  referenceType := dto.referenceType
  referenceId := dto.referenceId
  idempotencyKey := dto.idempotencyKey

end CreateFinanceTransaction

def FinanceDb.transactionOfKey (db : FinanceDb) (companyId : ℕ) (idempotencyKey : String) :
    Option FinanceTransaction :=
  (db.transactions.findMany fun t =>
    t.companyId = companyId && t.idempotencyKey = idempotencyKey).head?

/-- The part of `create` behind the lookup of the idempotency key. -/
def insertNew (scope : TenantScope) (dto : CreateFinanceTransaction) (tax : TaxedAmount)
    (transactionDate : ℕ) : FinanceTx FinanceTransaction := do
  dto.checkNew tax scope
  let id ← freshId
  let created := dto.row tax scope id transactionDate
  financeTransaction.create created .uniqueViolation
  pure created

def create (scope : TenantScope) (dto : CreateFinanceTransaction) :
    FinanceTx FinanceTransaction := do
  let db ← get
  let transactionDate := dto.transactionDate.getD db.now
  let tax ← ledgerPart.lift
    (calculateTax dto.taxCodeId dto.amount scope.companyId transactionDate dto.expectedTaxScopes)
  require (tax.tax = 0 ∨ given dto.taxAccountCode = true)
    (.badRequest "Akun pajak wajib diisi ketika transaksi memiliki pajak.")
  match db.transactionOfKey scope.companyId dto.idempotencyKey with
  | some existing => do
    require (existing.branchId = scope.branchId) (tenantAccessDenied "OperationalFinanceTransaction")
    require (dto.sameIdentity tax existing = true) (.conflict
      "Idempotency key sudah digunakan untuk transaksi keuangan dengan payload berbeda.")
    pure existing
  | none => insertNew scope dto tax transactionDate

/-! ### Approval and cancellation -/

def scopedTransaction (scope : TenantScope) (id : ℕ) : FinanceTx FinanceTransaction := do
  let db ← get
  orThrow ((db.transactions.find? id).filter fun t =>
      t.companyId = scope.companyId && t.branchId = scope.branchId)
    (tenantAccessDenied "OperationalFinanceTransaction")

def moveTo (scope : TenantScope) (id : ℕ) (source : List FinanceTransactionStatus)
    (target : FinanceTransactionStatus) (message : FinanceTransactionStatus → String) :
    FinanceTx FinanceTransaction := do
  let row ← scopedTransaction scope id
  require (row.status ∈ source) (.badRequest (message row.status))
  financeTransaction.update row.id (fun t => { t with status := target }) .recordNotFound

def approve (scope : TenantScope) (id : ℕ) : FinanceTx FinanceTransaction :=
  moveTo scope id [.draft, .waitingApproval] .approved fun s => s!"Transaksi berstatus {s.text}."

def reject (scope : TenantScope) (id : ℕ) : FinanceTx FinanceTransaction :=
  moveTo scope id [.waitingApproval] .cancelled fun s =>
    s!"Transaksi hanya dapat ditolak dari status WAITING_APPROVAL, status saat ini {s.text}."

def cancel (scope : TenantScope) (id : ℕ) : FinanceTx FinanceTransaction :=
  moveTo scope id [.draft, .waitingApproval, .approved] .cancelled fun s =>
    s!"Transaksi tidak dapat dibatalkan dari status {s.text}."

/-! ### Posting -/

def FinanceTransactionType.eventType : FinanceTransactionType → String
  | operatingExpense => "OPERATING_EXPENSE"
  | otherIncome => "OTHER_INCOME"
  | customerReceipt => "CUSTOMER_RECEIPT"
  | supplierPayment => "SUPPLIER_PAYMENT"
  | supplierRefund => "SUPPLIER_REFUND"
  | taxPayment => "TAX_PAYMENT"
  | payrollLiabilityPayment => "PAYROLL_LIABILITY_PAYMENT"
  | cashTransfer => "BALANCE_TRANSFER"
  | bankTransfer => "BALANCE_TRANSFER"
  | other => "BALANCE_TRANSFER"

namespace FinanceTransaction

variable (row : FinanceTransaction)

def requireAvailable (p : Position ℚ) (exceeds : String) : FinanceTx Unit :=
  require (row.grossAmount ≤ p.available) (.badRequest s!"{exceeds} ({toFixed2 p.available}).")

/-- The receivable of a customer receipt, looked at again; no other type has one. -/
def customerReceivable (scope : TenantScope) : FinanceTx (Option CustomerReceivable) :=
  if row.type = .customerReceipt then do
    let e := Failure.badRequest "Penerimaan pelanggan kehilangan referensi Order."
    require (row.referenceType = some "Order") e
    let orderId ← orThrow row.referenceId e
    let receivable ← customerReceivableSnapshot scope orderId (some row.id)
    require (row.creditAccountCode = receivable.receivableAccountCode)
      (.badRequest "Akun piutang penerimaan pelanggan tidak sesuai metode order.")
    row.requireAvailable receivable.position
      "Penerimaan pelanggan melebihi piutang tersedia saat posting"
    pure (some receivable)
  else pure none

def recheckSupplierPayment (scope : TenantScope) : FinanceTx Unit := do
  let e := Failure.badRequest "Pembayaran supplier kehilangan referensi payable yang valid."
  let referenceType ← orThrow row.referenceType e
  let referenceId ← orThrow row.referenceId e
  require (referenceType ∈ CreateFinanceTransaction.payableTypes) e
  let payable ← supplierPayableReferenceSnapshot scope referenceType referenceId (some row.id)
  row.requireAvailable payable.2 "Pembayaran supplier melebihi utang tersedia saat posting"

def recheckSupplierRefund (scope : TenantScope) : FinanceTx Unit := do
  let e := Failure.badRequest "Refund supplier kehilangan referensi PurchaseReturn."
  require (row.referenceType = some "PurchaseReturn") e
  let purchaseReturnId ← orThrow row.referenceId e
  let receivable ← supplierRefundSnapshot scope purchaseReturnId (some row.id)
  row.requireAvailable receivable.2 "Refund supplier melebihi piutang tersedia saat posting"

def recheckPayrollLiabilityPayment (scope : TenantScope) : FinanceTx Unit := do
  let e := Failure.badRequest "Pembayaran kewajiban payroll kehilangan referensi PayrollRun."
  require (row.referenceType = some "PayrollRun") e
  let payrollRunId ← orThrow row.referenceId e
  require (row.debitAccountCode = "2103" ∨ row.debitAccountCode = "2104")
    (.badRequest "Akun kewajiban payroll tidak lagi valid saat posting.")
  let db ← get
  require ((db.activeAccount scope.branchId row.creditAccountCode .asset).isSome = true)
    (.badRequest "Akun sumber settlement payroll tidak lagi valid saat posting.")
  let liability ← payrollLiabilitySnapshot scope payrollRunId row.debitAccountCode (some row.id)
  row.requireAvailable liability
    "Pembayaran kewajiban payroll melebihi saldo tersedia saat posting"

def recheckTaxPayment (scope : TenantScope) : FinanceTx Unit := do
  let db ← get
  require ((db.activeAccount scope.branchId row.debitAccountCode .liability).isSome = true ∧
      row.debitAccountCode ∈ CreateFinanceTransaction.taxPayableCodes ∧
      (db.activeAccount scope.branchId row.creditAccountCode .asset).isSome = true)
    (.badRequest "Akun pembayaran pajak tidak lagi valid saat posting.")

def recheck (scope : TenantScope) : FinanceTx Unit :=
  match row.type with
  | .supplierPayment => row.recheckSupplierPayment scope
  | .supplierRefund => row.recheckSupplierRefund scope
  | .payrollLiabilityPayment => row.recheckPayrollLiabilityPayment scope
  | .taxPayment => row.recheckTaxPayment scope
  | _ => pure ()

def eventAmounts : List (String × ℚ) :=
  match row.type with
  | .operatingExpense =>
    [("net", row.netAmount), ("inputTax", row.taxAmount), ("gross", row.grossAmount)]
  | .otherIncome =>
    [("gross", row.grossAmount), ("net", row.netAmount), ("outputTax", row.taxAmount)]
  | _ => [("gross", row.grossAmount)]

def eventAccounts : List (String × String) :=
  match row.type with
  | .operatingExpense =>
    [("expense", row.debitAccountCode),
      ("inputTax", row.taxAccountCode.getD row.debitAccountCode),
      ("settlement", row.creditAccountCode)]
  | .otherIncome =>
    [("settlement", row.debitAccountCode), ("revenue", row.creditAccountCode),
      ("outputTax", row.taxAccountCode.getD row.creditAccountCode)]
  | .customerReceipt =>
    [("settlement", row.debitAccountCode), ("receivable", row.creditAccountCode)]
  | .supplierPayment => [("payable", row.debitAccountCode), ("settlement", row.creditAccountCode)]
  | .supplierRefund =>
    [("settlement", row.debitAccountCode), ("supplierReceivable", row.creditAccountCode)]
  | .payrollLiabilityPayment =>
    [("payrollLiability", row.debitAccountCode), ("settlement", row.creditAccountCode)]
  | .taxPayment => [("taxPayable", row.debitAccountCode), ("settlement", row.creditAccountCode)]
  | _ => [("debit", row.debitAccountCode), ("credit", row.creditAccountCode)]

def eventTaxLines : List TaxLine :=
  match row.taxCodeId with
  | none => []
  | some taxCodeId =>
    if row.taxAmount = 0 then []
    else [⟨taxCodeId, if row.type = .otherIncome then .output else .input, row.netAmount,
      row.taxAmount⟩]

def eventInput (scope : TenantScope) : PostOperationalEventInput where
  companyId := scope.companyId
  branchId := scope.branchId
  eventType := row.type.eventType
  sourceType := "OperationalFinanceTransaction"
  sourceId := toString row.id
  idempotencyKey := s!"accounting:{row.idempotencyKey}"
  businessDate := some row.transactionDate
  amounts := row.eventAmounts
  accountCodes := row.eventAccounts
  taxLines := row.eventTaxLines

end FinanceTransaction

def settleOrderPayment (receivable : Option CustomerReceivable) (grossAmount : ℚ) :
    FinanceTx Unit :=
  match receivable with
  | none => pure ()
  | some r =>
    if r.position.total ≤ r.position.settled + grossAmount then do
      let _ ← payment.update r.payment.id (fun p => { p with status := .paid }) .recordNotFound
    else pure ()

def post (scope : TenantScope) (id : ℕ) : FinanceTx FinanceTransaction := do
  let row ← scopedTransaction scope id
  require (row.status ∈ [.draft, .approved])
    (.badRequest s!"Transaksi tidak dapat diposting dari status {row.status.text}.")
  let receivable ← row.customerReceivable scope
  row.recheck scope
  let event ← ledgerPart.lift (postOperationalEvent (row.eventInput scope))
  let posted ← financeTransaction.update row.id
    (fun t => { t with status := .posted, accountingEventId := some event.key }) .recordNotFound
  settleOrderPayment receivable row.grossAmount
  pure posted

inductive FinanceCall
  | create (scope : TenantScope) (dto : CreateFinanceTransaction)
  | approve (scope : TenantScope) (id : ℕ)
  | reject (scope : TenantScope) (id : ℕ)
  | cancel (scope : TenantScope) (id : ℕ)
  | post (scope : TenantScope) (id : ℕ)

namespace FinanceCall

def scope : FinanceCall → TenantScope
  | create scope _ => scope
  | approve scope _ => scope
  | reject scope _ => scope
  | cancel scope _ => scope
  | post scope _ => scope

def posts : FinanceCall → Option ℕ
  | post _ id => some id
  | _ => none

def tx : FinanceCall → FinanceTx FinanceTransaction
  | create scope dto => Finance.create scope dto
  | approve scope id => Finance.approve scope id
  | reject scope id => Finance.reject scope id
  | cancel scope id => Finance.cancel scope id
  | post scope id => Finance.post scope id

end FinanceCall

end Mayatoko.Finance
