import Mayatoko.Finance.Transactions

/-!
# Payroll runs next to their postings

`createRun`, `createAdjustmentRun`, `cancelRun` and `settlePayment` of `PayrollService`, and the
accounts that its postings use. A run is named by its id in place of its number, a payment by the key
of its result; the scope that a request names has been compared with the user's. Texts are taken as
already trimmed.
-/

namespace Mayatoko.Finance

open Core Accounting Transit Procurement FinanceDb

def payrollScope (scope : TenantScope) : Payroll.TenantScope := ⟨scope.companyId, scope.branchId⟩

/-- The length of a text in UTF-16 units. -/
def utf16Length (text : String) : ℕ :=
  (text.toList.map fun c => if c.toNat < 0x10000 then 1 else 2).sum

namespace FinanceDb

variable (db : FinanceDb)

def postingOf (runId : ℕ) : RunPosting := (db.runPostings.find? runId).getD ⟨runId, none, none⟩

def adjustmentsOf (scope : TenantScope) (sourceId : ℕ) : List Payroll.PayrollRun :=
  db.payroll.runs.findMany fun r => r.companyId = scope.companyId &&
    r.branchId = some scope.branchId && r.adjustmentOfRunId = some sourceId

def paymentsOf (scope : TenantScope) (runId : ℕ) : List PayrollPayment :=
  db.payrollPayments.findMany fun p => p.companyId = scope.companyId && p.payrollRunId = runId

end FinanceDb

/-! ### New runs -/

structure CreatePayrollRun where
  payrollPeriodId : ℕ
  taxRuleSetId : Option ℕ := none
  socialSecurityRuleSetId : Option ℕ := none

structure CreatePayrollAdjustmentRun where
  postingDate : Option ℕ := none
  taxRuleSetId : Option ℕ := none
  socialSecurityRuleSetId : Option ℕ := none

def insertRun (run : Payroll.PayrollRun) (adjustmentPostingDate : Option ℕ) :
    FinanceTx Payroll.PayrollRun := do
  payrollRun.create run .uniqueViolation
  let posting : RunPosting := ⟨run.id, adjustmentPostingDate, none⟩
  let _ ← runPosting.upsert posting fun _ => posting
  pure run

def assertRuleSets (scope : TenantScope) (taxRuleSetId socialSecurityRuleSetId : Option ℕ) :
    FinanceTx Unit := do
  let db ← get
  let payroll := db.payroll
  payrollPart.lift
    (Payroll.PayrollDb.assertRuleSet payroll.taxRuleSets (payrollScope scope) "TaxRuleSet" taxRuleSetId)
  payrollPart.lift
    (Payroll.PayrollDb.assertRuleSet payroll.socialSecurityRuleSets (payrollScope scope)
      "SocialSecurityRuleSet" socialSecurityRuleSetId)

def findScopedRun (scope : TenantScope) (runId : ℕ) : FinanceTx Payroll.PayrollRun := do
  let db ← get
  payrollPart.lift (db.payroll.scopedRun (payrollScope scope) runId)

def findPeriod (scope : TenantScope) (periodId : ℕ) : FinanceTx Payroll.PayrollPeriod := do
  let db ← get
  payrollPart.lift (db.payroll.assertPeriod (payrollScope scope) periodId)

/-- The regular run of the branch and period that is not cancelled. -/
def FinanceDb.regularRun (db : FinanceDb) (scope : TenantScope) (periodId : ℕ) :
    Option Payroll.PayrollRun :=
  (db.payroll.runs.findMany fun r => r.companyId = scope.companyId &&
    r.branchId = some scope.branchId && r.payrollPeriodId = periodId && r.adjustmentOfRunId = none &&
    r.status ≠ .cancelled).head?

def createRun (scope : TenantScope) (dto : CreatePayrollRun) : FinanceTx Payroll.PayrollRun := do
  let period ← findPeriod scope dto.payrollPeriodId
  require (period.status = "OPEN") (.badRequest s!"Periode payroll {period.code} tidak OPEN.")
  assertRuleSets scope dto.taxRuleSetId dto.socialSecurityRuleSetId
  let db ← get
  match db.regularRun scope dto.payrollPeriodId with
  | some existing => do
    require (existing.taxRuleSetId = dto.taxRuleSetId ∧
        existing.socialSecurityRuleSetId = dto.socialSecurityRuleSetId)
      (.conflict s!"Payroll run aktif untuk periode {period.code} dan branch ini sudah ada.")
    pure existing
  | none => do
    let id ← freshId
    insertRun
      { id
        companyId := scope.companyId
        branchId := some scope.branchId
        payrollPeriodId := dto.payrollPeriodId
        taxRuleSetId := dto.taxRuleSetId
        socialSecurityRuleSetId := dto.socialSecurityRuleSetId } none

def adjustmentOpen (s : Payroll.PayrollRunStatus) : Bool :=
  s ∈ [.draft, .calculating, .review, .approved, .posted]

def FinanceDb.openAdjustment (db : FinanceDb) (scope : TenantScope) (sourceId : ℕ) :
    Option Payroll.PayrollRun :=
  db.payroll.runs.findFirst
    (fun r => r.companyId = scope.companyId && r.branchId = some scope.branchId &&
      r.adjustmentOfRunId = some sourceId && adjustmentOpen r.status)
    fun a b => b.adjustmentSequence ≤ a.adjustmentSequence

def createAdjustmentRun (scope : TenantScope) (sourceRunId : ℕ) (dto : CreatePayrollAdjustmentRun) :
    FinanceTx Payroll.PayrollRun := do
  let source ← findScopedRun scope sourceRunId
  require (source.adjustmentOfRunId = none)
    (.badRequest "Adjustment harus dibuat dari payroll run reguler, bukan dari adjustment lain.")
  require (source.status.recognized = true)
    (.badRequest "Adjustment hanya dapat dibuat dari payroll run POSTED/PAID.")
  let _ ← findPeriod scope source.payrollPeriodId
  let taxRuleSetId := dto.taxRuleSetId.or source.taxRuleSetId
  let socialSecurityRuleSetId := dto.socialSecurityRuleSetId.or source.socialSecurityRuleSetId
  assertRuleSets scope taxRuleSetId socialSecurityRuleSetId
  let db ← get
  refuse (db.openAdjustment scope source.id) fun r => .conflict
    s!"Adjustment {r.id} masih aktif. Selesaikan atau batalkan sebelum membuat adjustment baru."
  let previousCount := (db.adjustmentsOf scope source.id).length
  let id ← freshId
  insertRun
    { id
      companyId := scope.companyId
      branchId := some scope.branchId
      payrollPeriodId := source.payrollPeriodId
      taxRuleSetId
      socialSecurityRuleSetId
      adjustmentOfRunId := some source.id
      adjustmentSequence := previousCount + 1 } (some (dto.postingDate.getD db.now))

def cancelRun (scope : TenantScope) (runId : ℕ) (reason : String) :
    FinanceTx Payroll.PayrollRun := do
  require (5 ≤ utf16Length reason)
    (.badRequest "Alasan pembatalan payroll minimal 5 karakter.")
  let run ← findScopedRun scope runId
  require (run.status ∈ [.draft, .review, .approved]) (.badRequest
    ("Payroll hanya dapat dibatalkan sebelum posting accounting. Run POSTED/PAID tetap " ++
      "immutable."))
  let db ← get
  require ((db.postingOf run.id).postedJournalEntryId = none)
    (.badRequest "Payroll yang sudah memiliki jurnal posting tidak dapat dibatalkan.")
  require (db.paymentsOf scope run.id = [])
    (.badRequest "Payroll yang sudah memiliki instruksi settlement tidak dapat dibatalkan.")
  payrollRun.update run.id (fun r => { r with status := .cancelled }) .recordNotFound

/-! ### Accounts -/

inductive PayrollMapping
  | expense
  | salaryPayable
  | taxPayable
  | otherPayable
  | employeeReceivable

def PayrollMapping.code : PayrollMapping → String
  | expense => "__PAYROLL_EXPENSE__"
  | salaryPayable => "__SALARY_PAYABLE__"
  | taxPayable => "__PAYROLL_TAX_PAYABLE__"
  | otherPayable => "__PAYROLL_OTHER_PAYABLE__"
  | employeeReceivable => "__PAYROLL_RECEIVABLE__"

structure PayrollAccounts where
  (payrollExpense salaryPayable payrollTaxPayable payrollOtherPayable : String)
  payrollReceivable : Option String

namespace FinanceDb

variable (db : FinanceDb)

def accountMapping (scope : TenantScope) (mapping : PayrollMapping) :
    Option PayrollAccountingMapping :=
  let mappings := db.accountingMappings.findMany fun m =>
    m.companyId = scope.companyId && m.isActive && m.componentCode = mapping.code
  (mappings.find? fun m => m.branchId = some scope.branchId).or
    (mappings.find? fun m => m.branchId = none)

/-- The code of an active account of the branch; the empty code is none. -/
def accountCodeOf (branchId accountId : ℕ) : Option String :=
  ((db.procurement.ledger.accounts.findMany fun a =>
      a.id = accountId && a.branchId = branchId && a.isActive).head?.map Account.code).filter
    (· ≠ "")

end FinanceDb

def resolvePayrollAccounts (scope : TenantScope) : FinanceTx PayrollAccounts := do
  let db ← get
  let incomplete := Failure.badRequest ("PayrollAccountingMapping belum lengkap. Jalankan canonical " ++
    "seed/konfigurasi akun payroll sebelum posting.")
  let inactive := Failure.badRequest "Akun mapping payroll tidak aktif atau bukan milik branch ini."
  let expense ← orThrow ((db.accountMapping scope .expense).bind (·.debitAccountId)) incomplete
  let salary ← orThrow ((db.accountMapping scope .salaryPayable).bind (·.creditAccountId)) incomplete
  let tax ← orThrow ((db.accountMapping scope .taxPayable).bind (·.creditAccountId)) incomplete
  let other ← orThrow ((db.accountMapping scope .otherPayable).bind (·.creditAccountId)) incomplete
  let receivable := (db.accountMapping scope .employeeReceivable).bind (·.debitAccountId)
  let payrollExpense ← orThrow (db.accountCodeOf scope.branchId expense) inactive
  let salaryPayable ← orThrow (db.accountCodeOf scope.branchId salary) inactive
  let payrollTaxPayable ← orThrow (db.accountCodeOf scope.branchId tax) inactive
  let payrollOtherPayable ← orThrow (db.accountCodeOf scope.branchId other) inactive
  pure
    { payrollExpense, salaryPayable, payrollTaxPayable, payrollOtherPayable
      payrollReceivable := receivable.bind (db.accountCodeOf scope.branchId) }

/-! ### Settlement of payments -/

structure SettlePayrollPayment where
  (settlementAccountCode paymentMethod : String)
  externalReference : Option String := none
  paidAt : Option ℕ := none

def PayrollPayment.remains (p : PayrollPayment) : Bool := p.status ≠ .paid && p.status ≠ .cancelled

namespace PayrollPayment

variable (p : PayrollPayment)

def text : String := s!"{p.payrollRunId}:{p.employeeId}"

def settledAs (dto : SettlePayrollPayment) : Bool :=
  p.settlementAccountCode = some dto.settlementAccountCode && p.paymentMethod = dto.paymentMethod &&
    p.externalReference = dto.externalReference

def missingAccount : Failure :=
  .badRequest (match p.direction with
    | .recovery => "Akun penerimaan recovery harus berupa akun aset aktif pada branch."
    | .outbound => "Akun sumber pembayaran gaji harus berupa akun aset aktif pada branch.")

def settlementEvent (scope : TenantScope) (accounts : PayrollAccounts) (settlement : String)
    (paidAt : ℕ) : PostOperationalEventInput where
  companyId := scope.companyId
  branchId := scope.branchId
  eventType := match p.direction with
    | .recovery => "PAYROLL_EMPLOYEE_RECOVERY"
    | .outbound => "PAYROLL_SALARY_PAYMENT"
  sourceType := "PayrollPayment"
  sourceId := p.text
  idempotencyKey := match p.direction with
    | .recovery => s!"payroll-employee-recovery:{p.text}"
    | .outbound => s!"payroll-salary-payment:{p.text}"
  businessDate := some paidAt
  amounts := [("gross", p.amount)]
  accountCodes := match p.direction with
    | .recovery =>
      [("settlement", settlement), ("payrollReceivable", accounts.payrollReceivable.getD "")]
    | .outbound => [("salaryPayable", accounts.salaryPayable), ("settlement", settlement)]

end PayrollPayment

/-- The run is paid once none of its payments remains. -/
def payRun (scope : TenantScope) (runId : ℕ) : FinanceTx Unit := do
  let db ← get
  if (db.paymentsOf scope runId).filter PayrollPayment.remains = [] then do
    let _ ← payrollRun.update runId (fun r => { r with status := .paid }) .recordNotFound
  else pure ()

/-- The part of `settlePayment` behind the checks of the status. -/
def payOut (scope : TenantScope) (payment : PayrollPayment) (dto : SettlePayrollPayment) :
    FinanceTx PayrollPayment := do
  let db ← get
  let settlementAccount ← orThrow (db.activeAccount scope.branchId dto.settlementAccountCode .asset)
    payment.missingAccount
  require (settlementAccount.code = "1101" ∨ given dto.externalReference = true)
    (.badRequest "Referensi transaksi bank wajib diisi untuk settlement payroll non-tunai.")
  let accounts ← resolvePayrollAccounts scope
  require (payment.direction = .recovery → accounts.payrollReceivable.isSome = true)
    (.badRequest "Mapping __PAYROLL_RECEIVABLE__ belum dikonfigurasi.")
  let event ← ledgerPart.lift (postOperationalEvent
    (payment.settlementEvent scope accounts settlementAccount.code (dto.paidAt.getD db.now)))
  let updated ← payrollPayment.update payment.payrollResultId
    (fun p => { p with
      status := .paid
      paymentMethod := dto.paymentMethod
      settlementAccountCode := some settlementAccount.code
      externalReference := dto.externalReference.or p.externalReference
      accountingEventId := some event.key }) .recordNotFound
  payRun scope payment.payrollRunId
  pure updated

def settlePayment (scope : TenantScope) (paymentId : ℕ × ℕ) (dto : SettlePayrollPayment) :
    FinanceTx PayrollPayment := do
  let db ← get
  let payment ← orThrow ((db.payrollPayments.find? paymentId).filter fun p =>
    p.companyId = scope.companyId) (tenantAccessDenied "PayrollPayment")
  let run ← findScopedRun scope payment.payrollRunId
  require (run.status.recognized = true) (.badRequest
    s!"Payroll run berstatus {run.status.text}; settlement belum dapat diselesaikan.")
  if payment.status = .paid then do
    require (payment.settledAs dto = true)
      (.conflict "Payroll payment sudah PAID dengan detail settlement berbeda.")
    pure payment
  else do
    require (payment.status = .pending ∨ payment.status = .failed)
      (.badRequest s!"Payroll payment berstatus {payment.status.text}.")
    payOut scope payment dto

end Mayatoko.Finance
