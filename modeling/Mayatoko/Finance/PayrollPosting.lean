import Mayatoko.Finance.PayrollRuns

/-!
# Posting of payroll runs

`postAccounting` of `PayrollService`, one serializable transaction. A regular run posts one event and
prepares a payment for every positive net pay. An adjustment reduces the payments of the recognised
runs that are still pending, turns the rest of a negative net pay into a recovery and writes its
journal by itself. The amounts come from columns with two decimals and are stored as they are.
-/

namespace Mayatoko.Finance

open Core Accounting Transit Procurement FinanceDb

/-- What `postAccounting` has read of a run. -/
structure PostingInputs where
  scope : TenantScope
  run : Payroll.PayrollRun
  accounts : PayrollAccounts
  results : List Payroll.PayrollResult

namespace PostingInputs

variable (i : PostingInputs)

def employeeContribution : ℚ := (i.results.map fun r => r.employeeContribution).sum

def otherDeductions : ℚ := (i.results.map fun r => r.otherDeductions).sum

def payrollOtherPayable : ℚ :=
  i.employeeContribution + i.otherDeductions + i.run.employerContributionTotal

def expense : ℚ := i.run.netTotal + i.run.taxTotal + i.payrollOtherPayable

def increases : List Payroll.PayrollResult := i.results.filter fun r => 0 < r.netPay

def decreases : List Payroll.PayrollResult := i.results.filter fun r => r.netPay < 0

def taxLine (taxCodeId : ℕ) : TaxLine where
  taxCodeId := taxCodeId
  direction := .withholding
  taxableBase := (i.results.map fun r => r.taxableIncome).sum
  taxAmount := i.run.taxTotal

end PostingInputs

def FinanceDb.withholdingCode (db : FinanceDb) (companyId : ℕ) : Option TaxCode :=
  (db.procurement.ledger.taxCodes.findMany fun t =>
    t.companyId = companyId && t.code = "PAYROLL_WITHHOLDING" && t.status = "ACTIVE").head?

def upsertPayment (i : PostingInputs) (result : Payroll.PayrollResult) (paymentMethod : String)
    (direction : PaymentDirection) (amount : ℚ) (f : PayrollPayment → PayrollPayment) :
    FinanceTx Unit := do
  let db ← get
  let _ ← payrollPayment.upsert
    { companyId := i.scope.companyId
      payrollRunId := i.run.id
      employeeId := result.employeeId
      paymentMethod
      direction
      amount
      createdAt := db.now } f

def markPosted (i : PostingInputs) (status : Payroll.PayrollRunStatus) (entryId : Option ℕ) :
    FinanceTx Payroll.PayrollRun := do
  let _ ← runPosting.upsert ⟨i.run.id, none, entryId⟩ fun p => { p with postedJournalEntryId := entryId }
  payrollRun.update i.run.id (fun r => { r with status }) .recordNotFound

def PostingInputs.regularEvent (i : PostingInputs) (businessDate : ℕ) (taxCode : Option TaxCode) :
    PostOperationalEventInput where
  companyId := i.scope.companyId
  branchId := i.scope.branchId
  eventType := "PAYROLL_POSTED"
  sourceType := "PayrollRun"
  sourceId := toString i.run.id
  idempotencyKey := s!"payroll-post:{i.run.id}"
  businessDate := some businessDate
  amounts :=
    [("payrollExpense", i.expense), ("salaryPayable", i.run.netTotal),
      ("payrollTaxPayable", i.run.taxTotal), ("payrollOtherPayable", i.payrollOtherPayable),
      ("gross", i.expense), ("net", i.run.grossTotal), ("tax", i.run.taxTotal)]
  accountCodes :=
    [("payrollExpense", i.accounts.payrollExpense), ("salaryPayable", i.accounts.salaryPayable),
      ("payrollTaxPayable", i.accounts.payrollTaxPayable),
      ("payrollOtherPayable", i.accounts.payrollOtherPayable)] ++
        (i.accounts.payrollReceivable.map fun code => ("payrollReceivable", code)).toList
  taxLines :=
    if 0 < i.run.taxTotal then (taxCode.map fun t => i.taxLine t.id).toList else []

def postRegular (i : PostingInputs) : FinanceTx Payroll.PayrollRun := do
  let db ← get
  let event ← ledgerPart.lift (postOperationalEvent (i.regularEvent
    (db.periodEnd i.run.payrollPeriodId) (db.withholdingCode i.scope.companyId)))
  i.increases.forM fun r => upsertPayment i r "PENDING_SELECTION" .outbound r.netPay
    fun p => { p with direction := .outbound, amount := r.netPay }
  let db ← get
  markPosted i (if db.paymentsOf i.scope i.run.id = [] then .paid else .posted) event.journalEntryId

/-! ### The checks of an adjustment -/

namespace FinanceDb

variable (db : FinanceDb)

def recognitionRuns (scope : TenantScope) (source run : Payroll.PayrollRun) :
    List Payroll.PayrollRun :=
  source :: db.payroll.runs.findSorted
    (fun r => r.companyId = scope.companyId && r.branchId = some scope.branchId &&
      r.adjustmentOfRunId = some source.id && r.id ≠ run.id &&
      r.adjustmentSequence < run.adjustmentSequence && r.status.recognized)
    fun a b => a.adjustmentSequence ≤ b.adjustmentSequence

def liabilitySettlements (scope : TenantScope) (runIds : List ℕ) : List FinanceTransaction :=
  db.transactions.findMany fun t => t.companyId = scope.companyId && t.branchId = scope.branchId &&
    t.referenceType = some "PayrollRun" && t.referenceId.any (fun id => id ∈ runIds) &&
    (t.type = .payrollLiabilityPayment || t.type = .taxPayment) && t.status ≠ .cancelled

def outboundPayments (scope : TenantScope) (employeeId : ℕ) (runIds : List ℕ)
    (statuses : List PayrollPaymentStatus) : List PayrollPayment :=
  db.payrollPayments.findSorted
    (fun p => p.companyId = scope.companyId && p.employeeId = employeeId &&
      p.payrollRunId ∈ runIds && p.direction = .outbound && p.status ∈ statuses)
    fun a b => b.createdAt ≤ a.createdAt

end FinanceDb

/-- What the settlements that are not cancelled take of a liability account. -/
def committed (settlements : List FinanceTransaction) (accountCode : String) : ℚ :=
  ((settlements.filter fun t => t.debitAccountCode = accountCode &&
    (t.status.reserved || t.status.settled)).map FinanceTransaction.grossAmount).sum

def requireCorrection (amount recognized committed : ℚ) (message : String) : FinanceTx Unit :=
  require (¬ (amount < 0 ∧ rest recognized committed < |amount|)) (.badRequest message)

def checkLiabilities (i : PostingInputs) (recognitionRuns : List Payroll.PayrollRun) :
    FinanceTx Unit := do
  let db ← get
  let settlements := db.liabilitySettlements i.scope (recognitionRuns.map Payroll.PayrollRun.id)
  let recognizedTax := (recognitionRuns.map fun r => r.taxTotal).sum
  let recognizedOther :=
    (recognitionRuns.map fun r => r.deductionTotal + r.employerContributionTotal).sum
  requireCorrection i.run.taxTotal recognizedTax (committed settlements "2103")
    ("Koreksi pajak melebihi utang pajak payroll yang belum dibayar/belum dicadangkan settlement. " ++
      "Batalkan draft/approval pembayaran yang berlebih atau rekonsiliasi refund/offset eksternal " ++
      "sebelum adjustment diposting.")
  requireCorrection i.payrollOtherPayable recognizedOther (committed settlements "2104")
    ("Koreksi BPJS/potongan melebihi kewajiban yang belum dibayar/belum dicadangkan settlement. " ++
      "Batalkan draft/approval pembayaran yang berlebih atau rekonsiliasi refund/offset eksternal " ++
      "terlebih dahulu.")

/-! ### Reductions and recoveries -/

structure Reduction where
  salaryPayableReduction : ℚ := 0
  employeeReceivable : ℚ := 0
  recoveryByResult : List (Payroll.PayrollResult × ℚ) := []

/-- A payment of which `nextAmount` is left. -/
def PayrollPayment.reducedTo (p : PayrollPayment) (nextAmount : ℚ) : PayrollPayment :=
  if nextAmount = 0 then { p with status := .cancelled } else { p with amount := nextAmount }

def reducePayments : List PayrollPayment → ℚ → FinanceTx ℚ
  | [], reductionNeeded => pure reductionNeeded
  | payment :: pending, reductionNeeded =>
    if reductionNeeded = 0 then pure reductionNeeded else do
      let applied := if payment.amount < reductionNeeded then payment.amount else reductionNeeded
      let nextAmount := payment.amount - applied
      let _ ← payrollPayment.update payment.payrollResultId (fun p => p.reducedTo nextAmount)
        .recordNotFound
      reducePayments pending (reductionNeeded - applied)

def recoverRest (i : PostingInputs) (result : Payroll.PayrollResult) (stillNeeded : ℚ)
    (r : Reduction) : FinanceTx Reduction := do
  let reduced := { r with
    salaryPayableReduction := r.salaryPayableReduction + (|result.netPay| - stillNeeded) }
  if 0 < stillNeeded then do
    require (i.accounts.payrollReceivable.isSome = true) (.badRequest
      ("Mapping __PAYROLL_RECEIVABLE__ wajib dikonfigurasi untuk recovery kelebihan gaji yang " ++
        "sudah dibayar."))
    pure { reduced with
      employeeReceivable := r.employeeReceivable + stillNeeded
      recoveryByResult := r.recoveryByResult ++ [(result, stillNeeded)] }
  else pure reduced

def reduceSalary (i : PostingInputs) (recognitionRunIds : List ℕ) (result : Payroll.PayrollResult)
    (r : Reduction) : FinanceTx Reduction := do
  let db ← get
  require (db.outboundPayments i.scope result.employeeId recognitionRunIds [.processing] = [])
    (.badRequest (s!"Pembayaran gaji {result.employeeId} sedang PROCESSING; adjustment penurunan " ++
      "harus menunggu settlement selesai/gagal."))
  let stillNeeded ← reducePayments
    (db.outboundPayments i.scope result.employeeId recognitionRunIds [.pending, .failed])
    |result.netPay|
  recoverRest i result stillNeeded r

def reduceSalaries (i : PostingInputs) (recognitionRunIds : List ℕ) :
    List Payroll.PayrollResult → Reduction → FinanceTx Reduction
  | [], r => pure r
  | result :: results, r => do
    let r ← reduceSalary i recognitionRunIds result r
    reduceSalaries i recognitionRunIds results r

/-! ### The journal of an adjustment -/

inductive JournalSide
  | debit
  | credit
  deriving DecidableEq

/-- An amount that stands on its side if it is positive, and on the other one if it is negative. -/
structure SignedLine where
  accountCode : String
  amount : ℚ
  positiveSide : JournalSide

def SignedLine.journalLine (l : SignedLine) (accountId : ℕ) : JournalLine :=
  if decide (0 < l.amount) = decide (l.positiveSide = .debit) then ⟨accountId, |l.amount|, 0⟩
  else ⟨accountId, 0, |l.amount|⟩

def pushSigned (scope : TenantScope) (l : SignedLine) : FinanceTx (List JournalLine) :=
  if l.amount = 0 then pure [] else do
    let db ← get
    let account ← orThrow (db.procurement.ledger.activeAccount scope.branchId l.accountCode)
      (.badRequest s!"Akun payroll {l.accountCode} tidak tersedia pada branch.")
    pure [l.journalLine account.id]

def pushLines (scope : TenantScope) : List SignedLine → FinanceTx (List JournalLine)
  | [] => pure []
  | l :: lines => do
    let line ← pushSigned scope l
    let rest ← pushLines scope lines
    pure (line ++ rest)

def PostingInputs.signedLines (i : PostingInputs) (r : Reduction) : List SignedLine :=
  let positiveSalaryPayable := (i.increases.map fun x => x.netPay).sum
  [⟨i.accounts.payrollExpense, i.expense, .debit⟩] ++
    (if 0 < positiveSalaryPayable then
      [⟨i.accounts.salaryPayable, positiveSalaryPayable, .credit⟩] else []) ++
    (if 0 < r.salaryPayableReduction then
      [⟨i.accounts.salaryPayable, -r.salaryPayableReduction, .credit⟩] else []) ++
    (if 0 < r.employeeReceivable then
      -- The reduction has seen that the account is mapped.
      [⟨i.accounts.payrollReceivable.getD "", r.employeeReceivable, .debit⟩] else []) ++
    [⟨i.accounts.payrollTaxPayable, i.run.taxTotal, .credit⟩,
      ⟨i.accounts.payrollOtherPayable, i.payrollOtherPayable, .credit⟩]

def adjustmentLines (i : PostingInputs) (r : Reduction) : FinanceTx (List JournalLine) := do
  let journalLines ← pushLines i.scope (i.signedLines r)
  let debitTotal := (journalLines.map JournalLine.debit).sum
  let creditTotal := (journalLines.map JournalLine.credit).sum
  require (journalLines ≠ [] ∧ debitTotal = creditTotal) (.badRequest
    (s!"Jurnal adjustment payroll tidak seimbang. Debit {toFixed2 debitTotal}, kredit " ++
      s!"{toFixed2 creditTotal}."))
  pure journalLines

def PostingInputs.adjustmentEvent (i : PostingInputs) (postingDate : ℕ) : AccountingEvent where
  companyId := i.scope.companyId
  branchId := i.scope.branchId
  eventType := "PAYROLL_ADJUSTMENT"
  sourceType := "PayrollRun"
  sourceId := toString i.run.id
  idempotencyKey := s!"payroll-adjustment:{i.run.id}"
  businessDate := postingDate
  netAmount := i.expense - i.run.taxTotal
  taxAmount := i.run.taxTotal
  grossAmount := i.expense
  status := .validated

def PostingInputs.adjustmentTax (i : PostingInputs) (postingDate taxCodeId : ℕ) : TaxTransaction where
  companyId := i.scope.companyId
  branchId := i.scope.branchId
  sourceType := "PayrollRun"
  sourceId := toString i.run.id
  taxCodeId := taxCodeId
  direction := .withholding
  transactionDate := postingDate
  taxableBase := (i.results.map fun r => r.taxableIncome).sum
  taxAmount := i.run.taxTotal
  status := .posted

def writeAdjustment (event : AccountingEvent) (lines : List JournalLine)
    (tax : Option TaxTransaction) : AccountingTx ℕ := do
  AccountingDb.accountingEvent.create event .uniqueViolation
  let db ← get
  let entry : JournalEntry :=
    { id := db.nextId, date := event.businessDate, referenceType := event.sourceType
      referenceId := event.sourceId, lines }
  AccountingDb.journalEntry.create entry .uniqueViolation
  modify fun db => { db with
    nextId := db.nextId + 1
    taxTransactions := db.taxTransactions ++ tax.toList }
  let _ ← AccountingDb.accountingEvent.update event.key
    (fun e => { e with status := .posted, journalEntryId := some entry.id }) .recordNotFound
  pure entry.id

def postAdjustmentJournal (i : PostingInputs) (postingDate : ℕ) (r : Reduction) : FinanceTx ℕ := do
  let lines ← adjustmentLines i r
  let db ← get
  let tax := if i.run.taxTotal = 0 then none else
    (db.withholdingCode i.scope.companyId).map fun t => i.adjustmentTax postingDate t.id
  ledgerPart.lift (writeAdjustment (i.adjustmentEvent postingDate) lines tax)

/-! ### An adjustment -/

/-- A recognised run without a remaining payment is paid. -/
def closeRecognized (scope : TenantScope) (runId : ℕ) : FinanceTx Unit := do
  let db ← get
  if (db.paymentsOf scope runId).filter PayrollPayment.remains = [] then do
    let _ ← payrollRun.updateMany
      (fun r => r.id = runId && r.companyId = scope.companyId && r.branchId = some scope.branchId &&
        r.status = .posted)
      fun r => { r with status := .paid }
  else pure ()

def writePayments (i : PostingInputs) (r : Reduction) : FinanceTx Unit := do
  i.increases.forM fun x => upsertPayment i x "PENDING_SELECTION" .outbound x.netPay
    fun p => { p with direction := .outbound, amount := x.netPay, status := .pending }
  r.recoveryByResult.forM fun x => upsertPayment i x.1 "PENDING_RECOVERY" .recovery x.2
    fun p => { p with direction := .recovery, amount := x.2, status := .pending }

def summaryOf (scope : TenantScope) (payrollPeriodId : ℕ) (runs : List Payroll.PayrollRun)
    (results : List Payroll.PayrollResult) : Payroll.PayrollPeriodSummary where
  companyId := scope.companyId
  branchId := scope.branchId
  payrollPeriodId := payrollPeriodId
  employeeCount := (results.map Payroll.PayrollResult.employeeId).eraseDups.length
  grossTotal := (runs.map fun r => r.grossTotal).sum
  deductionTotal := (runs.map fun r => r.deductionTotal).sum
  employeeContributionTotal := (results.map fun r => r.employeeContribution).sum
  employerContributionTotal := (runs.map fun r => r.employerContributionTotal).sum
  taxTotal := (runs.map fun r => r.taxTotal).sum
  netTotal := (runs.map fun r => r.netTotal).sum

def writeChainSummary (i : PostingInputs) (recognizedAfter : List ℕ) : FinanceTx Unit := do
  let db ← get
  let postedRuns := db.payroll.runs.findMany fun r => r.id ∈ recognizedAfter &&
    r.companyId = i.scope.companyId && r.branchId = some i.scope.branchId && r.status.recognized
  let postedResults := db.payroll.results.findMany fun r =>
    r.companyId = i.scope.companyId && r.payrollRunId ∈ postedRuns.map Payroll.PayrollRun.id
  let summary := summaryOf i.scope i.run.payrollPeriodId postedRuns postedResults
  payrollPart.lift do
    let _ ← Payroll.PayrollDb.payrollPeriodSummary.upsert summary fun _ => summary

def postAdjustment (i : PostingInputs) (sourceId : ℕ) : FinanceTx Payroll.PayrollRun := do
  let source ← findScopedRun i.scope sourceId
  require (source.adjustmentOfRunId = none ∧ source.status.recognized = true)
    (.badRequest "Sumber adjustment tidak lagi valid untuk posting.")
  let db ← get
  let recognitionRuns := db.recognitionRuns i.scope source i.run
  let recognitionRunIds := recognitionRuns.map Payroll.PayrollRun.id
  let postingDate := (db.postingOf i.run.id).adjustmentPostingDate.getD db.now
  refuse ((db.procurement.ledger.fiscalPeriodOn i.scope.companyId i.scope.branchId postingDate).filter
      fun p => p.status ≠ .opened)
    fun p => .badRequest (s!"Periode fiskal adjustment berstatus {p.status.text}; pilih tanggal " ++
      "posting pada periode OPEN.")
  checkLiabilities i recognitionRuns
  let reduction ← reduceSalaries i recognitionRunIds i.decreases {}
  let entryId ← postAdjustmentJournal i postingDate reduction
  writePayments i reduction
  recognitionRunIds.forM (closeRecognized i.scope)
  let db ← get
  let pending := (db.paymentsOf i.scope i.run.id).filter PayrollPayment.remains
  let updated ← markPosted i (if pending = [] then .paid else .posted) (some entryId)
  writeChainSummary i (recognitionRunIds ++ [i.run.id])
  pure updated

/-- The part of `postAccounting` behind the check of the status. -/
def postRun (scope : TenantScope) (run : Payroll.PayrollRun) : FinanceTx Payroll.PayrollRun := do
  let _ ← findPeriod scope run.payrollPeriodId
  let accounts ← resolvePayrollAccounts scope
  let db ← get
  let results := db.payroll.results.findMany fun r =>
    r.payrollRunId = run.id && r.companyId = scope.companyId
  require (results.length = run.employeeCount)
    (.badRequest "Jumlah hasil payroll berubah sejak approval. Hitung ulang payroll.")
  match run.adjustmentOfRunId with
  | some sourceId => postAdjustment ⟨scope, run, accounts, results⟩ sourceId
  | none => postRegular ⟨scope, run, accounts, results⟩

def postAccounting (scope : TenantScope) (runId : ℕ) : FinanceTx Payroll.PayrollRun := do
  let run ← findScopedRun scope runId
  let db ← get
  if run.status.recognized = true ∧ (db.postingOf run.id).postedJournalEntryId.isSome = true then
    pure run
  else do
    require (run.status = .approved) (.badRequest "Payroll belum disetujui.")
    postRun scope run

inductive PayrollCall
  | createRun (scope : TenantScope) (dto : CreatePayrollRun)
  | createAdjustmentRun (scope : TenantScope) (sourceRunId : ℕ) (dto : CreatePayrollAdjustmentRun)
  | calculateRun (scope : TenantScope) (runId : ℕ)
      (calculation : ℕ → Payroll.EmployeeCalculation)
  | approveRun (scope : TenantScope) (runId : ℕ)
  | cancelRun (scope : TenantScope) (runId : ℕ) (reason : String)
  | postAccounting (scope : TenantScope) (runId : ℕ)
  | settlePayment (scope : TenantScope) (paymentId : ℕ × ℕ) (dto : SettlePayrollPayment)

def PayrollCall.tx : PayrollCall → FinanceTx Unit
  | createRun scope dto => do let _ ← Finance.createRun scope dto
  | createAdjustmentRun scope sourceRunId dto => do
    let _ ← Finance.createAdjustmentRun scope sourceRunId dto
  | calculateRun scope runId calculation => do
    let _ ← payrollPart.lift (Payroll.calculateRun (payrollScope scope) runId calculation)
  | approveRun scope runId => do
    let _ ← payrollPart.lift (Payroll.approveRun (payrollScope scope) runId)
  | cancelRun scope runId reason => do let _ ← Finance.cancelRun scope runId reason
  | postAccounting scope runId => do let _ ← Finance.postAccounting scope runId
  | settlePayment scope paymentId dto => do let _ ← Finance.settlePayment scope paymentId dto

end Mayatoko.Finance
