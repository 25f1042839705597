import Mayatoko.Common.Failure
import Mayatoko.Core.Store
import Mayatoko.Payroll.Differential

/-!
# Payroll runs

`calculateRun` and `approveRun` of `PayrollService`. A calculation goes over the employees of the
branch, writes one result for each of them and adds the results up; the amounts of an employee
(components, tax and social security over the segments of the period) enter as the outcome of that
calculation. A result is addressed by run and employee, and no call deletes one.
-/

namespace Mayatoko.Payroll

open Core

structure TenantScope where
  (companyId branchId : ℕ)

inductive PayrollRunStatus
  | draft
  | calculating
  | review
  | approved
  | posted
  | paid
  | cancelled
  deriving DecidableEq

def PayrollRunStatus.text : PayrollRunStatus → String
  | draft => "DRAFT"
  | calculating => "CALCULATING"
  | review => "REVIEW"
  | approved => "APPROVED"
  | posted => "POSTED"
  | paid => "PAID"
  | cancelled => "CANCELLED"

def PayrollRunStatus.recognized (s : PayrollRunStatus) : Bool := s = .posted || s = .paid

structure PayrollTotals where
  grossTotal : ℚ := 0
  deductionTotal : ℚ := 0
  taxTotal : ℚ := 0
  employerContributionTotal : ℚ := 0
  netTotal : ℚ := 0
  deriving DecidableEq

structure PayrollRun extends PayrollTotals where
  (id companyId : ℕ)
  branchId : Option ℕ
  payrollPeriodId : ℕ
  status : PayrollRunStatus := .draft
  taxRuleSetId : Option ℕ := none
  socialSecurityRuleSetId : Option ℕ := none
  employeeCount : ℕ := 0
  adjustmentOfRunId : Option ℕ := none
  adjustmentSequence : ℕ := 0
  deriving DecidableEq

inductive TraceStatus
  | calculated
  | requiresReview
  | notApplicable
  deriving DecidableEq

structure SegmentsTrace where
  status : TraceStatus
  segments : List TraceStatus := []

structure CalculationTrace where
  status : TraceStatus
  components : List String
  (tax socialSecurity : SegmentsTrace)

structure PayAmounts where
  (grossPay taxableIncome employeeContribution employerContribution incomeTax otherDeductions netPay : ℚ)

structure PayrollResult extends PayAmounts where
  (id companyId payrollRunId payrollPeriodId employeeId : ℕ)
  calculationTrace : CalculationTrace
  status : TraceStatus

def PayrollResult.key (r : PayrollResult) : ℕ × ℕ := (r.payrollRunId, r.employeeId)

structure StoredLine extends PayrollLine where
  payrollResultId : ℕ

structure Employee where
  (id companyId : ℕ)
  branchId : Option ℕ
  employeeNumber : String
  isActive : Bool := true

structure PayrollPeriod where
  (id companyId : ℕ)
  code : String
  status : String := "OPEN"

structure RuleSet where
  (id companyId : ℕ)

structure PayrollPeriodSummary extends PayrollTotals where
  (companyId branchId payrollPeriodId employeeCount : ℕ)
  employeeContributionTotal : ℚ

def PayrollPeriodSummary.key (s : PayrollPeriodSummary) : ℕ × ℕ := (s.payrollPeriodId, s.branchId)

structure PayrollDb where
  nextId : ℕ
  employees : Table Employee.id
  periods : Table PayrollPeriod.id
  (taxRuleSets socialSecurityRuleSets : Table RuleSet.id)
  runs : Table PayrollRun.id
  results : Table PayrollResult.key
  lines : List StoredLine
  periodSummaries : Table PayrollPeriodSummary.key

abbrev PayrollTx := Tx PayrollDb Failure

namespace PayrollDb

def employee : TableOf PayrollDb Employee.id :=
  ⟨employees, fun db t => { db with employees := t }⟩

def payrollRun : TableOf PayrollDb PayrollRun.id := ⟨runs, fun db t => { db with runs := t }⟩

def payrollResult : TableOf PayrollDb PayrollResult.key :=
  ⟨results, fun db t => { db with results := t }⟩

def payrollPeriodSummary : TableOf PayrollDb PayrollPeriodSummary.key :=
  ⟨periodSummaries, fun db t => { db with periodSummaries := t }⟩

/-! ### Reads -/

def scopedRun (db : PayrollDb) (scope : TenantScope) (runId : ℕ) : PayrollTx PayrollRun := do
  let run ← orThrow (db.runs.find? runId) (tenantAccessDenied "PayrollRun")
  require (run.companyId = scope.companyId ∧ run.branchId = some scope.branchId)
    (tenantAccessDenied "PayrollRun")
  pure run

def assertPeriod (db : PayrollDb) (scope : TenantScope) (periodId : ℕ) :
    PayrollTx PayrollPeriod := do
  let period ← orThrow (db.periods.find? periodId) (tenantAccessDenied "PayrollPeriod")
  require (period.companyId = scope.companyId) (tenantAccessDenied "PayrollPeriod")
  pure period

def assertRuleSet (table : Table RuleSet.id) (scope : TenantScope) (entityType : String)
    (ruleSetId : Option ℕ) : PayrollTx Unit :=
  require (ruleSetId.all fun id => (table.find? id).any fun r => r.companyId = scope.companyId)
    (tenantAccessDenied entityType)

def isActiveIn (scope : TenantScope) (e : Employee) : Bool :=
  e.companyId = scope.companyId && e.branchId = some scope.branchId && e.isActive

def recognitionRunIds (db : PayrollDb) (scope : TenantScope) (run : PayrollRun) : List ℕ :=
  match run.adjustmentOfRunId with
  | none => []
  | some sourceId =>
    let priorAdjustments := db.runs.findSorted
      (fun r => r.companyId = scope.companyId && r.branchId = some scope.branchId &&
        r.adjustmentOfRunId = some sourceId && r.id ≠ run.id && r.status.recognized &&
        r.adjustmentSequence < run.adjustmentSequence)
      fun a b => a.adjustmentSequence ≤ b.adjustmentSequence
    sourceId :: priorAdjustments.map PayrollRun.id

def recognizedResults (db : PayrollDb) (scope : TenantScope) (run : PayrollRun) :
    List PayrollResult :=
  db.results.findMany fun r =>
    r.companyId = scope.companyId && r.payrollRunId ∈ db.recognitionRunIds scope run

/-- The employees that a calculation goes over: the active ones of the branch, and for an adjustment
also those with a recognised result. -/
def payrollEmployees (db : PayrollDb) (scope : TenantScope) (run : PayrollRun) : List Employee :=
  let byId (a b : Employee) : Bool := a.id ≤ b.id
  if run.adjustmentOfRunId.isSome then
    let active := db.employees.findMany (isActiveIn scope)
    let employeeIds := (active.map Employee.id ++
      (db.recognizedResults scope run).map PayrollResult.employeeId).eraseDups
    db.employees.findSorted (fun e => e.id ∈ employeeIds && e.companyId = scope.companyId &&
      e.branchId = some scope.branchId) byId
  else db.employees.findSorted (isActiveIn scope) byId

end PayrollDb

/-! ### The calculation of one employee -/

structure TaxCalculation extends TaxOutcome where
  netAfterTax : ℚ
  trace : SegmentsTrace

structure SocialCalculation where
  employee : ℚ := 0
  employer : ℚ := 0
  lines : List SocialLine := []
  trace : SegmentsTrace

structure EmployeeCalculation where
  components : List CalculatedComponent
  componentReviews : List String := []
  social : SocialCalculation
  tax : TaxCalculation

namespace EmployeeCalculation

def gross (c : EmployeeCalculation) : ℚ :=
  ((c.components.filter fun x => x.definition.positiveType && x.definition.affectsGross).map
    CalculatedComponent.amount).sum

def otherDeductions (c : EmployeeCalculation) : ℚ :=
  ((c.components.filter fun x => x.definition.componentType = .deduction &&
    x.definition.affectsNet).map CalculatedComponent.amount).sum

def taxableIncome (c : EmployeeCalculation) : ℚ :=
  (c.components.map CalculatedComponent.taxableAmount).sum

def amounts (c : EmployeeCalculation) : PayAmounts where
  grossPay := money (c.gross + c.tax.grossAdjustment)
  taxableIncome := money (c.taxableIncome + c.tax.taxableAdjustment)
  employeeContribution := c.social.employee
  employerContribution := c.social.employer
  incomeTax := c.tax.amount
  otherDeductions := c.otherDeductions
  netPay := c.tax.netAfterTax

def targetLines (c : EmployeeCalculation) : List PayrollLine :=
  Payroll.targetLines c.components c.tax.toTaxOutcome c.social.lines

def calculationTrace (c : EmployeeCalculation) : CalculationTrace where
  status :=
    if c.componentReviews ≠ [] ∨ c.tax.trace.status = .requiresReview ∨
        c.social.trace.status = .requiresReview then .requiresReview
    else .calculated
  components := c.componentReviews
  tax := c.tax.trace
  socialSecurity := c.social.trace

end EmployeeCalculation

def recognizedAmounts (recognized : List PayrollResult) : PayAmounts where
  grossPay := (recognized.map fun r => r.grossPay).sum
  taxableIncome := (recognized.map fun r => r.taxableIncome).sum
  employeeContribution := (recognized.map fun r => r.employeeContribution).sum
  employerContribution := (recognized.map fun r => r.employerContribution).sum
  incomeTax := (recognized.map fun r => r.incomeTax).sum
  otherDeductions := (recognized.map fun r => r.otherDeductions).sum
  netPay := (recognized.map fun r => r.netPay).sum

def PayAmounts.minus (a b : PayAmounts) : PayAmounts where
  grossPay := a.grossPay - b.grossPay
  taxableIncome := a.taxableIncome - b.taxableIncome
  employeeContribution := a.employeeContribution - b.employeeContribution
  employerContribution := a.employerContribution - b.employerContribution
  incomeTax := a.incomeTax - b.incomeTax
  otherDeductions := a.otherDeductions - b.otherDeductions
  netPay := a.netPay - b.netPay

def PayrollTotals.plus (t : PayrollTotals) (a : PayAmounts) : PayrollTotals where
  grossTotal := t.grossTotal + a.grossPay
  deductionTotal := t.deductionTotal + a.otherDeductions + a.employeeContribution
  taxTotal := t.taxTotal + a.incomeTax
  employerContributionTotal := t.employerContributionTotal + a.employerContribution
  netTotal := t.netTotal + a.netPay

/-- What `calculateRun` has read before its loop. -/
structure RunInputs where
  scope : TenantScope
  run : PayrollRun
  employees : List Employee
  recognized : List PayrollResult
  recognizedLines : List StoredLine
  calculation : ℕ → EmployeeCalculation

def PayrollDb.runInputs (db : PayrollDb) (scope : TenantScope) (run : PayrollRun)
    (calculation : ℕ → EmployeeCalculation) : RunInputs :=
  let recognized := db.recognizedResults scope run
  { scope, run, recognized, calculation
    employees := db.payrollEmployees scope run
    recognizedLines := db.lines.filter fun l => recognized.any fun r => r.id = l.payrollResultId }

namespace RunInputs

variable (i : RunInputs)

def recognizedOf (employeeId : ℕ) : List PayrollResult :=
  i.recognized.filter fun r => r.employeeId = employeeId

def recognizedLinesOf (employeeId : ℕ) : List PayrollLine :=
  (i.recognizedLines.filter fun l =>
    (i.recognizedOf employeeId).any fun r => r.id = l.payrollResultId).map StoredLine.toPayrollLine

def resultAmounts (employeeId : ℕ) : PayAmounts :=
  let target := (i.calculation employeeId).amounts
  if i.run.adjustmentOfRunId.isSome then
    target.minus (recognizedAmounts (i.recognizedOf employeeId))
  else target

def outputLines (employeeId : ℕ) : List PayrollLine :=
  let target := (i.calculation employeeId).targetLines
  if i.run.adjustmentOfRunId.isSome then
    differentialLines target (i.recognizedLinesOf employeeId)
  else target

end RunInputs

def writeLines (resultId : ℕ) (lines : List PayrollLine) : PayrollTx Unit :=
  modify fun db =>
    { db with
      lines := db.lines.filter (fun l => l.payrollResultId ≠ resultId) ++
        lines.map fun l => { l with payrollResultId := resultId } }

def calculateEmployee (i : RunInputs) (employee : Employee) : PayrollTx Unit := do
  let c := i.calculation employee.id
  require (0 ≤ c.tax.netAfterTax)
    (.badRequest s!"Gaji bersih target {employee.employeeNumber} bernilai negatif.")
  let db ← get
  set { db with nextId := db.nextId + 1 }
  let result ← PayrollDb.payrollResult.upsert
    { i.resultAmounts employee.id with
      id := db.nextId
      companyId := i.scope.companyId
      payrollRunId := i.run.id
      payrollPeriodId := i.run.payrollPeriodId
      employeeId := employee.id
      calculationTrace := c.calculationTrace
      status := c.calculationTrace.status }
    fun r =>
      { r with
        toPayAmounts := i.resultAmounts employee.id
        calculationTrace := c.calculationTrace
        status := c.calculationTrace.status }
  writeLines result.id (i.outputLines employee.id)

def calculateEmployees (i : RunInputs) : List Employee → PayrollTotals → PayrollTx PayrollTotals
  | [], totals => pure totals
  | employee :: rest, totals => do
    calculateEmployee i employee
    calculateEmployees i rest (totals.plus (i.resultAmounts employee.id))

/-! ### The calls -/

def checkSource (scope : TenantScope) (run : PayrollRun) : PayrollTx Unit :=
  match run.adjustmentOfRunId with
  | none => pure ()
  | some sourceId => do
    let db ← get
    let source ← db.scopedRun scope sourceId
    require (source.adjustmentOfRunId = none ∧ source.payrollPeriodId = run.payrollPeriodId ∧
      source.status.recognized)
      (.badRequest ("Sumber adjustment tidak lagi valid sebagai payroll reguler POSTED/PAID " ++
        "pada periode yang sama."))

def noEmployees (run : PayrollRun) : Failure :=
  .badRequest (if run.adjustmentOfRunId.isSome then
    "Tidak ada karyawan yang dapat direkonsiliasi pada adjustment payroll ini."
  else "Tidak ada karyawan aktif pada branch untuk payroll ini.")

def writeSummary (i : RunInputs) (totals : PayrollTotals) : PayrollTx Unit :=
  if i.run.adjustmentOfRunId.isSome then pure () else do
    let employeeContributionTotal :=
      (i.employees.map fun e => (i.resultAmounts e.id).employeeContribution).sum
    let summary : PayrollPeriodSummary :=
      { totals with
        companyId := i.scope.companyId
        branchId := i.scope.branchId
        payrollPeriodId := i.run.payrollPeriodId
        employeeCount := i.employees.length
        employeeContributionTotal }
    let _ ← PayrollDb.payrollPeriodSummary.upsert summary fun _ => summary

/-- The reads and checks of `calculateRun`. -/
def openRun (scope : TenantScope) (runId : ℕ) (calculation : ℕ → EmployeeCalculation) :
    PayrollTx RunInputs := do
  let db ← get
  let run ← db.scopedRun scope runId
  require (run.status = .draft ∨ run.status = .review)
    (.badRequest "Payroll run tidak dapat dihitung pada status sekarang.")
  let period ← db.assertPeriod scope run.payrollPeriodId
  require (run.adjustmentOfRunId.isSome ∨ period.status = "OPEN")
    (.badRequest s!"Periode payroll {period.code} tidak OPEN.")
  checkSource scope run
  PayrollDb.assertRuleSet db.taxRuleSets scope "TaxRuleSet" run.taxRuleSetId
  PayrollDb.assertRuleSet db.socialSecurityRuleSets scope "SocialSecurityRuleSet"
    run.socialSecurityRuleSetId
  require (db.payrollEmployees scope run ≠ []) (noEmployees run)
  pure (db.runInputs scope run calculation)

/-- The writes of `calculateRun`. -/
def storeRun (i : RunInputs) : PayrollTx PayrollRun := do
  let _ ← PayrollDb.payrollRun.update i.run.id (fun r => { r with status := .calculating })
    .recordNotFound
  let totals ← calculateEmployees i i.employees {}
  let updatedRun ← PayrollDb.payrollRun.update i.run.id
    (fun r => { r with
      toPayrollTotals := totals, status := .review, employeeCount := i.employees.length })
    .recordNotFound
  writeSummary i totals
  pure updatedRun

def calculateRun (scope : TenantScope) (runId : ℕ) (calculation : ℕ → EmployeeCalculation) :
    PayrollTx PayrollRun := do
  let i ← openRun scope runId calculation
  storeRun i

def CalculationTrace.requiresReview (t : CalculationTrace) : Bool :=
  [t.status, t.tax.status, t.socialSecurity.status].contains .requiresReview ||
    (t.tax.segments ++ t.socialSecurity.segments).contains .requiresReview

def PayrollResult.needsReview (r : PayrollResult) : Bool :=
  r.status ≠ .calculated || r.calculationTrace.requiresReview

def PayrollTotals.hasDifference (t : PayrollTotals) : Prop :=
  t.grossTotal ≠ 0 ∨ t.deductionTotal ≠ 0 ∨ t.taxTotal ≠ 0 ∨ t.employerContributionTotal ≠ 0 ∨
    t.netTotal ≠ 0

instance (t : PayrollTotals) : Decidable t.hasDifference :=
  inferInstanceAs (Decidable (_ ∨ _ ∨ _ ∨ _ ∨ _))

/-- What `approveRun` asks of an adjustment. -/
def checkAdjustment (scope : TenantScope) (run : PayrollRun) : PayrollTx Unit :=
  match run.adjustmentOfRunId with
  | none => pure ()
  | some sourceId => do
    let db ← get
    let source ← db.scopedRun scope sourceId
    require (source.adjustmentOfRunId = none ∧ source.status.recognized)
      (.badRequest "Sumber adjustment tidak lagi valid.")
    require run.hasDifference
      (.badRequest "Adjustment tidak memiliki selisih terhadap payroll yang sudah diakui.")

def approveRun (scope : TenantScope) (runId : ℕ) : PayrollTx PayrollRun := do
  let db ← get
  let run ← db.scopedRun scope runId
  require (run.status = .review) (.badRequest "Payroll harus berstatus REVIEW.")
  let activeEmployeeCount := (db.employees.findMany (PayrollDb.isActiveIn scope)).length
  let results := db.results.findMany fun r =>
    r.payrollRunId = run.id && r.companyId = scope.companyId
  require (results ≠ [] ∧ run.employeeCount = results.length)
    (.badRequest "Hasil payroll tidak konsisten dengan run. Hitung ulang payroll.")
  require (run.adjustmentOfRunId.isSome ∨
      results.length = activeEmployeeCount ∧ run.employeeCount = activeEmployeeCount)
    (.badRequest "Hasil payroll tidak mencakup seluruh karyawan aktif. Hitung ulang payroll.")
  checkAdjustment scope run
  let needsReview := results.filter PayrollResult.needsReview
  require (needsReview = []) (.badRequest
    s!"{needsReview.length} hasil payroll masih REQUIRES_REVIEW. Perbaiki rule/input lalu hitung ulang.")
  PayrollDb.payrollRun.update runId (fun r => { r with status := .approved }) .recordNotFound

/-- The part of `HrService.updateEmployee` that switches an employee of the branch on or off. -/
def updateEmployee (scope : TenantScope) (id : ℕ) (isActive : Bool) : PayrollTx Employee := do
  let db ← get
  let employee ← orThrow (db.employees.find? id) (.notFound "Karyawan tidak ditemukan.")
  require (employee.companyId = scope.companyId ∧ employee.branchId = some scope.branchId)
    (tenantAccessDenied "Employee")
  PayrollDb.employee.update id (fun e => { e with isActive }) .recordNotFound

end Mayatoko.Payroll
