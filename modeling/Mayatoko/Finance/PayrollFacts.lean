import Mayatoko.Finance.PayrollBooks
import Mayatoko.Finance.TransactionFacts

/-!
# What the calls on payroll runs do

One inversion lemma for each call. Creating, approving and cancelling touch one run; a settlement
touches one payment; a posting reduces payments of the recognised runs, writes payments of its own
run and moves runs that have nothing left to pay.
-/

namespace Mayatoko.Finance

open Core Accounting Transit Procurement FinanceDb

variable {db db' : FinanceDb} {scope : TenantScope} {runId k : ℕ} {run r : Payroll.PayrollRun} {u : Unit}

lemma findScopedRun_commits (h : Commits (findScopedRun scope runId) db run db') :
    db = db' ∧ db.payroll.runs.find? runId = some run ∧
      run.companyId = scope.companyId ∧ run.branchId = some scope.branchId := by
  simp only [findScopedRun, commits_steps, Part.commits_lift, Payroll.scopedRun_commits] at h
  obtain ⟨_, ⟨⟨hfind, hscope⟩, rfl⟩, rfl⟩ := h
  exact ⟨rfl, hfind, hscope⟩

lemma readOnly_findPeriod : ReadOnly (findPeriod scope k) :=
  leaves_get.bind fun _ => Part.readOnly_lift (fun _ => rfl)
    (leaves_orThrow.bind fun _ => Leaves.bind leaves_require fun _ => leaves_pure)

lemma readOnly_assertRuleSets {taxRuleSetId socialSecurityRuleSetId : Option ℕ} :
    ReadOnly (assertRuleSets scope taxRuleSetId socialSecurityRuleSetId) :=
  leaves_get.bind fun _ => Leaves.bind (Part.readOnly_lift (fun _ => rfl) leaves_require) fun _ =>
    Part.readOnly_lift (fun _ => rfl) leaves_require

lemma readOnly_resolvePayrollAccounts : ReadOnly (resolvePayrollAccounts scope) :=
  leaves_get.bind fun _ => leaves_orThrow.bind fun _ => leaves_orThrow.bind fun _ =>
    leaves_orThrow.bind fun _ => leaves_orThrow.bind fun _ => leaves_orThrow.bind fun _ =>
      leaves_orThrow.bind fun _ => leaves_orThrow.bind fun _ => leaves_orThrow.bind fun _ => leaves_pure

/-! ### New, approved and cancelled runs -/

lemma insertRun_commits {date : Option ℕ} (h : Commits (insertRun run date) db r db') :
    db.payroll.runs.find? run.id = none ∧
      ∃ postings, db' = { db with payroll.runs := db.payroll.runs.put run, runPostings := postings } := by
  simp only [insertRun, commits_bind, TableOf.commits_create, TableOf.commits_upsert, commits_pure] at h
  obtain ⟨_, _, ⟨hfresh, rfl⟩, _, _, ⟨_, rfl⟩, _, rfl⟩ := h
  exact ⟨hfresh, _, rfl⟩

structure NewRun (run : Payroll.PayrollRun) : Prop where
  status : run.status = .draft
  totals : run.employeeCount = 0 ∧ run.toPayrollTotals = {}

lemma createRun_commits {dto : CreatePayrollRun} (h : Commits (createRun scope dto) db r db') :
    db = db' ∨ ∃ run, NewRun run ∧ run.adjustmentOfRunId = none ∧
      db.payroll.runs.find? run.id = none ∧
        ∃ nextId postings, db' = { db with
          nextId := nextId
          payroll.runs := db.payroll.runs.put run
          runPostings := postings } := by
  simp only [createRun, commits_steps] at h
  obtain ⟨period, _, hperiod, _, _, _, hsets, h⟩ := h
  obtain rfl := readOnly_findPeriod.eq hperiod
  obtain rfl := readOnly_assertRuleSets.eq hsets
  cases hfound : db.regularRun scope dto.payrollPeriodId with
  | some existing =>
    simp only [hfound, commits_steps] at h
    obtain ⟨_, _, rfl⟩ := h
    exact .inl rfl
  | none =>
    simp only [hfound, freshId, commits_steps, commits_set] at h
    obtain ⟨_, _, ⟨_, _, rfl, rfl, rfl⟩, h⟩ := h
    obtain ⟨hfresh, postings, rfl⟩ := insertRun_commits h
    exact .inr ⟨_, ⟨rfl, rfl, rfl⟩, rfl, hfresh, _, postings, rfl⟩

lemma createAdjustmentRun_commits {dto : CreatePayrollAdjustmentRun}
    (h : Commits (createAdjustmentRun scope k dto) db r db') :
    ∃ source run, NewRun run ∧ db.payroll.runs.find? run.id = none ∧
      db.payroll.runs.find? k = some source ∧
      (source.companyId = run.companyId ∧ source.branchId = run.branchId) ∧
      source.adjustmentOfRunId = none ∧ source.status.recognized = true ∧
      run.adjustmentOfRunId = some k ∧ run.companyId = scope.companyId ∧
      run.branchId = some scope.branchId ∧ db.openAdjustment scope k = none ∧
      run.adjustmentSequence = (db.adjustmentsOf scope k).length + 1 ∧
        ∃ nextId postings, db' = { db with
          nextId := nextId
          payroll.runs := db.payroll.runs.put run
          runPostings := postings } := by
  simp only [createAdjustmentRun, freshId, commits_steps, commits_set] at h
  obtain ⟨source, _, hsource, hregular, hrecognized, _, _, hperiod, _, _, hsets, hopen, _, _, ⟨_, _, rfl, rfl,
    rfl⟩, h⟩ := h
  obtain ⟨rfl, hfind, hcompany, hbranch⟩ := findScopedRun_commits hsource
  obtain rfl := readOnly_findPeriod.eq hperiod
  obtain rfl := readOnly_assertRuleSets.eq hsets
  obtain ⟨hfresh, postings, rfl⟩ := insertRun_commits h
  have hid : source.id = k := (find?_eq_some.mp hfind).2
  subst hid
  exact ⟨source, _, ⟨rfl, rfl, rfl⟩, hfresh, hfind, ⟨hcompany, hbranch⟩, hregular, hrecognized, rfl,
    rfl, rfl, hopen, rfl, _, postings, rfl⟩

lemma cancelRun_commits {reason : String} (h : Commits (cancelRun scope runId reason) db r db') :
    ∃ run ∈ db.payroll.runs, run.status ∈ [.draft, .review, .approved] ∧
      db' = { db with
        payroll.runs := db.payroll.runs.put { run with status := .cancelled } } := by
  simp only [cancelRun, commits_steps, TableOf.commits_update] at h
  obtain ⟨_, run, _, hrun, hstatus, _, _, o, ho, _, rfl⟩ := h
  obtain ⟨rfl, hfind, _⟩ := findScopedRun_commits hrun
  obtain ⟨hmem, _⟩ := find?_eq_some.mp hfind
  obtain rfl := mem_unique ho (find?_of_mem hmem)
  exact ⟨o, hmem, hstatus, rfl⟩

lemma approveRun_commits {scope : Payroll.TenantScope} {p p' : Payroll.PayrollDb}
    (h : Commits (Payroll.approveRun scope runId) p r p') :
    ∃ run ∈ p.runs, run.status = .review ∧
      p' = { p with runs := p.runs.put { run with status := .approved } } := by
  simp only [Payroll.approveRun, commits_steps, Payroll.scopedRun_commits, Payroll.commits_checkAdjustment,
    TableOf.commits_update] at h
  obtain ⟨run, ⟨hfind, _⟩, hstatus, _, _, _, _, o, ho, _, rfl⟩ := h
  obtain rfl := mem_unique ho hfind
  exact ⟨o, (find?_eq_some.mp hfind).1, hstatus, rfl⟩

lemma calculateRun_open {scope : Payroll.TenantScope} {p p' : Payroll.PayrollDb}
    {calculation : ℕ → Payroll.EmployeeCalculation}
    (h : Commits (Payroll.calculateRun scope runId calculation) p r p')
    (hfind : p.runs.find? runId = some run) : run.status = .draft ∨ run.status = .review := by
  simp only [Payroll.calculateRun, Payroll.openRun, commits_steps, Payroll.scopedRun_commits] at h
  obtain ⟨_, _, ⟨x, ⟨hx, _⟩, hstatus, _⟩, _⟩ := h
  obtain rfl := mem_unique hfind hx
  exact hstatus

lemma payRun_commits (h : Commits (payRun scope runId) db u db')
    (hrun : db.payroll.runs.find? runId = some run) (hstatus : run.status.recognized = true) :
    ∃ runs, RunsMoved StatusMove db.payroll.runs runs ∧
      db' = { db with payroll.runs := runs } := by
  simp only [payRun, commits_steps, commits_ite, TableOf.commits_update] at h
  obtain ⟨_, _, _, ⟨o, ho, _, rfl⟩, _, rfl⟩ | ⟨_, _, rfl⟩ := h
  · obtain rfl := mem_unique ho hrun
    exact ⟨_, RunsMoved.put .same (find?_eq_some.mp hrun).1 (.paid hstatus), rfl⟩
  · exact ⟨_, RunsMoved.refl .same _, rfl⟩

/-- A settlement pays one payment and may pay its run. -/
lemma settlePayment_commits {id : ℕ × ℕ} {dto : SettlePayrollPayment} {q : PayrollPayment}
    (h : Commits (settlePayment scope id dto) db q db') :
    db = db' ∨ ∃ p ∈ db.payrollPayments, ∃ q : PayrollPayment,
      (q.payrollResultId = p.payrollResultId ∧ q.signed = p.signed) ∧
        ∃ runs, RunsMoved StatusMove db.payroll.runs runs ∧
          ∃ ledger, db' = { db with
            procurement.ledger := ledger
            payroll.runs := runs
            payrollPayments := db.payrollPayments.put q } := by
  simp only [settlePayment, payOut, commits_steps, commits_ite, Part.commits_lift, TableOf.commits_update] at h
  obtain ⟨payment, hpayment, run, _, hrun, hrecognized, h⟩ := h
  obtain ⟨rfl, hfind, _⟩ := findScopedRun_commits hrun
  obtain ⟨hfound, _⟩ := Option.filter_eq_some_iff.mp hpayment
  obtain ⟨hmem, _⟩ := find?_eq_some.mp hfound
  obtain ⟨_, _, _, rfl⟩ | ⟨_, hstatus, account, _, _, accounts, _, haccounts, _, event, _, ⟨ledger, _, rfl⟩,
    _, _, ⟨o, ho, _, rfl⟩, _, _, hpaid, _, rfl⟩ := h
  · exact .inl rfl
  · obtain rfl := readOnly_resolvePayrollAccounts.eq haccounts
    have hkeys : o = payment := mem_unique ho (find?_of_mem hmem)
    subst hkeys
    obtain ⟨runs, hruns, rfl⟩ := payRun_commits hpaid hfind hrecognized
    refine .inr ⟨o, hmem, _, ?_, runs, hruns, ledger, rfl⟩
    refine ⟨rfl, ?_⟩
    rw [PayrollPayment.signed, PayrollPayment.signed]
    rcases hstatus with hs | hs <;> rw [hs] <;> rfl

end Mayatoko.Finance
