import Mayatoko.Accounting.JournalDates
import Mayatoko.Finance.PayrollPostingFacts

/-!
# What payroll calls write to the ledger

A regular posting and a settlement write their journals by `postOperationalEvent`. The adjustment of a run
writes its journal by itself; it looks at the fiscal period of its date, but not at the close controls.
-/

namespace Mayatoko.Finance

open Core Accounting Transit Procurement FinanceDb

variable {db db' : FinanceDb} {scope : TenantScope} {runId k : ℕ} {run r : Payroll.PayrollRun} {u : Unit}
  {i : PostingInputs}

abbrev LeavesLedger {α : Type} (x : FinanceTx α) : Prop :=
  Leaves (fun db : FinanceDb => db.procurement.ledger) x

abbrev PostsEvent {α : Type} (x : FinanceTx α) : Prop :=
  MovesOnce (fun db : FinanceDb => db.procurement.ledger) WrittenUnlocked x

lemma postsEvent_post {input : PostOperationalEventInput} :
    PostsEvent (ledgerPart.lift (postOperationalEvent input)) := by
  intro s ev s' h
  obtain ⟨ledger, hpost, rfl⟩ := Part.commits_lift.mp h
  exact postOperationalEvent_written hpost

lemma readOnly_findScopedRun : ReadOnly (findScopedRun scope runId) :=
  fun _ _ _ h => (findScopedRun_commits h).1.symm

lemma payrollRun_apart : payrollRun.Apart fun db : FinanceDb => db.procurement.ledger := ⟨fun _ _ => rfl⟩

lemma payrollPayment_apart : payrollPayment.Apart fun db : FinanceDb => db.procurement.ledger :=
  ⟨fun _ _ => rfl⟩

lemma runPosting_apart : runPosting.Apart fun db : FinanceDb => db.procurement.ledger := ⟨fun _ _ => rfl⟩

lemma leavesLedger_payrollPart {α : Type} {x : Tx Payroll.PayrollDb Failure α} :
    LeavesLedger (payrollPart.lift x) := by
  intro s a s' h
  obtain ⟨p, _, rfl⟩ := Part.commits_lift.mp h
  rfl

/-! ### Settlements and regular postings -/

lemma leavesLedger_payRun : LeavesLedger (payRun scope runId) :=
  leaves_get.bind fun _ => Leaves.ite (payrollRun_apart.update.bind fun _ => leaves_pure) leaves_pure

variable {dto : SettlePayrollPayment}

lemma postsEvent_payOut {payment : PayrollPayment} : PostsEvent (payOut scope payment dto) := by
  refine leaves_get.bind_movesOnce fun _ => leaves_orThrow.bind_movesOnce fun _ =>
    leaves_require.bind_movesOnce fun _ => readOnly_resolvePayrollAccounts.leaves.bind_movesOnce fun _ =>
      leaves_require.bind_movesOnce fun _ => postsEvent_post.bind_leaves fun _ => ?_
  exact payrollPayment_apart.update.bind fun _ => leavesLedger_payRun.bind fun _ => leaves_pure

lemma postsEvent_settlePayment {id : ℕ × ℕ} : PostsEvent (settlePayment scope id dto) := by
  refine leaves_get.bind_movesOnce fun _ => leaves_orThrow.bind_movesOnce fun _ =>
    readOnly_findScopedRun.leaves.bind_movesOnce fun _ => leaves_require.bind_movesOnce fun _ => ?_
  refine MovesOnce.ite (Leaves.movesOnce (leaves_require.bind fun _ => leaves_pure)) ?_
  exact leaves_require.bind_movesOnce fun _ => postsEvent_payOut

variable {result : Payroll.PayrollResult}

lemma leavesLedger_upsertPayment {method : String}
    {d : PaymentDirection} {amount : ℚ} {f : PayrollPayment → PayrollPayment} :
    LeavesLedger (upsertPayment i result method d amount f) :=
  leaves_get.bind fun _ => payrollPayment_apart.upsert.bind fun _ => leaves_pure

lemma leavesLedger_markPosted {status : Payroll.PayrollRunStatus} {entryId : Option ℕ} :
    LeavesLedger (markPosted i status entryId) :=
  runPosting_apart.upsert.bind fun _ => payrollRun_apart.update

lemma postsEvent_postRegular : PostsEvent (postRegular i) := by
  refine leaves_get.bind_movesOnce fun _ => postsEvent_post.bind_leaves fun _ => ?_
  refine Leaves.bind (Leaves.forM fun _ => leavesLedger_upsertPayment) fun _ => leaves_get.bind fun _ => ?_
  exact leavesLedger_markPosted

/-! ### Adjustments -/

lemma leavesLedger_reducePayments {pending : List PayrollPayment} {needed : ℚ} :
    LeavesLedger (reducePayments pending needed) := by
  induction pending generalizing needed with
  | nil => exact leaves_pure
  | cons payment pending ih =>
    exact Leaves.ite leaves_pure (payrollPayment_apart.update.bind fun _ => ih)

variable {reduction : Reduction}

lemma leavesLedger_reduceSalary {ids : List ℕ} : LeavesLedger (reduceSalary i ids result reduction) := by
  refine leaves_get.bind fun _ => leaves_require.bind fun _ => leavesLedger_reducePayments.bind fun _ => ?_
  exact Leaves.ite (leaves_require.bind fun _ => leaves_pure) leaves_pure

lemma leavesLedger_reduceSalaries {ids : List ℕ} {l : List Payroll.PayrollResult} :
    LeavesLedger (reduceSalaries i ids l reduction) := by
  induction l generalizing reduction with
  | nil => exact leaves_pure
  | cons result l ih => exact leavesLedger_reduceSalary.bind fun _ => ih

lemma leavesLedger_writePayments : LeavesLedger (writePayments i reduction) :=
  Leaves.bind (Leaves.forM fun _ => leavesLedger_upsertPayment) fun _ =>
    Leaves.forM fun _ => leavesLedger_upsertPayment

lemma leavesLedger_closeRecognized : LeavesLedger (closeRecognized scope k) :=
  leaves_get.bind fun _ => Leaves.ite (payrollRun_apart.updateMany.bind fun _ => leaves_pure) leaves_pure

lemma postAdjustmentJournal_written {date entryId : ℕ}
    (h : Commits (postAdjustmentJournal i date reduction) db entryId db')
    (hopen : ∀ p, db.procurement.ledger.fiscalPeriodOn i.scope.companyId i.scope.branchId date = some p →
      p.status = .opened) :
    ∃ ev e, JournalWritten ev e db.procurement.ledger db'.procurement.ledger ∧
      ev.companyId = i.scope.companyId ∧ ev.branchId = i.scope.branchId ∧
        ev.eventType = "PAYROLL_ADJUSTMENT" ∧ e.date = date := by
  simp only [postAdjustmentJournal, adjustmentLines, writeAdjustment, commits_bind, commits_get,
    commits_require, commits_pure, commits_modify, Part.commits_lift, TableOf.commits_create,
    TableOf.commits_update] at h
  obtain ⟨_, _, ⟨lines, _, hlines, _, _, ⟨_, rfl⟩, rfl, rfl⟩, _, _, ⟨rfl, rfl⟩, ledger,
    ⟨_, _, ⟨hevent, rfl⟩, _, _, ⟨rfl, rfl⟩, _, _, ⟨hentry, rfl⟩, _, _, rfl, _, _, ⟨o, ho, _, rfl⟩, _, rfl⟩,
    rfl⟩ := h
  obtain rfl := readOnly_pushLines.eq hlines
  have hself := find?_put_self db.procurement.ledger.events (i.adjustmentEvent date)
  obtain rfl := mem_unique ho hself
  refine ⟨{ i.adjustmentEvent date with
      status := .posted, journalEntryId := some db.procurement.ledger.nextId },
    ⟨db.procurement.ledger.nextId, date, "PayrollRun", toString i.run.id, lines⟩,
    ⟨hevent, hentry, rfl, ?_, rfl, rfl, rfl, hopen⟩, rfl, rfl, rfl, rfl⟩
  exact Table.put_put _ rfl

def FinanceDb.adjustmentDate (db : FinanceDb) (runId : ℕ) : ℕ :=
  (db.postingOf runId).adjustmentPostingDate.getD db.now

lemma postAdjustment_written (h : Commits (postAdjustment i k) db r db') :
    ∃ ev e, JournalWritten ev e db.procurement.ledger db'.procurement.ledger ∧
      ev.companyId = i.scope.companyId ∧ ev.branchId = i.scope.branchId ∧
        ev.eventType = "PAYROLL_ADJUSTMENT" ∧ e.date = db.adjustmentDate i.run.id := by
  obtain ⟨source, reduction, entryId, status, s₁, s₂, s₃, s₄, s₅, -, -, -, hperiod, -, hreduced, hjournal,
    hpayments, hclosed, hmark, hsummary⟩ := postAdjustment_stages h
  have hledger : s₁.procurement.ledger = db.procurement.ledger := leavesLedger_reduceSalaries _ _ _ hreduced
  have hrest : db'.procurement.ledger = s₂.procurement.ledger := by
    obtain ⟨summaries, rfl⟩ := writeChainSummary_commits hsummary
    refine (leavesLedger_markPosted _ _ _ hmark).trans ?_
    refine ((Leaves.forM fun _ => leavesLedger_closeRecognized) _ _ _ hclosed).trans ?_
    exact leavesLedger_writePayments _ _ _ hpayments
  have hopen : ∀ p, db.procurement.ledger.fiscalPeriodOn i.scope.companyId i.scope.branchId
      (db.adjustmentDate i.run.id) = some p → p.status = .opened := by
    intro p hp
    by_contra hne
    exact Option.filter_eq_none_iff.mp hperiod p hp (decide_eq_true hne)
  rw [hrest, ← hledger]
  rw [← hledger] at hopen
  exact postAdjustmentJournal_written hjournal hopen

structure FinanceDb.ApprovedAdjustment (db : FinanceDb) (run : Payroll.PayrollRun) : Prop where
  found : db.payroll.runs.find? run.id = some run
  approved : run.status = .approved
  adjusts : run.adjustmentOfRunId.isSome = true

/-- A posting writes the journal of an approved adjustment, or posts at most an event. -/
lemma postAccounting_ledger (h : Commits (postAccounting scope runId) db r db') :
    (∃ run, run.id = runId ∧ db.ApprovedAdjustment run ∧
        ∃ ev e, JournalWritten ev e db.procurement.ledger db'.procurement.ledger ∧
          ev.companyId = scope.companyId ∧ ev.branchId = scope.branchId ∧
            ev.eventType = "PAYROLL_ADJUSTMENT" ∧ e.date = db.adjustmentDate runId) ∨
      (∀ run, run.id = runId → ¬ db.ApprovedAdjustment run) ∧
        (db'.procurement.ledger = db.procurement.ledger ∨
          WrittenUnlocked db.procurement.ledger db'.procurement.ledger) := by
  simp only [postAccounting, commits_steps, commits_ite] at h
  obtain ⟨run, _, hrun, h⟩ := h
  obtain ⟨rfl, hfind, _⟩ := findScopedRun_commits hrun
  obtain rfl : run.id = runId := (find?_eq_some.mp hfind).2
  obtain ⟨⟨hrecognized, _⟩, _, rfl⟩ | ⟨_, happroved, hpost⟩ := h
  · refine .inr ⟨fun x hx hadjusts => ?_, .inl rfl⟩
    obtain rfl := mem_unique hfind (hx ▸ hadjusts.found)
    rw [hadjusts.approved] at hrecognized
    cases hrecognized
  · simp only [postRun, commits_steps] at hpost
    obtain ⟨_, _, hperiod, accounts, _, haccounts, _, hpost⟩ := hpost
    obtain rfl := readOnly_findPeriod.eq hperiod
    obtain rfl := readOnly_resolvePayrollAccounts.eq haccounts
    cases hsource : run.adjustmentOfRunId with
    | some sourceId =>
      rw [hsource] at hpost
      have hadjusts : db.ApprovedAdjustment run := ⟨hfind, happroved, by rw [hsource]; rfl⟩
      exact .inl ⟨run, rfl, hadjusts, postAdjustment_written hpost⟩
    | none =>
      rw [hsource] at hpost
      refine .inr ⟨fun x hx hadjusts => ?_, postsEvent_postRegular _ _ _ hpost⟩
      obtain rfl := mem_unique hfind (hx ▸ hadjusts.found)
      have hsome := hadjusts.adjusts
      rw [hsource] at hsome
      cases hsome

lemma PayrollCall.ledger {call : PayrollCall} (hcall : ∀ scope runId, call ≠ .postAccounting scope runId)
    (h : Commits call.tx db u db') : db'.procurement.ledger = db.procurement.ledger ∨
      WrittenUnlocked db.procurement.ledger db'.procurement.ledger := by
  cases call with
  | createRun scope dto =>
    obtain ⟨_, hcreate, _⟩ := commits_bind_pure.mp h
    obtain rfl | ⟨_, _, _, _, _, _, rfl⟩ := createRun_commits hcreate
    · exact .inl rfl
    · exact .inl rfl
  | createAdjustmentRun scope sourceRunId dto =>
    obtain ⟨_, hcreate, _⟩ := commits_bind_pure.mp h
    obtain ⟨_, _, _, _, _, _, _, _, _, _, _, _, _, _, _, rfl⟩ := createAdjustmentRun_commits hcreate
    exact .inl rfl
  | calculateRun scope runId calculation =>
    exact .inl ((leavesLedger_payrollPart.bind fun _ => leaves_pure) _ _ _ h)
  | approveRun scope runId =>
    exact .inl ((leavesLedger_payrollPart.bind fun _ => leaves_pure) _ _ _ h)
  | cancelRun scope runId reason =>
    obtain ⟨_, hcancel, _⟩ := commits_bind_pure.mp h
    obtain ⟨_, _, _, rfl⟩ := cancelRun_commits hcancel
    exact .inl rfl
  | postAccounting scope runId => exact absurd rfl (hcall scope runId)
  | settlePayment scope paymentId dto =>
    exact (postsEvent_settlePayment.bind_leaves fun _ => leaves_pure) _ _ _ h

end Mayatoko.Finance
