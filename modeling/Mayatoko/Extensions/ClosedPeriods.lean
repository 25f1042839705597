import Mayatoko.Extensions.FiscalPeriods
import Mayatoko.Finance.PayrollConservation
import Mayatoko.Finance.PayrollJournal

/-!
# Closed periods and close controls

Runs of closings, of postings by any caller and of payroll calls. A transaction that posts several events is
a run of postings. Whatever else happens leaves the periods, the events and the journal alone.

No journal is written in a period that is closed, so a closed period keeps its journals. The close controls
are looked at by `postOperationalEvent` only: they hold exactly in the runs that post no adjustment of a
payroll run on a date that a control closes.
-/

namespace Mayatoko.Extensions

open Core Accounting Transit Finance FinanceDb

inductive BookCall
  | period (scope : TenantScope) (call : FiscalPeriodCall)
  | posts (input : PostOperationalEventInput)
  | payroll (call : PayrollCall)

def BookCall.tx (newDate : String → Option ℕ) : BookCall → FinanceTx Unit
  | period scope call => do let _ ← call.tx newDate scope
  | posts input => do let _ ← ledgerPart.lift (postOperationalEvent input)
  | payroll call => call.tx

inductive BookAction
  | call (c : BookCall)
  | elsewhere

inductive BookStep (newDate : String → Option ℕ) (db : FinanceDb) : BookAction → FinanceDb → Prop
  | call {c : BookCall} {db' : FinanceDb} (h : Commits (c.tx newDate) db () db') :
      BookStep newDate db (.call c) db'
  | elsewhere {db' : FinanceDb}
      (hperiods : db'.procurement.ledger.fiscalPeriods = db.procurement.ledger.fiscalPeriods)
      (hevents : db'.procurement.ledger.events = db.procurement.ledger.events)
      (hentries : db'.procurement.ledger.journalEntries = db.procurement.ledger.journalEntries) :
      BookStep newDate db .elsewhere db'

variable {newDate : String → Option ℕ} {db db' : FinanceDb} {a : BookAction} {as : List BookAction}
  {c : BookCall}

/-! ### Closed periods -/

lemma LedgerMove.of_written {ledger ledger' : AccountingDb}
    (h : ledger' = ledger ∨ WrittenUnlocked ledger ledger') : LedgerMove ledger ledger' := by
  obtain rfl | ⟨_, _, hwritten, _⟩ := h
  · exact .kept rfl rfl rfl
  · exact .written hwritten

lemma BookStep.move (h : BookStep newDate db a db') :
    LedgerMove db.procurement.ledger db'.procurement.ledger := by
  cases h with
  | elsewhere hperiods hevents hentries => exact .kept hperiods hevents hentries
  | @call c _ h =>
    cases c with
    | period scope call =>
      obtain ⟨_, hcall, _⟩ := commits_bind_pure.mp h
      exact FiscalPeriodCall.move hcall
    | posts input =>
      exact LedgerMove.of_written ((postsEvent_post.bind_leaves fun _ => leaves_pure) _ _ _ h)
    | payroll call =>
      by_cases hcall : ∃ scope runId, call = .postAccounting scope runId
      · obtain ⟨scope, runId, rfl⟩ := hcall
        obtain ⟨_, hpost, _⟩ := commits_bind_pure.mp h
        obtain ⟨_, _, _, _, _, hwritten, _⟩ | ⟨_, hmove⟩ := postAccounting_ledger hpost
        · exact .written hwritten
        · exact LedgerMove.of_written hmove
      · exact LedgerMove.of_written (PayrollCall.ledger (fun scope runId heq => hcall ⟨scope, runId, heq⟩) h)

structure PeriodsKept (ledger ledger' : AccountingDb) : Prop where
  apart : ledger'.PeriodsApart
  opened : PostsOpen ledger ledger'
  closed : KeepsClosed ledger ledger'

/-- In every run the periods of a branch do not overlap, no journal is written in a period that is closed,
and a closed period stays as it is and keeps the journals dated in it. -/
theorem closedPeriods_kept (hdb : LedgerDated db.procurement.ledger) (h : Run (BookStep newDate) db as db') :
    Run (fun s a s' => BookStep newDate s a s' ∧
        PeriodsKept s.procurement.ledger s'.procurement.ledger) db as db' ∧
      KeepsClosed db.procurement.ledger db'.procurement.ledger := by
  have hall := h.and_of_invariant (I := fun s => LedgerDated s.procurement.ledger)
    (P := fun s _ s' => PeriodsKept s.procurement.ledger s'.procurement.ledger)
    (fun _ _ _ hs hstep => hstep.move.dated hs)
    (fun _ _ _ hs hstep => ⟨(hstep.move.dated hs).apart, hstep.move.postsOpen hs, hstep.move.keepsClosed hs⟩)
    hdb
  refine ⟨hall, ?_⟩
  clear hdb h
  induction hall with
  | nil s => exact .refl _
  | cons hstep _ ih => exact hstep.2.closed.trans ih

lemma ledgerDated_of_empty {ledger : AccountingDb} (hperiods : ledger.fiscalPeriods = .empty)
    (hevents : ledger.events = .empty) : LedgerDated ledger := by
  constructor
  · intro p hp
    rw [hperiods] at hp
    exact absurd hp (not_mem_empty p)
  · intro ev hev
    rw [hevents] at hev
    exact absurd hev (not_mem_empty ev)

def afterBooks (newDate : String → Option ℕ) (calls : List BookCall) (db : FinanceDb) : FinanceDb :=
  Finance.leftBy (calls.forM (BookCall.tx newDate)) db

lemma bookRun_of_calls {calls : List BookCall}
    (h : (execute (calls.forM (BookCall.tx newDate)) db).1.isOk = true) :
    Run (BookStep newDate) db (calls.map .call) (afterBooks newDate calls db) := by
  obtain ⟨_, hcommits⟩ := commits_leftBy (calls.forM (BookCall.tx newDate)) db h
  exact (commits_forM_iff_run.mp hcommits).map fun _ _ _ => .call

def firstMonth (text : String) : Option ℕ :=
  if text = "1970-01-01T00:00:00.000" then some 0
  else if text = "1970-01-31T23:59:59.999" then some 2678399999
  else none

def monthClosed : List BookCall :=
  [.period headOffice (.create { name := "Januari", startDate := "1970-01-01", endDate := "1970-01-31" }),
    .payroll (.createRun headOffice ⟨1, none, none⟩),
    .payroll (.calculateRun headOffice 2 fun _ => Payroll.salary 100),
    .payroll (.approveRun headOffice 2),
    .payroll (.postAccounting headOffice 2),
    .period headOffice (.softClose 1),
    .period headOffice (.close 1)]

theorem closedPeriods_kept_monthClosed : (Run (fun s a s' => BookStep firstMonth s a s' ∧
          PeriodsKept s.procurement.ledger s'.procurement.ledger)
        firstPayroll (monthClosed.map .call) (afterBooks firstMonth monthClosed firstPayroll) ∧
      KeepsClosed firstPayroll.procurement.ledger
        (afterBooks firstMonth monthClosed firstPayroll).procurement.ledger) ∧
      (afterBooks firstMonth monthClosed firstPayroll).procurement.ledger.fiscalPeriods.rows =
        [⟨1, 1, some 1, "Januari", 0, 2678399999, .closed⟩] ∧
      (afterBooks firstMonth monthClosed firstPayroll).procurement.ledger.journalEntries.rows.map
        Accounting.JournalEntry.date = [0] :=
  ⟨closedPeriods_kept (ledgerDated_of_empty rfl rfl) (bookRun_of_calls (by decide +kernel)),
    by decide +kernel, by decide +kernel⟩

/-! ### Close controls -/

/-- The condition: an adjustment is posted on a date that no close control closes. -/
def UnlockedAdjustment (db : FinanceDb) : BookAction → Prop
  | .call (.payroll (.postAccounting scope runId)) =>
    ∀ run, run.id = runId → db.ApprovedAdjustment run → ∀ c ∈ db.procurement.ledger.closeControls,
      ¬ c.Locks scope.companyId scope.branchId "PAYROLL_ADJUSTMENT" (db.adjustmentDate runId)
  | _ => True

/-- A step writes no journal that a control closes exactly if it meets the condition. -/
lemma BookStep.postsUnlocked_iff (h : BookStep newDate db a db') (hdb : LedgerDated db.procurement.ledger) :
    PostsUnlocked db.procurement.ledger db'.procurement.ledger ↔ UnlockedAdjustment db a := by
  cases h with
  | elsewhere _ _ hentries => exact iff_of_true (postsUnlocked_of_entries hentries) trivial
  | @call c _ h =>
    cases c with
    | period scope call =>
      obtain ⟨_, hcall, _⟩ := commits_bind_pure.mp h
      exact iff_of_true (postsUnlocked_of_entries (FiscalPeriodCall.leaves _ _ _ hcall)) trivial
    | posts input =>
      have hmove := (postsEvent_post.bind_leaves fun _ => leaves_pure) _ _ _ h
      exact iff_of_true (postsUnlocked_of_written hdb.linked hmove) trivial
    | payroll call =>
      by_cases hcall : ∃ scope runId, call = .postAccounting scope runId
      · obtain ⟨scope, runId, rfl⟩ := hcall
        obtain ⟨_, hpost, _⟩ := commits_bind_pure.mp h
        obtain ⟨run, hid, happroved, ev, e, hwritten, hcompany, hbranch, htype, hdate⟩ |
          ⟨hnone, hmove⟩ := postAccounting_ledger hpost
        · rw [hwritten.postsUnlocked_iff hdb.linked, hcompany, hbranch, htype, hdate]
          exact ⟨fun hunlocked _ _ _ => hunlocked, fun hguard => hguard run hid happroved⟩
        · refine iff_of_true (postsUnlocked_of_written hdb.linked hmove) ?_
          exact fun run hid happroved => absurd happroved (hnone run hid)
      · have hne : ∀ scope runId, call ≠ .postAccounting scope runId :=
          fun scope runId heq => hcall ⟨scope, runId, heq⟩
        refine iff_of_true (postsUnlocked_of_written hdb.linked (PayrollCall.ledger hne h)) ?_
        cases call with
        | postAccounting scope runId => exact absurd rfl (hne scope runId)
        | _ => trivial

/-- No journal is committed that a close control closes exactly in the runs that post no adjustment on a date
that one closes. -/
theorem closeControls_hold_iff (hdb : LedgerDated db.procurement.ledger) :
    Run (fun s a s' => BookStep newDate s a s' ∧
        PostsUnlocked s.procurement.ledger s'.procurement.ledger) db as db' ↔
      Run (Guarded UnlockedAdjustment (BookStep newDate)) db as db' := by
  refine Run.and_iff_guarded_of_invariant (J := fun s : FinanceDb => LedgerDated s.procurement.ledger) ?_ ?_ hdb
  · exact fun _ _ _ hs hstep => hstep.move.dated hs
  · exact fun _ _ _ hs hstep => hstep.postsUnlocked_iff hs

def adjustmentApproved : FinanceDb :=
  afterBooks firstMonth ((lowered.take 8).map .payroll) firstPayroll

def closeBooks (periodStart : ℕ) (db : FinanceDb) : FinanceDb :=
  { db with
    procurement.ledger.closeControls :=
      Table.empty.put ⟨1, 1, none, "ACCOUNTING", periodStart, 2678399999, "CLOSED"⟩ }

def booksClosed (periodStart : ℕ) : FinanceDb := closeBooks periodStart adjustmentApproved

def adjustmentPosted (periodStart : ℕ) : FinanceDb :=
  Finance.leftBy (PayrollCall.postAccounting headOffice 2).tx (booksClosed periodStart)

lemma adjustmentApproved_run : Run (BookStep firstMonth) firstPayroll
    (((lowered.take 8).map .payroll).map .call) adjustmentApproved :=
  bookRun_of_calls (by decide +kernel)

lemma closeBooks_step (periodStart : ℕ) (db : FinanceDb) :
    BookStep newDate db .elsewhere (closeBooks periodStart db) :=
  .elsewhere rfl rfl rfl

lemma adjustmentPosted_step (periodStart : ℕ)
    (h : (execute (PayrollCall.postAccounting headOffice 2).tx (booksClosed periodStart)).1.isOk = true) :
    BookStep firstMonth (booksClosed periodStart) (.call (.payroll (.postAccounting headOffice 2)))
      (adjustmentPosted periodStart) := by
  obtain ⟨_, hcommits⟩ := commits_leftBy _ _ h
  exact .call hcommits

/-- The adjustment is posted although the books are closed. -/
theorem adjustment_locked : ∃ as s s', Run (BookStep firstMonth) firstPayroll as s ∧
      BookStep firstMonth s (.call (.payroll (.postAccounting headOffice 2))) s' ∧
        ¬ PostsUnlocked s.procurement.ledger s'.procurement.ledger := by
  refine ⟨_, booksClosed 0, adjustmentPosted 0, Run.append_iff.mpr
    ⟨_, adjustmentApproved_run, .cons (closeBooks_step 0 _) (.nil _)⟩, adjustmentPosted_step 0 (by decide +kernel),
    fun h => ?_⟩
  have hlocked : ∃ ev ∈ (adjustmentPosted 0).procurement.ledger.events.rows,
      ∃ e ∈ (adjustmentPosted 0).procurement.ledger.journalEntries.rows, ev.journalEntryId = some e.id ∧
        e ∉ (booksClosed 0).procurement.ledger.journalEntries.rows ∧
          ∃ c ∈ (adjustmentPosted 0).procurement.ledger.closeControls.rows,
            c.Locks ev.companyId ev.branchId ev.eventType e.date := by
    decide +kernel
  obtain ⟨ev, hev, e, he, hlink, hnew, c, hc, hlocks⟩ := hlocked
  exact h ev e ⟨hev, he, hlink⟩ hnew c hc hlocks

lemma adjustmentApproved_dated : LedgerDated adjustmentApproved.procurement.ledger :=
  adjustmentApproved_run.invariant (I := fun s => LedgerDated s.procurement.ledger)
    (fun _ _ _ hs hstep => hstep.move.dated hs) (ledgerDated_of_empty rfl rfl)

theorem closeControls_hold_adjustment : Run (fun s a s' => BookStep firstMonth s a s' ∧
        PostsUnlocked s.procurement.ledger s'.procurement.ledger) adjustmentApproved
      [.elsewhere, .call (.payroll (.postAccounting headOffice 2))] (adjustmentPosted 1) := by
  refine (closeControls_hold_iff adjustmentApproved_dated).mpr ?_
  have hpost := adjustmentPosted_step 1 (by decide +kernel)
  refine .cons ⟨trivial, closeBooks_step 1 _⟩ (.cons ⟨?_, hpost⟩ (.nil _))
  intro run _ _ c hc hlocks
  have hdate : (booksClosed 1).adjustmentDate 2 = 0 := by decide +kernel
  have hstart : ∀ c ∈ (booksClosed 1).procurement.ledger.closeControls.rows, c.periodStart = 1 := by
    decide +kernel
  have hle := hlocks.starts
  rw [hstart c hc] at hle
  exact absurd (hle.trans_eq hdate) (by decide)

end Mayatoko.Extensions
