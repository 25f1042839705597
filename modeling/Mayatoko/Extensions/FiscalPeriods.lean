import Mayatoko.Accounting.JournalDates
import Mayatoko.Extensions.Request
import Mayatoko.Finance.PayrollPostingFacts

/-!
# Fiscal periods

Creating, closing and reopening the fiscal periods of a branch, each one serializable transaction of
`ExtensionsService`. A period that is created or closed leaves the journal alone; a posting leaves the
periods alone. The audit rows are left out.
-/

namespace Mayatoko.Extensions

open Core Accounting Transit Finance FinanceDb

def fiscalPeriod : TableOf FinanceDb FiscalPeriod.id :=
  ⟨fun db => db.procurement.ledger.fiscalPeriods, fun db t => { db with procurement.ledger.fiscalPeriods := t }⟩

def scopedFiscalPeriod (scope : TenantScope) (id : ℕ) : FinanceTx FiscalPeriod := do
  let db ← get
  orThrow ((db.procurement.ledger.fiscalPeriods.find? id).filter fun p =>
      p.companyId = scope.companyId && p.branchId = some scope.branchId)
    (tenantAccessDenied "FiscalPeriod")

structure FiscalCloseChecks where
  journalCount : ℕ
  unbalancedJournals : ℕ
  unresolvedAccountingEvents : ℕ
  (postedEventsMissingJournal pendingFinanceTransactions nonPostedTaxTransactions : ℕ)

def branchLines (ledger : AccountingDb) (branchId : ℕ) (entry : Accounting.JournalEntry) :
    List Accounting.JournalLine :=
  entry.lines.filter fun l => ledger.accounts.rows.any fun a => a.id = l.accountId && a.branchId = branchId

def fiscalCloseBlockers (scope : TenantScope) (startDate endDate : ℕ) : FinanceTx FiscalCloseChecks := do
  let db ← get
  let ledger := db.procurement.ledger
  let within (date : ℕ) : Bool := startDate ≤ date && date ≤ endDate
  let journalGroups := ((ledger.journalEntries.findMany fun e => within e.date).map
    (branchLines ledger scope.branchId)).filter (· ≠ [])
  let events := ledger.events.findMany fun e =>
    e.companyId = scope.companyId && e.branchId = scope.branchId && within e.businessDate
  pure {
    journalCount := journalGroups.length
    unbalancedJournals := (journalGroups.filter fun lines =>
      (lines.map Accounting.JournalLine.debit).sum ≠
        (lines.map Accounting.JournalLine.credit).sum).length
    unresolvedAccountingEvents :=
      (events.filter fun e => e.status ∈ [.pending, .validated, .failed]).length
    postedEventsMissingJournal :=
      (events.filter fun e => e.status = .posted && e.journalEntryId = none).length
    pendingFinanceTransactions := (db.transactions.findMany fun t =>
      t.companyId = scope.companyId && t.branchId = scope.branchId && within t.transactionDate &&
        t.status ∈ [.draft, .waitingApproval, .approved]).length
    nonPostedTaxTransactions := (ledger.taxTransactions.filter fun t =>
      t.companyId = scope.companyId && t.branchId = scope.branchId && within t.transactionDate &&
        t.status = .calculated).length }

def hasFiscalCloseBlockers (checks : FiscalCloseChecks) : Bool :=
  0 < checks.unbalancedJournals || 0 < checks.unresolvedAccountingEvents ||
    0 < checks.postedEventsMissingJournal || 0 < checks.pendingFinanceTransactions ||
    0 < checks.nonPostedTaxTransactions

/-! ### The calls -/

structure CreateFiscalPeriod where
  companyId : Option ℕ := none
  branchId : Option ℕ := none
  (name startDate endDate : String)

/-- Create the period unless one of the branch overlaps it. -/
def insertFiscalPeriod (scope : TenantScope) (name : String) (startDate endDate : ℕ) :
    FinanceTx FiscalPeriod := do
  let db ← get
  let ofBranch := fun p : FiscalPeriod => p.companyId = scope.companyId && p.branchId = some scope.branchId
  refuse (db.procurement.ledger.fiscalPeriods.findMany fun p =>
      ofBranch p && p.startDate ≤ endDate && startDate ≤ p.endDate).head?
    fun overlapping => .badRequest s!"Periode fiskal tumpang tindih dengan {overlapping.name}."
  let id ← freshId
  let period : FiscalPeriod :=
    { id, companyId := scope.companyId, branchId := some scope.branchId, name, startDate, endDate }
  fiscalPeriod.create period .uniqueViolation
  pure period

def createFiscalPeriod (newDate : String → Option ℕ) (scope : TenantScope) (dto : CreateFiscalPeriod) :
    FinanceTx FiscalPeriod := do
  assertRequestedScope scope.companyId scope.branchId dto.companyId dto.branchId "FiscalPeriod"
  let startDate ← boundaryDate newDate dto.startDate false
  let endDate ← boundaryDate newDate dto.endDate true
  require (startDate ≤ endDate)
    (.badRequest "Tanggal awal periode tidak boleh melewati tanggal akhir.")
  let db ← get
  match (db.procurement.ledger.fiscalPeriods.findMany fun p => p.companyId = scope.companyId &&
      p.branchId = some scope.branchId && p.startDate = startDate && p.endDate = endDate).head? with
  | some existing => do
    require (existing.name = dto.name)
      (.badRequest "Periode fiskal pada rentang yang sama sudah tersedia dengan nama berbeda.")
    pure existing
  | none => insertFiscalPeriod scope dto.name startDate endDate

def closeUnlessBlocked (scope : TenantScope) (period : FiscalPeriod) (status : FiscalPeriodStatus)
    (message : String) : FinanceTx FiscalPeriod := do
  let checks ← fiscalCloseBlockers scope period.startDate period.endDate
  require (hasFiscalCloseBlockers checks = false) (.badRequest message)
  fiscalPeriod.update period.id (fun p => { p with status := status }) .recordNotFound

def softCloseFiscalPeriod (scope : TenantScope) (id : ℕ) : FinanceTx FiscalPeriod := do
  let period ← scopedFiscalPeriod scope id
  require (period.status ≠ .closed)
    (.badRequest "Periode CLOSED bersifat final dan tidak dapat di-soft-close.")
  if period.status = .softClosed then pure period else
    closeUnlessBlocked scope period .softClosed
      "Periode belum dapat di-soft-close karena masih ada item rekonsiliasi yang belum selesai."

def reopenFiscalPeriod (scope : TenantScope) (id : ℕ) : FinanceTx FiscalPeriod := do
  let period ← scopedFiscalPeriod scope id
  require (period.status ≠ .closed) (.badRequest
    "Periode CLOSED bersifat final. Gunakan adjustment/reversal pada periode terbuka, bukan reopen.")
  if period.status = .opened then pure period else
    fiscalPeriod.update period.id (fun p => { p with status := .opened }) .recordNotFound

/-- The part of `closeFiscalPeriod` for a period that is not closed. -/
def finalClose (scope : TenantScope) (period : FiscalPeriod) : FinanceTx FiscalPeriod := do
  require (period.status = .softClosed)
    (.badRequest "Periode harus SOFT_CLOSED dan direkonsiliasi sebelum final close.")
  closeUnlessBlocked scope period .closed
    "Periode belum dapat ditutup karena masih ada item rekonsiliasi yang belum selesai."

def closeFiscalPeriod (scope : TenantScope) (id : ℕ) : FinanceTx FiscalPeriod := do
  let period ← scopedFiscalPeriod scope id
  if period.status = .closed then pure period else finalClose scope period

inductive FiscalPeriodCall
  | create (dto : CreateFiscalPeriod)
  | softClose (id : ℕ)
  | reopen (id : ℕ)
  | close (id : ℕ)

def FiscalPeriodCall.tx (newDate : String → Option ℕ) (scope : TenantScope) :
    FiscalPeriodCall → FinanceTx FiscalPeriod
  | create dto => createFiscalPeriod newDate scope dto
  | softClose id => softCloseFiscalPeriod scope id
  | reopen id => reopenFiscalPeriod scope id
  | close id => closeFiscalPeriod scope id

/-! ### What a call does -/

variable {newDate : String → Option ℕ} {scope : TenantScope} {db db' : FinanceDb} {p q : FiscalPeriod}
  {k : ℕ}

lemma apart_of_not_overlapping {companyId : ℕ} {branchId : Option ℕ}
    (h : ∀ q ∈ db.procurement.ledger.fiscalPeriods, q.companyId = companyId → q.branchId = branchId →
      q.startDate ≤ p.endDate → q.endDate < p.startDate)
    (hcompany : p.companyId = companyId) (hbranch : p.branchId = branchId) :
    ∀ q ∈ db.procurement.ledger.fiscalPeriods, p.ApartFrom q := by
  intro q hq hc hb
  rcases lt_or_ge p.endDate q.startDate with hlt | hle
  · exact .inl hlt
  · exact .inr (h q hq (hc.symm.trans hcompany) (hb.symm.trans hbranch) hle)

lemma insertFiscalPeriod_move {name : String} {startDate endDate : ℕ}
    (h : Commits (insertFiscalPeriod scope name startDate endDate) db p db') :
    LedgerMove db.procurement.ledger db'.procurement.ledger := by
  simp only [insertFiscalPeriod, freshId, commits_bind, commits_get, commits_refuse, commits_set,
    commits_pure, TableOf.commits_create, List.head?_eq_none_iff, List.eq_nil_iff_forall_not_mem, mem_findMany, cond_iff] at h
  obtain ⟨_, _, ⟨rfl, rfl⟩, _, _, ⟨hnone, rfl⟩, _, _, ⟨_, _, ⟨rfl, rfl⟩, _, _, rfl, rfl, rfl⟩, _, _,
    ⟨hfresh, rfl⟩, rfl, rfl⟩ := h
  change db.procurement.ledger.fiscalPeriods.find? db.nextId = none at hfresh
  refine .created hfresh (apart_of_not_overlapping (fun q hq hcompany hbranch hstart => ?_) rfl rfl) rfl rfl rfl
  by_contra hend
  exact hnone q ⟨hq, ⟨⟨hcompany, hbranch⟩, hstart⟩, not_lt.mp hend⟩

lemma createFiscalPeriod_move {dto : CreateFiscalPeriod}
    (h : Commits (createFiscalPeriod newDate scope dto) db p db') :
    LedgerMove db.procurement.ledger db'.procurement.ledger := by
  simp only [createFiscalPeriod, assertRequestedScope, boundaryDate, commits_steps] at h
  obtain ⟨_, startDate, _, endDate, _, _, h⟩ := h
  split at h
  · simp only [commits_steps] at h
    obtain ⟨_, _, rfl⟩ := h
    exact .kept rfl rfl rfl
  · exact insertFiscalPeriod_move h

lemma scopedFiscalPeriod_commits (h : Commits (scopedFiscalPeriod scope k) db p db') :
    db = db' ∧ p ∈ db.procurement.ledger.fiscalPeriods := by
  simp only [scopedFiscalPeriod, commits_steps, Option.filter_eq_some_iff] at h
  obtain ⟨⟨hfind, _⟩, rfl⟩ := h
  exact ⟨rfl, (find?_eq_some.mp hfind).1⟩

variable {status : FiscalPeriodStatus}

lemma updateStatus_move (hp : p ∈ db.procurement.ledger.fiscalPeriods)
    (hopen : p.status ≠ .closed) (h : Commits (fiscalPeriod.update p.id
      (fun p => { p with status := status }) Failure.recordNotFound) db q db') :
    LedgerMove db.procurement.ledger db'.procurement.ledger := by
  obtain ⟨o, ho, _, rfl⟩ := TableOf.commits_update.mp h
  obtain rfl := mem_unique ho (find?_of_mem hp)
  exact .moved hp hopen status rfl rfl rfl

lemma readOnly_fiscalCloseBlockers {startDate endDate : ℕ} :
    ReadOnly (fiscalCloseBlockers scope startDate endDate) :=
  leaves_get.bind fun _ => leaves_pure

lemma closeUnlessBlocked_move {message : String}
    (hp : p ∈ db.procurement.ledger.fiscalPeriods) (hopen : p.status ≠ .closed)
    (h : Commits (closeUnlessBlocked scope p status message) db q db') :
    LedgerMove db.procurement.ledger db'.procurement.ledger := by
  simp only [closeUnlessBlocked, commits_steps] at h
  obtain ⟨_, _, hchecks, _, hupdate⟩ := h
  obtain rfl := readOnly_fiscalCloseBlockers.eq hchecks
  exact updateStatus_move hp hopen hupdate

variable {call : FiscalPeriodCall}

lemma FiscalPeriodCall.move (h : Commits (call.tx newDate scope) db p db') :
    LedgerMove db.procurement.ledger db'.procurement.ledger := by
  cases call with
  | create dto => exact createFiscalPeriod_move h
  | softClose id =>
    simp only [tx, softCloseFiscalPeriod, commits_steps, commits_ite] at h
    obtain ⟨period, _, hperiod, hopen, ⟨_, _, rfl⟩ | ⟨_, hclose⟩⟩ := h
    · obtain ⟨rfl, _⟩ := scopedFiscalPeriod_commits hperiod
      exact .kept rfl rfl rfl
    · obtain ⟨rfl, hp⟩ := scopedFiscalPeriod_commits hperiod
      exact closeUnlessBlocked_move hp hopen hclose
  | reopen id =>
    simp only [tx, reopenFiscalPeriod, commits_steps, commits_ite] at h
    obtain ⟨period, _, hperiod, hopen, ⟨_, _, rfl⟩ | ⟨_, hupdate⟩⟩ := h
    · obtain ⟨rfl, _⟩ := scopedFiscalPeriod_commits hperiod
      exact .kept rfl rfl rfl
    · obtain ⟨rfl, hp⟩ := scopedFiscalPeriod_commits hperiod
      exact updateStatus_move hp hopen hupdate
  | close id =>
    simp only [tx, closeFiscalPeriod, finalClose, commits_steps, commits_ite] at h
    obtain ⟨period, _, hperiod, ⟨_, _, rfl⟩ | ⟨hopen, _, hclose⟩⟩ := h
    · obtain ⟨rfl, _⟩ := scopedFiscalPeriod_commits hperiod
      exact .kept rfl rfl rfl
    · obtain ⟨rfl, hp⟩ := scopedFiscalPeriod_commits hperiod
      exact closeUnlessBlocked_move hp hopen hclose

lemma fiscalPeriod_apart : fiscalPeriod.Apart fun db : FinanceDb => db.procurement.ledger.journalEntries :=
  ⟨fun _ _ => rfl⟩

lemma leaves_closeUnlessBlocked {message : String} :
    Leaves (fun db : FinanceDb => db.procurement.ledger.journalEntries)
      (closeUnlessBlocked scope p status message) :=
  readOnly_fiscalCloseBlockers.leaves.bind fun _ => leaves_require.bind fun _ => fiscalPeriod_apart.update

lemma FiscalPeriodCall.leaves :
    Leaves (fun db : FinanceDb => db.procurement.ledger.journalEntries) (call.tx newDate scope) := by
  have hscoped (id : ℕ) : Leaves (fun db : FinanceDb => db.procurement.ledger.journalEntries)
      (scopedFiscalPeriod scope id) := leaves_get.bind fun _ => leaves_orThrow
  cases call with
  | create dto =>
    refine leaves_require.bind fun _ => leaves_orThrow.bind fun _ => leaves_orThrow.bind fun _ =>
      leaves_require.bind fun _ => leaves_get.bind fun db => ?_
    split
    · exact leaves_require.bind fun _ => leaves_pure
    · refine leaves_get.bind fun _ => leaves_refuse.bind fun _ => Leaves.bind ?_ fun _ =>
        fiscalPeriod_apart.create.bind fun _ => leaves_pure
      intro s id s' h
      simp only [freshId, commits_steps, commits_set] at h
      obtain ⟨_, _, rfl, _, rfl⟩ := h
      rfl
  | softClose id =>
    exact (hscoped id).bind fun _ => leaves_require.bind fun _ =>
      Leaves.ite leaves_pure leaves_closeUnlessBlocked
  | reopen id =>
    exact (hscoped id).bind fun _ => leaves_require.bind fun _ =>
      Leaves.ite leaves_pure fiscalPeriod_apart.update
  | close id =>
    exact (hscoped id).bind fun _ => Leaves.ite leaves_pure
      (leaves_require.bind fun _ => leaves_closeUnlessBlocked)

end Mayatoko.Extensions
