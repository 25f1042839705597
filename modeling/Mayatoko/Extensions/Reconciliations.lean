import Mayatoko.Extensions.BankSchema
import Mayatoko.Extensions.Request

/-!
# Bank reconciliations

A reconciliation compares the lines of a bank statement in a range of dates with the journal lines of the
bank account. The matches stand on the statement lines; several reconciliations may share a line. What
`getDate` and its like make of an instant depends on the clock of the host and is a parameter.
-/

namespace Mayatoko.Extensions

open Core Accounting Transit BankDb

/-! ### Reads -/

def scopedBankStatement (scope : TenantScope) (id : ℕ) : BankTx BankStatement := do
  let db ← get
  orThrow ((db.statements.find? id).filter fun s =>
      s.companyId = scope.companyId && s.branchId = some scope.branchId)
    (tenantAccessDenied "BankStatement")

def scopedReconciliation (scope : TenantScope) (id : ℕ) : BankTx BankReconciliation := do
  let db ← get
  orThrow ((db.reconciliations.find? id).filter fun r =>
      r.companyId = scope.companyId && r.branchId = some scope.branchId)
    (tenantAccessDenied "BankReconciliation")

def assertBankAccount (scope : TenantScope) (id : ℕ) : BankTx Unit := do
  let db ← get
  let ofCompany := fun b : Branch => decide (b.companyId = scope.companyId)
  let _ ← orThrow ((db.accounts.find? id).filter fun a =>
      a.branchId = scope.branchId && a.type = .asset && a.isActive &&
        (db.branches.find? a.branchId).any ofCompany)
    (tenantAccessDenied "BankAccount")

def BankDb.accountLines (db : BankDb) (accountId : ℕ) : List (JournalLine × JournalEntry) :=
  (db.journalLines.findMany fun l => l.accountId = accountId).filterMap fun l =>
    (db.journalEntries.find? l.journalEntryId).map fun e => (l, e)

def journalBookBalance (accountId endDate : ℕ) : BankTx ℚ := do
  let db ← get
  let lines := (db.accountLines accountId).filter fun l => l.2.date ≤ endDate
  pure ((lines.map fun l => l.1.debit).sum - (lines.map fun l => l.1.credit).sum)

/-- The balance of the last line that has one. -/
def lastBalance (lines : List BankStatementLine) : Option ℚ :=
  ((lines.filter fun l => l.balance.isSome).insertionSort
    fun a b => b.transactionDate ≤ a.transactionDate).head?.bind BankStatementLine.balance

def statementBalance (statement : BankStatement) (lines : List BankStatementLine)
    (fallback : Option ℚ) : BankTx ℚ :=
  orThrow
    (((statement.closingBalance.or (lastBalance lines)).or (statement.openingBalance.map fun opening =>
      lines.foldl (fun balance l => balance + l.credit - l.debit) opening)).or fallback)
    (.badRequest ("Saldo bank tidak dapat dihitung. Isi closingBalance, balance baris terakhir, atau " ++
      "openingBalance pada bank statement."))

/-! ### Lines that fit -/

/-- A letter of `a` to `z` or a digit, in lower case. Two letters from elsewhere have a lower case with such
a letter. -/
def normalizedChar (c : Char) : Option Char :=
  if c.isLower || c.isDigit then some c
  else if c.isUpper then some c.toLower
  else if c = Char.ofNat 0x130 then some 'i'
  else if c = Char.ofNat 0x212A then some 'k'
  else none

def normalizeBankReference (value : String) : List Char := value.toList.filterMap normalizedChar

def bankLineMatchesJournalAmount (statementLine : BankStatementLine) (journalLine : JournalLine) : Bool :=
  if 0 < statementLine.credit ∧ statementLine.debit = 0 then
    journalLine.debit = statementLine.credit ∧ journalLine.credit = 0
  else if 0 < statementLine.debit ∧ statementLine.credit = 0 then
    journalLine.credit = statementLine.debit ∧ journalLine.debit = 0
  else false

def referenceMatches (reference : String) (entry : JournalEntry) : Bool :=
  let reference := normalizeBankReference reference
  let haystack := ([entry.number, entry.referenceId, entry.description].map normalizeBankReference).filter
    (· ≠ [])
  reference ≠ [] && haystack.any fun value => reference <:+: value || value <:+: reference

/-- The journal lines that a statement line may be matched with. Of several the one that the reference
names is taken. -/
def candidatesFor (businessDay : ℕ → ℕ × ℕ × ℕ) (journalLines : List (JournalLine × JournalEntry))
    (usedJournalIds : List ℕ) (statementLine : BankStatementLine) : List (JournalLine × JournalEntry) :=
  let candidates := journalLines.filter fun l => l.1.id ∉ usedJournalIds &&
    businessDay statementLine.transactionDate = businessDay l.2.date &&
      bankLineMatchesJournalAmount statementLine l.1
  match statementLine.reference with
  | none => candidates
  | some reference =>
    let named := candidates.filter fun l => referenceMatches reference l.2
    if 1 < candidates.length ∧ reference ≠ "" ∧ named.length = 1 then named else candidates

def BankReconciliation.inRange (r : BankReconciliation) (date : ℕ) : Bool :=
  r.startDate ≤ date && date ≤ r.endDate

/-! ### The calls -/

def matchLine (statementLineId journalLineId : ℕ) : BankTx Unit := do
  let _ ← bankStatementLine.update statementLineId
    (fun l => { l with matched := true, matchedType := some "JournalLine", matchedId := some journalLineId })
    .recordNotFound

def refreshReconciliation (scope : TenantScope) (id : ℕ) : BankTx BankReconciliation := do
  let reconciliation ← scopedReconciliation scope id
  let statementId ← orThrow reconciliation.statementId
    (.badRequest "Rekonsiliasi tidak memiliki bank statement.")
  let db ← get
  let lines := db.statementLines.findMany fun l =>
    l.statementId = statementId && reconciliation.inRange l.transactionDate
  let completed := reconciliation.difference = 0 ∧ (lines.filter fun l => !l.matched).length = 0
  bankReconciliation.update reconciliation.id
    (fun r => { r with
      matchedCount := (lines.filter fun l => l.matched).length
      status := if completed then .completed else .inProgress }) .recordNotFound

structure CreateReconciliation where
  companyId : Option ℕ := none
  branchId : Option ℕ := none
  statementId : ℕ
  bankAccountId : Option ℕ := none
  (startDate endDate : String)
  bookBalance : Option ℚ := none
  bankBalance : Option ℚ := none

/-- Create the reconciliation of the lines with the balances, unless there is one. -/
def insertReconciliation (scope : TenantScope) (bankAccountId statementId startDate endDate : ℕ)
    (lines : List BankStatementLine) (bookBalance bankBalance : ℚ) : BankTx BankReconciliation := do
  let db ← get
  match (db.reconciliations.findMany fun r => r.companyId = scope.companyId &&
      r.branchId = some scope.branchId && r.statementId = some statementId && r.startDate = startDate &&
        r.endDate = endDate).head? with
  | some existing => do
    require (existing.bankAccountId = some bankAccountId ∧ existing.bookBalance = bookBalance ∧
        existing.bankBalance = bankBalance)
      (.badRequest ("Rekonsiliasi periode ini sudah ada tetapi snapshot saldo telah berubah. Buat " ++
        "periode/snapshot baru setelah menyelesaikan perubahan ledger."))
    pure existing
  | none => do
    let matchedCount := (lines.filter fun l => l.matched).length
    let completed := bankBalance - bookBalance = 0 ∧ lines.length - matchedCount = 0
    let reconciliation : BankReconciliation := {
      id := db.nextId
      companyId := scope.companyId
      branchId := some scope.branchId
      bankAccountId := some bankAccountId
      statementId := some statementId
      startDate
      endDate
      bookBalance
      bankBalance
      difference := bankBalance - bookBalance
      matchedCount
      status := if completed then .completed else .inProgress }
    bankReconciliation.create reconciliation .uniqueViolation
    modify fun db => { db with nextId := db.nextId + 1 }
    pure reconciliation

def createReconciliation (newDate : String → Option ℕ) (scope : TenantScope) (dto : CreateReconciliation) :
    BankTx BankReconciliation := do
  assertRequestedScope scope.companyId scope.branchId dto.companyId dto.branchId "BankReconciliation"
  let startDate ← boundaryDate newDate dto.startDate false
  let endDate ← boundaryDate newDate dto.endDate true
  require (startDate ≤ endDate)
    (.badRequest "Tanggal awal rekonsiliasi tidak boleh melewati tanggal akhir.")
  let statement ← scopedBankStatement scope dto.statementId
  let bankAccountId ← orThrow (dto.bankAccountId.or statement.bankAccountId) (.badRequest
    "Bank statement belum terikat ke account bank. Import ulang atau pilih bankAccountId.")
  require (statement.bankAccountId.all (· = bankAccountId))
    (.badRequest "bankAccountId rekonsiliasi berbeda dari bank statement.")
  assertBankAccount scope bankAccountId
  require (statement.periodStart.all (· ≤ startDate))
    (.badRequest "Tanggal awal rekonsiliasi berada sebelum periode statement.")
  require (statement.periodEnd.all (endDate ≤ ·))
    (.badRequest "Tanggal akhir rekonsiliasi berada setelah periode statement.")
  let db ← get
  let lines := db.statementLines.findMany fun l => l.statementId = statement.id &&
    (startDate ≤ l.transactionDate && l.transactionDate ≤ endDate)
  require (lines ≠ []) (.badRequest "Tidak ada baris bank statement pada periode rekonsiliasi.")
  let bookBalance ← journalBookBalance bankAccountId endDate
  let bankBalance ← statementBalance statement lines dto.bankBalance
  require (dto.bookBalance.all (· = bookBalance))
    (.badRequest s!"Saldo buku client stale. Server={toFixed2 bookBalance}.")
  require (dto.bankBalance.all (· = bankBalance))
    (.badRequest s!"Saldo bank client berbeda dari statement. Server={toFixed2 bankBalance}.")
  insertReconciliation scope bankAccountId statement.id startDate endDate lines bookBalance bankBalance

/-- The statement and the account of a reconciliation that is not cancelled. -/
def openReconciliation (reconciliation : BankReconciliation) : BankTx (ℕ × ℕ) := do
  require (reconciliation.status ≠ .cancelled) (.badRequest "Rekonsiliasi sudah dibatalkan.")
  let statementId ← orThrow reconciliation.statementId
    (.badRequest "Rekonsiliasi belum memiliki statement/account bank lengkap.")
  let bankAccountId ← orThrow reconciliation.bankAccountId
    (.badRequest "Rekonsiliasi belum memiliki statement/account bank lengkap.")
  pure (statementId, bankAccountId)

/-- The loop over the statement lines that are not matched. -/
def autoMatchLines (businessDay : ℕ → ℕ × ℕ × ℕ) (journalLines : List (JournalLine × JournalEntry)) :
    List BankStatementLine → List ℕ → ℕ → BankTx ℕ
  | [], _, matched => pure matched
  | statementLine :: rest, usedJournalIds, matched =>
    match candidatesFor businessDay journalLines usedJournalIds statementLine with
    | [candidate] => do
      matchLine statementLine.id candidate.1.id
      autoMatchLines businessDay journalLines rest (candidate.1.id :: usedJournalIds) (matched + 1)
    | _ => autoMatchLines businessDay journalLines rest usedJournalIds matched

def BankDb.usedJournalIds (db : BankDb) (scope : TenantScope) : List ℕ :=
  (db.statementLines.findMany fun l => l.matched && l.matchedType = some "JournalLine" &&
    (db.statements.find? l.statementId).any fun s =>
      s.companyId = scope.companyId && s.branchId = some scope.branchId).filterMap
    BankStatementLine.matchedId

def autoMatchReconciliation (businessDay : ℕ → ℕ × ℕ × ℕ) (scope : TenantScope) (id : ℕ) :
    BankTx (BankReconciliation × ℕ) := do
  let reconciliation ← scopedReconciliation scope id
  let (statementId, bankAccountId) ← openReconciliation reconciliation
  assertBankAccount scope bankAccountId
  let db ← get
  let statementLines := db.statementLines.findSorted
    (fun l => l.statementId = statementId && reconciliation.inRange l.transactionDate && !l.matched)
    fun a b => a.transactionDate < b.transactionDate || a.transactionDate = b.transactionDate && a.id ≤ b.id
  let journalLines := (((db.accountLines bankAccountId).filter fun l =>
      reconciliation.inRange l.2.date).insertionSort
    fun a b => a.2.date < b.2.date ∨ a.2.date = b.2.date ∧ a.1.id ≤ b.1.id).take 2000
  let matched ← autoMatchLines businessDay journalLines statementLines (db.usedJournalIds scope) 0
  let refreshed ← refreshReconciliation scope reconciliation.id
  pure (refreshed, matched)

def findStatementLine (reconciliation : BankReconciliation) (statementId id : ℕ) :
    BankTx BankStatementLine := do
  let db ← get
  orThrow ((db.statementLines.find? id).filter fun l =>
      l.statementId = statementId && reconciliation.inRange l.transactionDate)
    (tenantAccessDenied "BankStatementLine")

def matchReconciliation (scope : TenantScope) (id statementLineId journalLineId : ℕ) :
    BankTx BankReconciliation := do
  let reconciliation ← scopedReconciliation scope id
  let (statementId, bankAccountId) ← openReconciliation reconciliation
  let statementLine ← findStatementLine reconciliation statementId statementLineId
  let db ← get
  let journalLine ← orThrow (((db.accountLines bankAccountId).find? fun l =>
      l.1.id = journalLineId && reconciliation.inRange l.2.date)) (tenantAccessDenied "JournalLine")
  require (bankLineMatchesJournalAmount statementLine journalLine.1 = true)
    (.badRequest "Nominal/direction bank statement tidak sama dengan journal line.")
  let used := db.statementLines.findMany fun l => l.matched && l.matchedType = some "JournalLine" &&
    l.matchedId = some journalLine.1.id && l.id ≠ statementLine.id
  require (used = []) (.badRequest "Journal line sudah dipakai oleh bank statement line lain.")
  matchLine statementLine.id journalLine.1.id
  refreshReconciliation scope reconciliation.id

def unmatchLine (scope : TenantScope) (reconciliation : BankReconciliation)
    (statementLine : BankStatementLine) : BankTx BankReconciliation :=
  if statementLine.matched = false then pure reconciliation else do
    let _ ← bankStatementLine.update statementLine.id
      (fun l => { l with matched := false, matchedType := none, matchedId := none }) .recordNotFound
    refreshReconciliation scope reconciliation.id

def unmatchReconciliation (scope : TenantScope) (id statementLineId : ℕ) : BankTx BankReconciliation := do
  let reconciliation ← scopedReconciliation scope id
  let statementId ← orThrow reconciliation.statementId
    (.badRequest "Rekonsiliasi tidak memiliki bank statement.")
  let statementLine ← findStatementLine reconciliation statementId statementLineId
  unmatchLine scope reconciliation statementLine

inductive BankCall
  | create (dto : CreateReconciliation)
  | autoMatch (id : ℕ)
  | matchLines (id statementLineId journalLineId : ℕ)
  | unmatch (id statementLineId : ℕ)

def BankCall.tx (newDate : String → Option ℕ) (businessDay : ℕ → ℕ × ℕ × ℕ) (scope : TenantScope) :
    BankCall → BankTx Unit
  | create dto => do let _ ← createReconciliation newDate scope dto
  | autoMatch id => do let _ ← autoMatchReconciliation businessDay scope id
  | matchLines id statementLineId journalLineId => do
    let _ ← matchReconciliation scope id statementLineId journalLineId
  | unmatch id statementLineId => do let _ ← unmatchReconciliation scope id statementLineId

end Mayatoko.Extensions
