import Mayatoko.Finance.Schema

/-!
# The tables of bank reconciliations

Bank statements with their lines, the reconciliations of a statement, and the journal lines that the lines
of a statement are matched with. Sources, file names and raw lines of statements, and who completed a
reconciliation, are left out.
-/

namespace Mayatoko.Extensions

open Core

structure Branch where
  (id companyId : ℕ)

structure Account where
  (id branchId : ℕ)
  type : Finance.AccountType
  isActive : Bool := true

structure JournalEntry where
  id : ℕ
  number : String
  date : ℕ
  (referenceId description : String)
  deriving DecidableEq

structure JournalLine where
  (id journalEntryId accountId : ℕ)
  debit : ℚ := 0
  credit : ℚ := 0
  deriving DecidableEq

structure BankStatement where
  (id companyId : ℕ)
  (branchId bankAccountId : Option ℕ)
  periodStart : Option ℕ := none
  periodEnd : Option ℕ := none
  openingBalance : Option ℚ := none
  closingBalance : Option ℚ := none
  deriving DecidableEq

structure BankStatementLine where
  (id statementId transactionDate : ℕ)
  reference : Option String := none
  debit : ℚ := 0
  credit : ℚ := 0
  balance : Option ℚ := none
  matched : Bool := false
  matchedType : Option String := none
  matchedId : Option ℕ := none
  deriving DecidableEq

inductive ReconciliationStatus
  | draft
  | inProgress
  | completed
  | cancelled
  deriving DecidableEq

structure BankReconciliation where
  (id companyId : ℕ)
  (branchId bankAccountId statementId : Option ℕ)
  status : ReconciliationStatus := .draft
  (startDate endDate : ℕ)
  (bookBalance bankBalance difference : ℚ)
  matchedCount : ℕ := 0
  deriving DecidableEq

structure BankDb where
  nextId : ℕ
  branches : Table Branch.id
  accounts : Table Account.id
  journalEntries : Table JournalEntry.id
  journalLines : Table JournalLine.id
  statements : Table BankStatement.id
  statementLines : Table BankStatementLine.id
  reconciliations : Table BankReconciliation.id

abbrev BankTx := Tx BankDb Failure

namespace BankDb

def bankStatementLine : TableOf BankDb BankStatementLine.id :=
  ⟨BankDb.statementLines, fun db t => { db with statementLines := t }⟩

def bankReconciliation : TableOf BankDb BankReconciliation.id :=
  ⟨BankDb.reconciliations, fun db t => { db with reconciliations := t }⟩

variable (db : BankDb)

@[simp] lemma bankStatementLine_write (r : BankStatementLine) :
    bankStatementLine.write db r = { db with statementLines := db.statementLines.put r } := rfl

@[simp] lemma bankReconciliation_write (r : BankReconciliation) :
    bankReconciliation.write db r = { db with reconciliations := db.reconciliations.put r } := rfl

end BankDb

end Mayatoko.Extensions
