import Mathlib.Data.Rat.Defs
import Mayatoko.Common.Failure
import Mayatoko.Core.Store

/-!
# The accounting tables

The rows of the Prisma schema that the posting of operational events reads and writes. Instants are
milliseconds. The lines of a journal entry are stored with the entry; document numbers, the lines of
an event and its context are left out.
-/

namespace Mayatoko.Accounting

open Core

/-- A line of a posting rule. The request validation only asks for a text as the side; an account
code or a key of one that is not given is the empty text. -/
structure JournalRuleLine where
  accountCode : String := ""
  accountCodeKey : String := ""
  (side amountKey : String)
  skipIfZero : Bool := true
  deriving DecidableEq

inductive AccountingRuleStatus
  | draft
  | active
  | inactive
  deriving DecidableEq

structure AccountingPostingRule where
  (id companyId : ℕ)
  code : String
  version : ℤ := 1
  eventType : String
  priority : ℤ := 100
  status : AccountingRuleStatus := .draft
  effectiveFrom : Option ℕ := none
  effectiveTo : Option ℕ := none
  journalLines : List JournalRuleLine
  deriving DecidableEq

structure AccountingCloseControl where
  (id companyId : ℕ)
  branchId : Option ℕ
  module : String
  (periodStart periodEnd : ℕ)
  status : String := "OPEN"

inductive FiscalPeriodStatus
  | opened
  | softClosed
  | closed
  deriving DecidableEq

def FiscalPeriodStatus.text : FiscalPeriodStatus → String
  | opened => "OPEN"
  | softClosed => "SOFT_CLOSED"
  | closed => "CLOSED"

structure FiscalPeriod where
  (id companyId : ℕ)
  branchId : Option ℕ
  name : String
  (startDate endDate : ℕ)
  status : FiscalPeriodStatus := .opened
  deriving DecidableEq

inductive TaxScope
  | sale
  | purchase
  | expense
  | asset
  | payroll
  | shipping
  | withholding
  | other
  deriving DecidableEq

def TaxScope.text : TaxScope → String
  | sale => "SALE"
  | purchase => "PURCHASE"
  | expense => "EXPENSE"
  | asset => "ASSET"
  | payroll => "PAYROLL"
  | shipping => "SHIPPING"
  | withholding => "WITHHOLDING"
  | other => "OTHER"

structure TaxCode where
  (id companyId : ℕ)
  code : String
  scope : TaxScope
  rate : ℚ := 0
  inclusive : Bool := false
  effectiveFrom : Option ℕ := none
  effectiveTo : Option ℕ := none
  status : String := "DRAFT"

inductive TaxDirection
  | input
  | output
  | withholding
  | selfAssessed

def TaxDirection.text : TaxDirection → String
  | input => "INPUT"
  | output => "OUTPUT"
  | withholding => "WITHHOLDING"
  | selfAssessed => "SELF_ASSESSED"

structure Account where
  (id branchId : ℕ)
  code : String
  isActive : Bool := true

structure JournalLine where
  accountId : ℕ
  (debit credit : ℚ)
  deriving DecidableEq

structure JournalEntry where
  (id date : ℕ)
  (referenceType referenceId : String)
  lines : List JournalLine
  deriving DecidableEq

inductive AccountingEventStatus
  | pending
  | validated
  | posted
  | failed
  | reversed
  | cancelled
  deriving DecidableEq

structure AccountingEvent where
  (companyId branchId : ℕ)
  (eventType sourceType sourceId idempotencyKey : String)
  businessDate : ℕ
  netAmount : ℚ := 0
  taxAmount : ℚ := 0
  grossAmount : ℚ := 0
  status : AccountingEventStatus := .pending
  journalEntryId : Option ℕ := none
  deriving DecidableEq

structure AccountingPosting where
  event : ℕ × String
  (ruleId journalEntryId : ℕ)

inductive TaxTransactionStatus
  | calculated
  | posted
  | reversed
  | cancelled
  deriving DecidableEq

structure TaxTransaction where
  (companyId branchId : ℕ)
  (sourceType sourceId : String)
  taxCodeId : ℕ
  direction : TaxDirection
  transactionDate : ℕ
  (taxableBase taxAmount : ℚ)
  status : TaxTransactionStatus := .calculated

def AccountingEvent.key (e : AccountingEvent) : ℕ × String := (e.companyId, e.idempotencyKey)

def Account.key (a : Account) : ℕ × String := (a.branchId, a.code)

structure AccountingDb where
  (now nextId : ℕ)
  postingRules : Table AccountingPostingRule.id
  closeControls : Table AccountingCloseControl.id
  fiscalPeriods : Table FiscalPeriod.id
  taxCodes : Table TaxCode.id
  accounts : Table Account.key
  events : Table AccountingEvent.key
  journalEntries : Table JournalEntry.id
  postings : List AccountingPosting
  taxTransactions : List TaxTransaction

namespace AccountingDb

def empty : AccountingDb where
  now := 0
  nextId := 0
  postingRules := .empty
  closeControls := .empty
  fiscalPeriods := .empty
  taxCodes := .empty
  accounts := .empty
  events := .empty
  journalEntries := .empty
  postings := []
  taxTransactions := []

def accountingEvent : TableOf AccountingDb AccountingEvent.key :=
  ⟨AccountingDb.events, fun db t => { db with events := t }⟩

def journalEntry : TableOf AccountingDb JournalEntry.id :=
  ⟨AccountingDb.journalEntries, fun db t => { db with journalEntries := t }⟩

variable (db : AccountingDb)

@[simp] lemma accountingEvent_write (r : AccountingEvent) :
    accountingEvent.write db r = { db with events := db.events.put r } := rfl

@[simp] lemma journalEntry_write (r : JournalEntry) :
    journalEntry.write db r = { db with journalEntries := db.journalEntries.put r } := rfl

end AccountingDb

abbrev AccountingTx := Tx AccountingDb Failure

end Mayatoko.Accounting
