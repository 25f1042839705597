import Mayatoko.Banking.Statements
import Mayatoko.Core.CalendarDate

/-!
# Daily summaries

What a branch sold on a day, for each channel, and what was posted on its accounts, stored in two tables that can
be built again from the sales and the journal lines. A day that is requested is read as a midnight of the server
and then cut to its day in UTC. The two agree where the clock of the server is not ahead of UTC, and outside of the
years 0 to 99, which stand for those of the twentieth century where a day is put together.

The columns of the summaries have as many decimals as those of the sales and the lines. Who the users are, the
dates of the rows themselves and the numbers and texts of documents are left out.
-/

namespace Mayatoko.Analytics

open Core
open Transit (TenantScope)
open Extensions (isDateOnly)

/-! ### Tables -/

inductive SaleChannel
  | pos
  | online

def SaleChannel.name : SaleChannel → String
  | pos => "POS"
  | online => "ONLINE"

inductive SaleStatus
  | draft
  | completed
  | cancelled
  | refunded
  deriving DecidableEq

structure Branch where
  (id companyId : ℕ)

structure Sale where
  (id branchId : ℕ)
  channel : SaleChannel
  status : SaleStatus
  subtotal : ℚ
  discount : ℚ := 0
  tax : ℚ := 0
  (total costTotal : ℚ)
  createdAt : ℤ
  items : List ℤ

structure Account where
  (id branchId : ℕ)

structure JournalEntry where
  id : ℕ
  date : ℤ

structure JournalLine where
  (id journalEntryId accountId : ℕ)
  debit : ℚ := 0
  credit : ℚ := 0

@[ext]
structure SalesTotals where
  (transactionCount itemQuantity : ℤ)
  (grossSales discount tax netSales cogs : ℚ)

namespace SalesTotals

instance : Zero SalesTotals := ⟨⟨0, 0, 0, 0, 0, 0, 0⟩⟩

instance : Add SalesTotals := ⟨fun a b =>
  ⟨a.transactionCount + b.transactionCount, a.itemQuantity + b.itemQuantity, a.grossSales + b.grossSales,
    a.discount + b.discount, a.tax + b.tax, a.netSales + b.netSales, a.cogs + b.cogs⟩⟩

instance : AddCommMonoid SalesTotals where
  add_assoc a b c := SalesTotals.ext (add_assoc _ _ _) (add_assoc _ _ _) (add_assoc _ _ _) (add_assoc _ _ _)
    (add_assoc _ _ _) (add_assoc _ _ _) (add_assoc _ _ _)
  zero_add a := SalesTotals.ext (zero_add _) (zero_add _) (zero_add _) (zero_add _) (zero_add _) (zero_add _)
    (zero_add _)
  add_zero a := SalesTotals.ext (add_zero _) (add_zero _) (add_zero _) (add_zero _) (add_zero _) (add_zero _)
    (add_zero _)
  add_comm a b := SalesTotals.ext (add_comm _ _) (add_comm _ _) (add_comm _ _) (add_comm _ _) (add_comm _ _)
    (add_comm _ _) (add_comm _ _)
  nsmul := nsmulRec

end SalesTotals

structure DailySalesSummary extends SalesTotals where
  (companyId branchId : ℕ)
  businessDate : ℤ
  channel : String
  grossProfit : ℚ

structure DailyFinanceSummary where
  (companyId branchId : ℕ)
  businessDate : ℤ
  accountId : ℕ
  (debit credit balance : ℚ)

def DailySalesSummary.key (row : DailySalesSummary) : ℕ × ℤ × String :=
  (row.branchId, row.businessDate, row.channel)

def DailyFinanceSummary.key (row : DailyFinanceSummary) : ℕ × ℤ × ℕ :=
  (row.branchId, row.businessDate, row.accountId)

structure SummaryAudit where
  (companyId userId : ℕ)
  (action entityType entityId : String)
  (branchId salesChannels financeAccounts : ℕ)

structure SourceDb where
  branches : Table Branch.id := .empty
  accounts : Table Account.id := .empty
  sales : Table Sale.id := .empty
  journalEntries : Table JournalEntry.id := .empty
  journalLines : Table JournalLine.id := .empty

structure SummaryDb extends SourceDb where
  dailySales : Table DailySalesSummary.key := .empty
  dailyFinance : Table DailyFinanceSummary.key := .empty
  auditLogs : List SummaryAudit := []

namespace SummaryDb

def dailySalesSummary : TableOf SummaryDb DailySalesSummary.key where
  table := dailySales
  setTable db t := { db with dailySales := t }

def dailyFinanceSummary : TableOf SummaryDb DailyFinanceSummary.key where
  table := dailyFinance
  setTable db t := { db with dailyFinance := t }

end SummaryDb

abbrev SummaryTx := Tx SummaryDb Failure

/-! ### Building the summaries of a day -/

/-- What the service takes from its host: the clock, the time zone and the reading of texts that are no days. -/
structure Host where
  zone : TimeZone
  now : ℤ
  newDate : String → Option ℤ

structure MaterializeDailySummariesDto where
  businessDate : Option String := none

structure Materialized where
  businessDate : String
  (salesChannels financeAccounts sourceSales sourceJournalLines : ℕ)

variable (host : Host)

def boundaryDate (value : String) (endOfDay : Bool) : SummaryTx ℤ :=
  orThrow (if isDateOnly value then (localTime value endOfDay).map host.zone.instant else host.newDate value)
    (.badRequest "Format tanggal tidak valid.")

def requestedTime (dto : MaterializeDailySummariesDto) : SummaryTx ℤ :=
  match dto.businessDate.filter (· ≠ "") with
  | some value => boundaryDate host value false
  | none => pure host.now

def businessDateOf (requested : ℤ) : ℤ :=
  dateUTC (yearFromTime requested) (monthFromTime requested) (dateFromTime requested)

namespace SourceDb

def salesAt (src : SourceDb) (scope : TenantScope) (times : ℤ → Bool) : List Sale :=
  src.sales.findMany fun sale => sale.branchId = scope.branchId &&
    (src.branches.find? sale.branchId).any (fun branch => branch.companyId = scope.companyId) &&
    sale.status = .completed && times sale.createdAt

def linesAt (src : SourceDb) (scope : TenantScope) (times : ℤ → Bool) : List JournalLine :=
  src.journalLines.findMany fun line =>
    (src.accounts.find? line.accountId).any (fun account => account.branchId = scope.branchId) &&
    (src.journalEntries.find? line.journalEntryId).any fun entry => times entry.date

end SourceDb

def Sale.totals (sale : Sale) : SalesTotals where
  transactionCount := 1
  itemQuantity := sale.items.sum
  grossSales := sale.subtotal
  discount := sale.discount
  tax := sale.tax
  netSales := sale.total - sale.tax
  cogs := sale.costTotal

def JournalLine.amounts (line : JournalLine) : ℚ × ℚ := (line.debit, line.credit)

def salesRow (scope : TenantScope) (businessDate : ℤ) (entry : String × SalesTotals) : DailySalesSummary :=
  { entry.2 with
    companyId := scope.companyId
    branchId := scope.branchId
    businessDate
    channel := entry.1
    grossProfit := entry.2.netSales - entry.2.cogs }

def financeRow (scope : TenantScope) (businessDate : ℤ) (entry : ℕ × ℚ × ℚ) : DailyFinanceSummary where
  companyId := scope.companyId
  branchId := scope.branchId
  businessDate := businessDate
  accountId := entry.1
  debit := entry.2.1
  credit := entry.2.2
  balance := entry.2.1 - entry.2.2

def audit (userId : ℕ) (scope : TenantScope) (businessDate : ℤ) (salesChannels financeAccounts : ℕ) :
    SummaryTx Unit :=
  modify fun db => { db with auditLogs := db.auditLogs ++ [{
    companyId := scope.companyId
    userId
    action := "MATERIALIZE_DAILY_SUMMARIES"
    entityType := "DailySummary"
    entityId := String.ofList ((Banking.isoText businessDate).toList.take 10)
    branchId := scope.branchId
    salesChannels
    financeAccounts }] }

def materializeDailySummaries (dto : MaterializeDailySummariesDto) (userId : ℕ) (scope : TenantScope) :
    SummaryTx Materialized := do
  let requested ← requestedTime host dto
  let businessDate := businessDateOf requested
  let nextDate := businessDate + 86400000
  let db ← get
  let sales := db.salesAt scope fun t => businessDate ≤ t ∧ t < nextDate
  let journalLines := db.linesAt scope fun t => businessDate ≤ t ∧ t < nextDate
  let salesByChannel := tally (fun sale : Sale => sale.channel.name) Sale.totals sales
  let financeByAccount := tally JournalLine.accountId JournalLine.amounts journalLines
  SummaryDb.dailySalesSummary.deleteMany fun row => row.companyId = scope.companyId ∧
    row.branchId = scope.branchId ∧ row.businessDate = businessDate
  SummaryDb.dailyFinanceSummary.deleteMany fun row => row.companyId = scope.companyId ∧
    row.branchId = scope.branchId ∧ row.businessDate = businessDate
  (salesByChannel.rows.map (salesRow scope businessDate)).forM fun row =>
    SummaryDb.dailySalesSummary.create row .uniqueViolation
  (financeByAccount.rows.map (financeRow scope businessDate)).forM fun row =>
    SummaryDb.dailyFinanceSummary.create row .uniqueViolation
  audit userId scope businessDate salesByChannel.rows.length financeByAccount.rows.length
  pure {
    businessDate := Banking.isoText businessDate
    salesChannels := salesByChannel.rows.length
    financeAccounts := financeByAccount.rows.length
    sourceSales := sales.length
    sourceJournalLines := journalLines.length }

end Mayatoko.Analytics
