import Mathlib.Data.String.Basic
import Mayatoko.Core.JsonText
import Mayatoko.Extensions.BankSchema
import Mayatoko.Extensions.Request

/-!
# The import of bank statements

A bank statement is known by its company, branch, source and file name. A request with a known name has to
agree with the stored statement, and returns it. The columns of amounts have two decimals. What `new Date`
makes of a text and how numbers are written depends on the host.
-/

namespace Mayatoko.Banking

open Core
open Transit (TenantScope)
open Extensions (Branch Account isDateOnly assertRequestedScope)

/-! ### Dates -/

/-- Whole cycles of the calendar that bring every date after the start of 1970. -/
def cycles : ℕ := 700

/-- An instant with the same place in its cycle of 400 years. -/
def later (instant : ℤ) : ℕ := (instant + cycles * (146097 * 86400000)).toNat

def isoYear (year : ℤ) : String :=
  if 0 ≤ year ∧ year ≤ 9999 then padStart (toString year) 4 '0'
  else (if year < 0 then "-" else "+") ++ padStart (toString year.natAbs) 6 '0'

/-- `toISOString`. An instant is a number of milliseconds since the start of 1970. -/
def isoText (instant : ℤ) : String :=
  let t := later instant
  let two n := padStart (toString n) 2 '0'
  isoYear (Common.getUTCFullYear t - 400 * cycles) ++ "-" ++ two (Common.getUTCMonth t + 1) ++ "-" ++
    two (Common.getUTCDate t) ++ "T" ++ two (t / 3600000 % 24) ++ ":" ++ two (t / 60000 % 60) ++ ":" ++
    two (t / 1000 % 60) ++ "." ++ padStart (toString (t % 1000)) 3 '0' ++ "Z"

example : isoText 1709164800123 = "2024-02-29T00:00:00.123Z" := by decide +kernel

example : isoText (-1) = "1969-12-31T23:59:59.999Z" := by decide +kernel

def invalidTime : Failure := .unexpected "Invalid time value"

structure Host where
  newDate : String → Option ℤ
  numbers : NumberText

variable (host : Host)

def boundaryDate (value : String) (endOfDay : Bool) : Except Failure ℤ :=
  match host.newDate (if isDateOnly value then
      value ++ "T" ++ (if endOfDay then "23:59:59.999" else "00:00:00.000") else value) with
  | some instant => pure instant
  | none => throw (.badRequest "Format tanggal tidak valid.")

/-! ### Requests -/

inductive OptionalNumber
  | undefined
  | null
  | value (x : ℚ)
  deriving DecidableEq

namespace OptionalNumber

def value? : OptionalNumber → Option ℚ
  | value x => some x
  | _ => none

def orZero (n : OptionalNumber) : ℚ := n.value?.getD 0

/-- `undefined`, or a new `Decimal`. -/
def decimal : OptionalNumber → Except Failure (Option ℚ)
  | undefined => pure none
  | null => throw (.unexpected "[DecimalError] Invalid argument: null")
  | value x => pure (some x)

end OptionalNumber

structure BankStatementLineDto where
  (transactionDate description : String)
  reference : Option String := none
  debit : OptionalNumber := .undefined
  credit : OptionalNumber := .undefined
  balance : OptionalNumber := .undefined
  raw : Option Json := none

structure ImportBankStatementDto where
  companyId : Option ℕ := none
  branchId : Option ℕ := none
  bankAccountId : ℕ
  (source fileName : String)
  periodStart : Option String := none
  periodEnd : Option String := none
  openingBalance : OptionalNumber := .undefined
  closingBalance : OptionalNumber := .undefined
  lines : List BankStatementLineDto

/-! ### Lines -/

structure Entry where
  transactionDate : Option ℤ
  description : String
  reference : Option String
  (debit credit : ℚ)
  balance : Option ℚ
  deriving DecidableEq

structure NormalizedLine extends Entry where
  raw : Option Json

def normalizeLine (line : BankStatementLineDto) : Except Failure NormalizedLine := do
  let debit := line.debit.orZero
  let credit := line.credit.orZero
  if debit < 0 ∨ credit < 0 then
    throw (.badRequest "Debit/credit bank statement tidak boleh negatif.")
  if debit = 0 ∧ credit = 0 ∨ debit ≠ 0 ∧ credit ≠ 0 then
    throw (.badRequest ("Setiap baris bank statement wajib memiliki tepat satu sisi debit atau credit yang " ++
      "bernilai positif."))
  let balance ← line.balance.decimal
  pure {
    transactionDate := host.newDate line.transactionDate
    description := trim line.description
    reference := (line.reference.map trim).filter (· ≠ "")
    debit := debit
    credit := credit
    balance := balance
    raw := line.raw }

/-- `<` of dates: an invalid one is neither before nor after another. -/
def isBefore : Option ℤ → Option ℤ → Bool
  | some a, some b => a < b
  | _, _ => false

def firstDate (lines : List NormalizedLine) : Option ℤ :=
  lines.foldl (fun min line => if isBefore line.transactionDate min then line.transactionDate else min)
    (lines.head?.bind fun line => line.transactionDate)

def lastDate (lines : List NormalizedLine) : Option ℤ :=
  lines.foldl (fun max line => if isBefore max line.transactionDate then line.transactionDate else max)
    (lines.head?.bind fun line => line.transactionDate)

def toISOString : Option ℤ → Except Failure String
  | some instant => pure (isoText instant)
  | none => throw invalidTime

def periodLimit (requested : Option String) (date : Option ℤ) (endOfDay : Bool) : Except Failure ℤ :=
  match requested.filter (· ≠ "") with
  | some value => boundaryDate host value endOfDay
  | none => do
    let text ← toISOString date
    boundaryDate host (String.ofList (text.toList.take 10)) endOfDay

structure Prepared where
  lines : List NormalizedLine
  (periodStart periodEnd : ℤ)

/-- The checks of a request that do not read the database. -/
def prepare (dto : ImportBankStatementDto) : Except Failure Prepared := do
  let lines ← dto.lines.mapM (normalizeLine host)
  let periodStart ← periodLimit host dto.periodStart (firstDate lines) false
  let periodEnd ← periodLimit host dto.periodEnd (lastDate lines) true
  if periodStart > periodEnd then
    throw (.badRequest "Periode bank statement tidak valid.")
  if lines.any fun line => isBefore line.transactionDate (some periodStart) ||
      isBefore (some periodEnd) line.transactionDate then
    throw (.badRequest "Ada baris bank statement di luar periodStart/periodEnd.")
  pure ⟨lines, periodStart, periodEnd⟩

def Prepared.datesValid (p : Prepared) : Bool := p.lines.all fun line => line.transactionDate.isSome

/-! ### Tables -/

structure BankStatement where
  (id companyId : ℕ)
  (branchId bankAccountId : Option ℕ)
  source : String
  fileName : Option String
  (periodStart periodEnd : Option ℤ)
  (openingBalance closingBalance : Option ℚ)

structure BankStatementLine where
  (id statementId : ℕ)
  transactionDate : ℤ
  description : String
  reference : Option String
  (debit credit : ℚ)
  balance : Option ℚ
  matched : Bool := false
  matchedType : Option String := none
  matchedId : Option ℕ := none
  raw : Option Json

structure StatementDb where
  nextId : ℕ
  branches : Table Branch.id
  accounts : Table Account.id
  statements : Table BankStatement.id
  lines : Table BankStatementLine.id

abbrev StatementTx := Tx StatementDb Failure

def BankStatementLine.entry (l : BankStatementLine) : Entry where
  transactionDate := some l.transactionDate
  description := l.description
  reference := l.reference
  debit := l.debit
  credit := l.credit
  balance := l.balance

def StatementDb.linesOf (db : StatementDb) (statementId : ℕ) : List BankStatementLine :=
  db.lines.findMany fun l => l.statementId = statementId

/-! ### The comparison with a stored statement -/

def key (e : Entry) : String :=
  e.transactionDate.elim "" isoText ++ "|" ++ trim e.description ++ "|" ++ e.reference.getD "" ++ "|" ++
    host.numbers.text e.debit ++ "|" ++ host.numbers.text e.credit ++ "|" ++
    e.balance.elim "" host.numbers.text

def sortedKeys (entries : List Entry) : List String :=
  (entries.map (key host)).insertionSort (· ≤ ·)

def sameBalance (stored : Option ℚ) (requested : OptionalNumber) : Bool :=
  match stored with
  | some x => x = requested.orZero
  | none => requested = .undefined

def sameHeader (existing : BankStatement) (lineCount : ℕ) (dto : ImportBankStatementDto) (p : Prepared) :
    Bool :=
  existing.bankAccountId = some dto.bankAccountId && existing.periodStart = some p.periodStart &&
    existing.periodEnd = some p.periodEnd && sameBalance existing.openingBalance dto.openingBalance &&
    sameBalance existing.closingBalance dto.closingBalance && lineCount = p.lines.length

/-- Some key is not the one at its place of the other list. -/
def someDiffers (existingKeys incomingKeys : List String) : Bool :=
  existingKeys.zipIdx.any fun k => incomingKeys[k.2]? ≠ some k.1

/-! ### The import -/

def StatementDb.bankAccount (db : StatementDb) (scope : TenantScope) (id : ℕ) : Option Account :=
  (db.accounts.find? id).filter fun a =>
    a.branchId = scope.branchId && a.type = .asset && a.isActive &&
      (db.branches.find? a.branchId).any fun b => b.companyId = scope.companyId

def assertBankAccount (scope : TenantScope) (id : ℕ) : StatementTx Unit := do
  let db ← get
  let _ ← orThrow (db.bankAccount scope id) (tenantAccessDenied "BankAccount")

def StatementDb.findStatement (db : StatementDb) (scope : TenantScope) (source fileName : String) :
    Option BankStatement :=
  db.statements.findFirst (fun s => s.companyId = scope.companyId && s.branchId = some scope.branchId &&
    s.source = source && s.fileName = some fileName) fun _ _ => true

def fits (x : ℚ) : Bool := |toDecimalPlaces x 2| < 10 ^ 16

def Entry.fits (e : Entry) : Bool := Banking.fits e.debit && Banking.fits e.credit && e.balance.all Banking.fits

def newStatement (scope : TenantScope) (dto : ImportBankStatementDto) (p : Prepared) (id : ℕ)
    (openingBalance closingBalance : Option ℚ) : BankStatement where
  id := id
  companyId := scope.companyId
  branchId := some scope.branchId
  bankAccountId := some dto.bankAccountId
  source := trim dto.source
  fileName := some (trim dto.fileName)
  periodStart := some p.periodStart
  periodEnd := some p.periodEnd
  openingBalance := openingBalance.map fun x => toDecimalPlaces x 2
  closingBalance := closingBalance.map fun x => toDecimalPlaces x 2

def newLine (statementId : ℕ) (line : NormalizedLine) (id : ℕ) : BankStatementLine where
  id := id
  statementId := statementId
  transactionDate := line.transactionDate.getD 0
  description := line.description
  reference := line.reference
  debit := toDecimalPlaces line.debit 2
  credit := toDecimalPlaces line.credit 2
  balance := line.balance.map fun x => toDecimalPlaces x 2
  raw := line.raw

/-- The rows of the lines of a statement, whose ids are counted from `id`. -/
def newLines (statementId id : ℕ) (lines : List NormalizedLine) : List BankStatementLine :=
  (lines.zipIdx id).map fun l => newLine statementId l.1 l.2

def createStatement (scope : TenantScope) (dto : ImportBankStatementDto) (p : Prepared) :
    StatementTx (BankStatement × List BankStatementLine) := do
  let openingBalance ← ofExcept dto.openingBalance.decimal
  let closingBalance ← ofExcept dto.closingBalance.decimal
  require p.datesValid
    (.unexpected "Invalid value for argument `transactionDate`: Provided Date object is invalid.")
  require (openingBalance.all fits ∧ closingBalance.all fits ∧ ∀ l ∈ p.lines, l.toEntry.fits)
    (.unexpected "numeric field overflow")
  let db ← get
  let statement := newStatement scope dto p db.nextId openingBalance closingBalance
  let rows := newLines db.nextId (db.nextId + 1) p.lines
  set { db with
    nextId := db.nextId + 1 + p.lines.length
    statements := db.statements.put statement
    lines := rows.foldl Table.put db.lines }
  pure (statement, rows)

def importBankStatement (scope : TenantScope) (dto : ImportBankStatementDto) :
    StatementTx (BankStatement × List BankStatementLine) := do
  assertRequestedScope scope.companyId scope.branchId dto.companyId dto.branchId "BankStatement"
  require (trim dto.fileName ≠ "")
    (.badRequest "Nama file bank statement wajib sebagai identitas idempoten.")
  require (dto.lines ≠ []) (.badRequest "Bank statement harus memiliki baris transaksi.")
  assertBankAccount scope dto.bankAccountId
  let p ← ofExcept (prepare host dto)
  let db ← get
  match db.findStatement scope dto.source dto.fileName with
  | some existing =>
    let lines := db.linesOf existing.id
    require p.datesValid invalidTime
    require (sameHeader existing lines.length dto p ∧ ¬ someDiffers
        (sortedKeys host (lines.map BankStatementLine.entry))
        (sortedKeys host (p.lines.map NormalizedLine.toEntry)))
      (.badRequest "Identitas file bank statement sudah pernah dipakai dengan payload berbeda.")
    pure (existing, lines)
  | none => createStatement scope dto p

end Mayatoko.Banking
