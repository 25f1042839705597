import Mayatoko.Accounting.Schema
import Mayatoko.Common.UtcDate
import Mayatoko.Core.Decimal
import Mayatoko.Core.Frame

/-!
# Posting of operational events

`postOperationalEvent` of `AccountingCoreService`. A call whose idempotency key is known returns the
event of that key. Otherwise the posting rule in force turns the amounts of the event into the lines
of a journal entry; both sides of the journal are compared before the amounts are stored in columns
with two decimals.
-/

namespace Mayatoko.Accounting

open Core Common

structure TaxLine where
  taxCodeId : ℕ
  direction : TaxDirection
  (taxableBase taxAmount : ℚ)

structure PostOperationalEventInput where
  (companyId branchId : ℕ)
  (eventType sourceType sourceId idempotencyKey : String)
  businessDate : Option ℕ := none
  amounts : List (String × ℚ)
  accountCodes : List (String × String) := []
  taxLines : List TaxLine := []

namespace PostOperationalEventInput

variable (input : PostOperationalEventInput)

def key : ℕ × String := (input.companyId, input.idempotencyKey)

/-- The amount of a key; a key that is not given counts as zero. -/
def amount (key : String) : ℚ := (input.amounts.lookup key).getD 0

/-- The first of the keys that is given. -/
def firstAmount (keys : List String) : Option ℚ :=
  keys.findSome? fun key => input.amounts.lookup key

def netAmount : ℚ :=
  (input.firstAmount
    ["net", "revenue", "inventory", "expense", "asset", "gain", "loss"]).getD 0

def taxAmount : ℚ := (input.firstAmount ["tax", "outputTax", "inputTax"]).getD 0

def grossAmount : ℚ :=
  (input.firstAmount ["gross", "cash", "bank", "payable", "receivable"]).getD
    (input.netAmount + input.taxAmount)

/-- The account code of a line; the empty text where there is none. -/
def accountCode (line : JournalRuleLine) : String :=
  if line.accountCodeKey ≠ "" then (input.accountCodes.lookup line.accountCodeKey).getD ""
  else line.accountCode

end PostOperationalEventInput

/-- Whether `date` lies between two bounds that may be open. -/
def inForce (effectiveFrom effectiveTo : Option ℕ) (date : ℕ) : Bool :=
  effectiveFrom.all (· ≤ date) && effectiveTo.all (date ≤ ·)

def allowedScopesByDirection : TaxDirection → List TaxScope
  | .output => [.sale, .shipping, .other]
  | .input => [.purchase, .expense, .asset, .shipping, .other]
  | .withholding => [.withholding, .payroll, .other]
  | .selfAssessed => [.purchase, .expense, .asset, .other]

def checkTaxLine (companyId businessDate : ℕ) (line : TaxLine) : AccountingTx Unit := do
  let db ← get
  let taxCode ← orThrow
    ((db.taxCodes.find? line.taxCodeId).filter fun t => t.companyId = companyId)
    (.badRequest "Tax code event tidak tersedia untuk company transaksi.")
  require (taxCode.status = "ACTIVE") (.badRequest s!"Tax code {taxCode.code} belum ACTIVE.")
  require (taxCode.effectiveFrom.all (· ≤ businessDate))
    (.badRequest s!"Tax code {taxCode.code} belum berlaku pada tanggal transaksi.")
  require (taxCode.effectiveTo.all (businessDate ≤ ·))
    (.badRequest s!"Tax code {taxCode.code} sudah tidak berlaku pada tanggal transaksi.")
  require (taxCode.scope ∈ allowedScopesByDirection line.direction) (.badRequest
    (s!"Tax code {taxCode.code} scope {taxCode.scope.text} tidak sesuai arah pajak " ++
      s!"{line.direction.text}."))

namespace AccountingDb

variable (db : AccountingDb)

def activeRule (companyId : ℕ) (eventType : String) (date : ℕ) : Option AccountingPostingRule :=
  db.postingRules.findFirst
    (fun r => r.companyId = companyId && r.eventType = eventType && r.status = .active &&
      inForce r.effectiveFrom r.effectiveTo date)
    (fun a b => a.priority < b.priority || a.priority = b.priority && b.version ≤ a.version)

/-- A close control that closes the posting of an event type on a date. Rows without a branch come
first. -/
def closeControlOn (companyId branchId : ℕ) (eventType : String) (date : ℕ) :
    Option AccountingCloseControl :=
  db.closeControls.findFirst
    (fun c => c.companyId = companyId && c.status = "CLOSED" && c.periodStart ≤ date &&
      date ≤ c.periodEnd && (c.module = "ACCOUNTING" || c.module = eventType) &&
      (c.branchId = some branchId || c.branchId = none))
    (fun a b => a.branchId.isNone && b.branchId.isSome ||
      a.branchId = b.branchId && b.periodEnd ≤ a.periodEnd)

def fiscalPeriodOn (companyId branchId date : ℕ) : Option FiscalPeriod :=
  db.fiscalPeriods.findFirst
    (fun p => p.companyId = companyId && p.branchId = some branchId && p.startDate ≤ date &&
      date ≤ p.endDate)
    (fun a b => b.startDate ≤ a.startDate)

def activeAccount (branchId : ℕ) (code : String) : Option Account :=
  (db.accounts.find? (branchId, code)).filter Account.isActive

end AccountingDb

namespace AccountingPostingRule

variable (rule : AccountingPostingRule) (input : PostOperationalEventInput)

def usable : List JournalRuleLine :=
  rule.journalLines.filter fun line => !line.skipIfZero || input.amount line.amountKey ≠ 0

/-- The sum of the amounts of the lines whose side meets `p`. -/
def total (p : String → Bool) : ℚ :=
  ((rule.usable input).map fun line => if p line.side then input.amount line.amountKey else 0).sum

/-- Every line that is not a debit counts as a credit. -/
def debitTotal : ℚ := rule.total input (· = "DEBIT")

def creditTotal : ℚ := rule.total input (· ≠ "DEBIT")

end AccountingPostingRule

def storedLine (accountId : ℕ) (side : String) (amount : ℚ) : JournalLine where
  accountId := accountId
  debit := if side = "DEBIT" then toDecimalPlaces amount 2 else 0
  credit := if side = "CREDIT" then toDecimalPlaces amount 2 else 0

def AccountingPostingRule.journal (rule : AccountingPostingRule)
    (input : PostOperationalEventInput) (accounts : Table Account.key) : List JournalLine :=
  (rule.usable input).map fun line =>
    storedLine (((accounts.find? (input.branchId, input.accountCode line)).elim 0 Account.id))
      line.side (input.amount line.amountKey)

def checkPeriod (input : PostOperationalEventInput) (businessDate : ℕ) : AccountingTx Unit := do
  let db ← get
  refuse (db.closeControlOn input.companyId input.branchId input.eventType businessDate)
    fun c => .badRequest (s!"Accounting close control {c.module} menutup posting pada periode " ++
      s!"{isoDate c.periodStart} sampai {isoDate c.periodEnd}.")
  refuse ((db.fiscalPeriodOn input.companyId input.branchId businessDate).filter
      fun p => p.status ≠ .opened)
    fun p => .badRequest (s!"Periode fiskal berstatus {p.status.text}; posting jurnal ke periode " ++
      "ini tidak diizinkan.")

def checkJournal (input : PostOperationalEventInput) (rule : AccountingPostingRule) :
    AccountingTx Unit := do
  let db ← get
  let usable := rule.usable input
  require (usable ≠ []) (.badRequest s!"Aturan {rule.code} tidak menghasilkan jurnal.")
  refuse (usable.find? fun line => input.accountCode line = "")
    fun line => .badRequest s!"Account code untuk baris {line.amountKey} belum dikonfigurasi."
  let codes := (usable.map input.accountCode).eraseDups
  let missing := codes.filter fun code => (db.activeAccount input.branchId code).isNone
  let codes := ", ".intercalate missing
  require (missing = []) (.badRequest s!"Akun belum dikonfigurasi: {codes}.")
  refuse (usable.find? fun line => input.amount line.amountKey < 0)
    fun line => .badRequest s!"Nilai {line.amountKey} tidak boleh negatif."
  require (rule.debitTotal input = rule.creditTotal input) (.badRequest
    (s!"Jurnal {rule.code} tidak seimbang. Debit {toFixed2 (rule.debitTotal input)}, kredit " ++
      s!"{toFixed2 (rule.creditTotal input)}."))

def newEvent (input : PostOperationalEventInput) (businessDate : ℕ) : AccountingEvent where
  companyId := input.companyId
  branchId := input.branchId
  eventType := input.eventType
  sourceType := input.sourceType
  sourceId := input.sourceId
  idempotencyKey := input.idempotencyKey
  businessDate := businessDate
  netAmount := toDecimalPlaces input.netAmount 2
  taxAmount := toDecimalPlaces input.taxAmount 2
  grossAmount := toDecimalPlaces input.grossAmount 2
  status := .validated

def taxTransactionOf (input : PostOperationalEventInput) (businessDate : ℕ) (line : TaxLine) :
    TaxTransaction where
  companyId := input.companyId
  branchId := input.branchId
  sourceType := input.sourceType
  sourceId := input.sourceId
  taxCodeId := line.taxCodeId
  direction := line.direction
  transactionDate := businessDate
  taxableBase := toDecimalPlaces line.taxableBase 2
  taxAmount := toDecimalPlaces line.taxAmount 2
  status := .posted

def writeJournal (input : PostOperationalEventInput) (businessDate : ℕ)
    (rule : AccountingPostingRule) : AccountingTx AccountingEvent := do
  let db ← get
  let entry : JournalEntry := {
    id := db.nextId
    date := businessDate
    referenceType := input.sourceType
    referenceId := input.sourceId
    lines := rule.journal input db.accounts }
  AccountingDb.journalEntry.create entry .uniqueViolation
  modify fun db => { db with
    nextId := db.nextId + 1
    taxTransactions := db.taxTransactions ++ input.taxLines.map (taxTransactionOf input businessDate)
    postings := db.postings ++ [⟨input.key, rule.id, entry.id⟩] }
  AccountingDb.accountingEvent.update input.key
    (fun e => { e with status := .posted, journalEntryId := some entry.id }) .recordNotFound

def postNewEvent (input : PostOperationalEventInput) : AccountingTx AccountingEvent := do
  let db ← get
  let businessDate := input.businessDate.getD db.now
  input.taxLines.forM (checkTaxLine input.companyId businessDate)
  let rule ← orThrow (db.activeRule input.companyId input.eventType businessDate) (.badRequest
    s!"Accounting posting rule ACTIVE untuk {input.eventType} belum dikonfigurasi.")
  checkPeriod input businessDate
  AccountingDb.accountingEvent.create (newEvent input businessDate) .uniqueViolation
  checkJournal input rule
  writeJournal input businessDate rule

def AccountingEvent.sameIdentity (existing : AccountingEvent)
    (input : PostOperationalEventInput) : Bool :=
  existing.branchId = input.branchId && existing.eventType = input.eventType &&
    existing.sourceType = input.sourceType && existing.sourceId = input.sourceId

def postOperationalEvent (input : PostOperationalEventInput) : AccountingTx AccountingEvent := do
  let db ← get
  match db.events.find? input.key with
  | some existing => do
    require (existing.sameIdentity input) (.badRequest
      "Idempotency key sudah digunakan untuk event atau branch yang berbeda.")
    pure existing
  | none => postNewEvent input

/-! ### What a call does -/

variable {db db' : AccountingDb} {input : PostOperationalEventInput} {ev : AccountingEvent}

/-- The event row after a posting whose journal entry is `entryId`. -/
def postedEvent (input : PostOperationalEventInput) (businessDate entryId : ℕ) : AccountingEvent :=
  { newEvent input businessDate with status := .posted, journalEntryId := some entryId }

def entryOf (input : PostOperationalEventInput) (db : AccountingDb)
    (rule : AccountingPostingRule) : JournalEntry where
  id := db.nextId
  date := input.businessDate.getD db.now
  referenceType := input.sourceType
  referenceId := input.sourceId
  lines := rule.journal input db.accounts

/-- A new event was posted under `rule`. -/
structure Posted (input : PostOperationalEventInput) (db : AccountingDb)
    (rule : AccountingPostingRule) (ev : AccountingEvent) (db' : AccountingDb) : Prop where
  rule_eq : db.activeRule input.companyId input.eventType (input.businessDate.getD db.now) = some rule
  period : ∀ p, db.fiscalPeriodOn input.companyId input.branchId
    (input.businessDate.getD db.now) = some p → p.status = .opened
  unlocked : db.closeControlOn input.companyId input.branchId input.eventType
    (input.businessDate.getD db.now) = none
  nonneg : ∀ line ∈ rule.usable input, 0 ≤ input.amount line.amountKey
  balanced : rule.debitTotal input = rule.creditTotal input
  freshEvent : db.events.find? input.key = none
  freshEntry : db.journalEntries.find? db.nextId = none
  event : ev = postedEvent input (input.businessDate.getD db.now) db.nextId
  events : db'.events = db.events.put ev
  entries : db'.journalEntries = db.journalEntries.put (entryOf input db rule)
  nextId : db'.nextId = db.nextId + 1

lemma Posted.key_eq {rule : AccountingPostingRule} (h : Posted input db rule ev db') : ev.key = input.key := by
  rw [h.event]
  rfl

lemma Posted.sum_events {M : Type*} [AddCommMonoid M] {rule : AccountingPostingRule}
    (h : Posted input db rule ev db') (f : AccountingEvent → M) :
    db'.events.sum f = db.events.sum f + f ev := by
  rw [h.events, Table.sum_put_of_not_mem]
  intro x hx hkey
  exact find?_eq_none.mp h.freshEvent x hx (hkey.trans h.key_eq)

lemma sameIdentity_iff : ev.sameIdentity input = true ↔ ev.branchId = input.branchId ∧
    ev.eventType = input.eventType ∧ ev.sourceType = input.sourceType ∧
      ev.sourceId = input.sourceId := by
  simp [AccountingEvent.sameIdentity, and_assoc]

lemma checkTaxLine_state {companyId businessDate : ℕ} {lines : List TaxLine} {u : Unit}
    (h : Commits (lines.forM (checkTaxLine companyId businessDate)) db u db') : db = db' := by
  refine (Leaves.forM (f := id) (fun line => ?_) db u db' h).symm
  exact leaves_get.bind fun _ => leaves_orThrow.bind fun _ => leaves_require.bind fun _ =>
    leaves_require.bind fun _ => leaves_require.bind fun _ => leaves_require

lemma checkPeriod_commits {businessDate : ℕ} {u : Unit} : Commits (checkPeriod input businessDate) db u db' ↔
      db.closeControlOn input.companyId input.branchId input.eventType businessDate = none ∧
        (∀ p, db.fiscalPeriodOn input.companyId input.branchId businessDate = some p →
          p.status = .opened) ∧ db = db' := by
  simp only [checkPeriod, commits_bind, commits_get, commits_refuse, Option.filter_eq_none_iff]
  constructor
  · rintro ⟨_, _, ⟨rfl, rfl⟩, _, _, ⟨hclose, rfl⟩, hperiod, rfl⟩
    refine ⟨hclose, fun p hp => ?_, rfl⟩
    simpa using hperiod p hp
  · rintro ⟨hclose, hperiod, rfl⟩
    exact ⟨db, db, ⟨rfl, rfl⟩, (), db, ⟨hclose, rfl⟩, fun p hp => by simp [hperiod p hp], rfl⟩

lemma checkJournal_commits {rule : AccountingPostingRule} {u : Unit}
    (h : Commits (checkJournal input rule) db u db') :
    (∀ line ∈ rule.usable input, 0 ≤ input.amount line.amountKey) ∧
      rule.debitTotal input = rule.creditTotal input ∧ db = db' := by
  simp only [checkJournal, commits_steps, List.find?_eq_none, decide_eq_true_eq, not_lt] at h
  obtain ⟨_, _, _, hneg, hbal, rfl⟩ := h
  exact ⟨hneg, hbal, rfl⟩

/-- A call returns the event of its key, or posts it. -/
lemma postOperationalEvent_commits (h : Commits (postOperationalEvent input) db ev db') :
    db.events.find? input.key = some ev ∧ ev.sameIdentity input = true ∧ db' = db ∨
      ∃ rule, Posted input db rule ev db' := by
  simp only [postOperationalEvent, commits_bind, commits_get] at h
  obtain ⟨_, _, ⟨rfl, rfl⟩, h⟩ := h
  cases hfind : db.events.find? input.key with
  | some existing =>
    simp only [hfind, commits_bind, commits_require, commits_pure] at h
    obtain ⟨_, _, ⟨hsame, rfl⟩, rfl, rfl⟩ := h
    exact .inl ⟨rfl, hsame, rfl⟩
  | none =>
    simp only [hfind, postNewEvent, commits_bind, commits_get, commits_orThrow, TableOf.commits_create] at h
    obtain ⟨_, _, ⟨rfl, rfl⟩, _, _, htax, rule, _, ⟨hrule, rfl⟩, _, _, hperiod, _, _, ⟨hfresh, rfl⟩,
      _, _, hjournal, hwrite⟩ := h
    obtain rfl := checkTaxLine_state htax
    obtain ⟨hclose, hopen, rfl⟩ := checkPeriod_commits.mp hperiod
    obtain ⟨hneg, hbal, rfl⟩ := checkJournal_commits hjournal
    simp only [writeJournal, commits_bind, commits_get, TableOf.commits_create, commits_modify,
      TableOf.commits_update] at hwrite
    obtain ⟨_, _, ⟨rfl, rfl⟩, _, _, ⟨hentry, rfl⟩, _, _, rfl, e, he, rfl, rfl⟩ := hwrite
    have hevent : e = newEvent input (input.businessDate.getD db.now) := by
      have hself := find?_put_self db.events (newEvent input (input.businessDate.getD db.now))
      exact mem_unique he hself
    subst hevent
    refine .inr ⟨rule, hrule, hopen, hclose, hneg, hbal, hfind, hentry, rfl, ?_, rfl, rfl⟩
    exact Table.put_put _ rfl

end Mayatoko.Accounting
