import Mayatoko.Accounting.OperationalEvent
import Mayatoko.Core.Part

/-!
# Posting rules

`createPostingRule` and `updatePostingRuleStatus` of `AccountingCoreService`. A rule is written under its code and
version while it is a draft; an active rule may not overlap with another one of its event type and priority. What
`new Date` and `toUpperCase` make of a text are parameters. A text that is no date is refused where it is read;
the source refuses it with the first query or write that it reaches. Names, conditions, tax behaviour and
dimensions of a rule are left out.
-/

namespace Mayatoko.Accounting

open Core

structure RuleBranch where
  (id companyId : ℕ)

structure RuleDb where
  branches : Table RuleBranch.id
  ledger : AccountingDb

abbrev RuleTx := Tx RuleDb Failure

namespace RuleDb

def rules (db : RuleDb) : Table AccountingPostingRule.id := db.ledger.postingRules

def postingRule : TableOf RuleDb AccountingPostingRule.id :=
  ⟨RuleDb.rules, fun db t => { db with ledger := { db.ledger with postingRules := t } }⟩

end RuleDb

/-! ### Definitions of rules -/

structure RuleDefinition where
  eventType : String
  priority : Option ℤ := none
  status : Option String := none
  effectiveFrom : Option ℕ := none
  effectiveTo : Option ℕ := none
  journalLines : List JournalRuleLine

def JournalRuleLine.hasLiteral (line : JournalRuleLine) : Bool := trim line.accountCode ≠ ""

def JournalRuleLine.hasKey (line : JournalRuleLine) : Bool := trim line.accountCodeKey ≠ ""

def checkRuleLine (line : JournalRuleLine) : RuleTx Unit := do
  require (line.hasLiteral ≠ line.hasKey) (.badRequest
    "Setiap baris posting rule harus memakai tepat satu accountCode atau accountCodeKey.")
  require (trim line.amountKey ≠ "") (.badRequest "amountKey posting rule wajib diisi.")

def RuleDb.hasAccount (db : RuleDb) (companyId branchId : ℕ) (code : String) : Bool :=
  (db.ledger.activeAccount branchId code).isSome &&
    (db.branches.find? branchId).any fun b => b.companyId = companyId

def checkLiteralCodes (toUpperCase : String → String) (companyId branchId : ℕ)
    (lines : List JournalRuleLine) : RuleTx Unit := do
  let literalCodes := ((lines.filter JournalRuleLine.hasLiteral).map fun line =>
    toUpperCase (trim line.accountCode)).eraseDups
  let db ← get
  let missing := literalCodes.filter fun code => !db.hasAccount companyId branchId code
  let codes := ", ".intercalate missing
  require (missing = [])
    (.badRequest s!"Akun posting rule belum aktif/tersedia pada branch ini: {codes}.")

def RuleDefinition.overlaps (d : RuleDefinition) (companyId : ℕ) (excludeRuleId : Option ℕ)
    (r : AccountingPostingRule) : Bool :=
  r.companyId = companyId && r.eventType = d.eventType && r.priority = d.priority.getD 100 &&
    r.status = .active && excludeRuleId.all (r.id ≠ ·) &&
    (d.effectiveFrom.all fun start => r.effectiveTo.all (start ≤ ·)) &&
    (d.effectiveTo.all fun finish => r.effectiveFrom.all (· ≤ finish))

/-- An active rule must not overlap. -/
def checkOverlap (companyId : ℕ) (d : RuleDefinition) (excludeRuleId : Option ℕ) : RuleTx Unit := do
  let db ← get
  refuse (db.rules.findMany (d.overlaps companyId excludeRuleId)).head? fun r => .badRequest
    (s!"Posting rule ACTIVE {r.code} v{r.version} bertumpang tindih untuk eventType/priority yang " ++ "sama.")

def validatePostingRuleDefinition (toUpperCase : String → String) (companyId branchId : ℕ) (d : RuleDefinition)
    (excludeRuleId : Option ℕ) : RuleTx Unit := do
  require (d.journalLines ≠ []) (.badRequest "Aturan jurnal harus memiliki baris.")
  require (d.journalLines.any (·.side = "DEBIT") = true ∧ d.journalLines.any (·.side = "CREDIT") = true)
    (.badRequest "Posting rule wajib memiliki minimal satu baris DEBIT dan satu baris CREDIT.")
  require (d.effectiveFrom.all (fun start => d.effectiveTo.all (start ≤ ·)) = true)
    (.badRequest "Tanggal efektif posting rule tidak valid.")
  d.journalLines.forM checkRuleLine
  checkLiteralCodes toUpperCase companyId branchId d.journalLines
  if d.status.getD "DRAFT" = "ACTIVE" then checkOverlap companyId d excludeRuleId else pure ()

/-! ### The calls -/

structure CreatePostingRuleDto where
  companyId : Option ℕ := none
  (code eventType : String)
  version : Option ℤ := none
  priority : Option ℤ := none
  status : Option String := none
  effectiveFrom : Option String := none
  effectiveTo : Option String := none
  journalLines : List JournalRuleLine

def AccountingRuleStatus.ofText : String → Option AccountingRuleStatus
  | "DRAFT" => some .draft
  | "ACTIVE" => some .active
  | "INACTIVE" => some .inactive
  | _ => none

/-- The instant of a text, if it is given. -/
def ruleDate (newDate : String → Option ℕ) (value : Option String) : RuleTx (Option ℕ) :=
  match value.filter (· ≠ "") with
  | none => pure none
  | some text => do
    let date ← orThrow (newDate text) (.unexpected "Invalid Date")
    pure (some date)

def RuleDb.ruleOf (db : RuleDb) (companyId : ℕ) (code : String) (version : ℤ) : Option AccountingPostingRule :=
  db.rules.rows.find? fun r => r.companyId = companyId && r.code = code && r.version = version

/-- The lines as they are stored, codes without blanks and in upper case. -/
def storedLines (toUpperCase : String → String) (lines : List JournalRuleLine) : List JournalRuleLine :=
  lines.map fun line => { line with accountCode := toUpperCase (trim line.accountCode) }

/-- A rule that is history may not be written again. -/
def checkDraft (existing : AccountingPostingRule) (dto : CreatePostingRuleDto) : RuleTx Unit := do
  let db ← get
  let version := dto.version.getD 1
  let postingCount := (db.ledger.postings.filter fun p => p.ruleId = existing.id).length
  require (existing.status = .draft ∧ postingCount = 0) (.badRequest
    (s!"Posting rule {dto.code} v{version} sudah menjadi histori. Buat version baru, jangan menimpa rule " ++
      "lama."))

def checkExisting (existing : Option AccountingPostingRule) (dto : CreatePostingRuleDto) : RuleTx Unit :=
  match existing with
  | some existing => checkDraft existing dto
  | none => pure ()

def writeRule (toUpperCase : String → String) (companyId : ℕ) (code : String) (version : ℤ)
    (status : AccountingRuleStatus) (d : RuleDefinition) (existing : Option AccountingPostingRule) :
    RuleTx AccountingPostingRule :=
  match existing with
  | some existing => RuleDb.postingRule.update existing.id (fun r => { r with
      eventType := d.eventType
      priority := d.priority.getD 100
      status
      effectiveFrom := d.effectiveFrom
      effectiveTo := d.effectiveTo
      journalLines := storedLines toUpperCase d.journalLines }) .recordNotFound
  | none => do
    let db ← get
    let code := toUpperCase (trim code)
    require (db.ruleOf companyId code version = none) .uniqueViolation
    let rule : AccountingPostingRule := {
      id := db.ledger.nextId
      companyId
      code
      version
      eventType := d.eventType
      priority := d.priority.getD 100
      status
      effectiveFrom := d.effectiveFrom
      effectiveTo := d.effectiveTo
      journalLines := storedLines toUpperCase d.journalLines }
    RuleDb.postingRule.create rule .uniqueViolation
    modify fun db => { db with ledger := { db.ledger with nextId := db.ledger.nextId + 1 } }
    pure rule

def createPostingRule (newDate : String → Option ℕ) (toUpperCase : String → String) (companyId branchId : ℕ)
    (dto : CreatePostingRuleDto) : RuleTx AccountingPostingRule := do
  require (dto.companyId.all (· = companyId)) (tenantAccessDenied "AccountingPostingRule")
  let version := dto.version.getD 1
  let db ← get
  let existing := db.ruleOf companyId dto.code version
  checkExisting existing dto
  let effectiveFrom ← ruleDate newDate dto.effectiveFrom
  let effectiveTo ← ruleDate newDate dto.effectiveTo
  let definition : RuleDefinition := {
    eventType := dto.eventType
    priority := dto.priority
    status := dto.status
    effectiveFrom
    effectiveTo
    journalLines := dto.journalLines }
  validatePostingRuleDefinition toUpperCase companyId branchId definition
    (existing.map AccountingPostingRule.id)
  let status ← orThrow (AccountingRuleStatus.ofText (dto.status.getD "DRAFT"))
    (.unexpected "Invalid value for argument status.")
  writeRule toUpperCase companyId dto.code version status definition existing

def AccountingPostingRule.definition (rule : AccountingPostingRule) : RuleDefinition where
  eventType := rule.eventType
  priority := some rule.priority
  status := some "ACTIVE"
  effectiveFrom := rule.effectiveFrom
  effectiveTo := rule.effectiveTo
  journalLines := rule.journalLines

def checkActivation (toUpperCase : String → String) (companyId branchId : ℕ) (status : AccountingRuleStatus)
    (rule : AccountingPostingRule) : RuleTx Unit :=
  if status = .active then
    validatePostingRuleDefinition toUpperCase companyId branchId rule.definition (some rule.id)
  else pure ()

def updatePostingRuleStatus (toUpperCase : String → String) (companyId branchId id : ℕ)
    (status : AccountingRuleStatus) : RuleTx AccountingPostingRule := do
  let db ← get
  let rule ← orThrow ((db.rules.find? id).filter fun r => r.companyId = companyId)
    (tenantAccessDenied "AccountingPostingRule")
  require (status = .draft → rule.status = .draft) (.badRequest
    "Rule yang sudah pernah ACTIVE/INACTIVE tidak boleh kembali menjadi DRAFT. Buat version baru.")
  checkActivation toUpperCase companyId branchId status rule
  RuleDb.postingRule.update id (fun r => { r with status }) .recordNotFound

end Mayatoko.Accounting
