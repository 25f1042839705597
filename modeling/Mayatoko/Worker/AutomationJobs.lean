import Mathlib.Data.Rat.Floor
import Mayatoko.Core.Frame
import Mayatoko.Worker.Schema

/-!
# The jobs of the automation rules

`processAutomationJobs` of the worker. A job is claimed by a statement of its own; its action and the status
`SUCCEEDED` are written by one serializable transaction, which does nothing unless the job is `PROCESSING`.
When that throws, the status is written by the id of the job. What the libraries make of a text is a
parameter.
-/

namespace Mayatoko.Worker

open Core WorkerDb

inductive JobLabel
  | looked
  | claimed (jobId : ℕ)
  | acted (jobId : ℕ)
  | failed (jobId : ℕ)
  deriving DecidableEq

abbrev JobService := Service JobLabel WorkerDb String

structure JobConfig where
  /-- The first eight characters of an id, in upper case. -/
  shortId : ℕ → String
  upper : String → String
  trim : String → String

/-! ### Actions -/

/-- A value that is there and not null. -/
def given : Option Json → Option Json
  | some .null => none
  | value => value

def emitOutboxEvent (current : AutomationJob) (payload eventPayload : List (String × Json)) :
    WorkerTx Unit := do
  let id ← freshId
  let db ← get
  eventOutbox.create
    { id, companyId := some current.companyId
      eventType := (Json.stringField payload "eventType").getD current.eventType
      aggregateType := current.sourceType
      aggregateId := current.sourceId
      payload := (given (payload.lookup "data")).getD (.obj eventPayload)
      availableAt := db.now
      createdAt := db.now } uniqueViolation

def enqueueNotification (current : AutomationJob) (payload eventPayload : List (String × Json)) :
    WorkerTx Unit := do
  let id ← freshId
  let subject := (Json.stringField eventPayload "productId").getD current.sourceType
  notification.create
    { id, companyId := current.companyId
      channel := (Json.stringField payload "channel").getD "IN_APP"
      recipient := (Json.stringField payload "recipient").getD "ADMIN"
      templateCode := (Json.stringField payload "templateCode").or (Json.stringField payload "template")
      subject := (Json.stringField payload "subject").getD current.eventType
      body := (Json.stringField payload "body").getD
        s!"{current.eventType}: {subject} {current.sourceId}"
      data := .obj payload } uniqueViolation

def findPolicy (companyId : ℕ) : Option String → WorkerTx (Option ApprovalPolicy)
  | none => pure none
  | some policyCode => do
    let db ← get
    let policy ← orThrow
      (db.approvalPolicies.rows.find? fun p => p.companyId = companyId && p.code = policyCode && p.isActive)
      s!"Approval policy {policyCode} tidak ditemukan/aktif."
    pure (some policy)

def ApprovalRequest.isOpenFor (current : AutomationJob) (policy : Option ApprovalPolicy)
    (r : ApprovalRequest) : Bool :=
  r.companyId = current.companyId && r.branchId = current.branchId && r.entityType = current.sourceType &&
    r.entityId = current.sourceId && policy.all (fun p => r.policyId = some p.id) && r.pending

/-- The fields with the branch of the job; the first field of a name counts. -/
def approvalContext (current : AutomationJob) (payload : List (String × Json)) : Json :=
  match current.branchId.filter (· ≠ "") with
  | none => .obj payload
  | some branchId => .obj (("branchId", .str branchId) :: payload)

def createApprovalRequest (current : AutomationJob) (payload : List (String × Json)) : WorkerTx Unit := do
  let policy ← findPolicy current.companyId ((Json.stringField payload "policyCode").filter (· ≠ ""))
  let db ← get
  if db.approvalRequests.rows.any (ApprovalRequest.isOpenFor current policy) then pure () else do
    let id ← freshId
    approvalRequest.create
      { id, policyId := policy.map ApprovalPolicy.id
        companyId := current.companyId
        branchId := current.branchId
        entityType := current.sourceType
        entityId := current.sourceId
        requesterId := Json.stringField payload "requesterId"
        amount := (payload.lookup "amount").bind Json.num?
        context := approvalContext current payload } uniqueViolation

def objectOnly : Option Json → Option Json
  | some (.obj fields) => some (.obj fields)
  | _ => none

def createReportJob (cfg : JobConfig) (current : AutomationJob) (payload : List (String × Json)) :
    WorkerTx Unit := do
  let reportType := ((Json.stringField payload "reportType").map cfg.trim).getD ""
  let format := ((Json.stringField payload "format").map cfg.upper).getD "CSV"
  require (reportType ≠ "") "CREATE_REPORT_JOB membutuhkan reportType."
  require (format ∈ ["CSV", "XLSX", "PDF"]) s!"Format CREATE_REPORT_JOB tidak didukung: {format}"
  let id ← freshId
  reportJob.create
    { id, companyId := current.companyId
      branchId := current.branchId
      reportType := reportType
      format := format
      filters := objectOnly (payload.lookup "filters")
      requestedById := Json.stringField payload "requestedById" } uniqueViolation

def AssetMaintenancePlan.advance (now : ℕ) (vehicle : Option Vehicle) (plan : AssetMaintenancePlan) :
    AssetMaintenancePlan :=
  { plan with
    nextDueDate := match plan.intervalDays.filter (0 < ·) with
      | none => plan.nextDueDate
      | some days => some (max (plan.nextDueDate.getD now) now + days.toNat * 86400000)
    nextDueOdometer := match plan.intervalOdometer.filter (0 < ·), vehicle with
      | some interval, some v => some (v.currentOdometer + interval)
      | _, _ => plan.nextDueOdometer }

def createMaintenanceWorkOrder (cfg : JobConfig) (current : AutomationJob)
    (payload : List (String × Json)) : WorkerTx Unit := do
  require (current.sourceType = "AssetMaintenancePlan")
    "CREATE_MAINTENANCE_WORK_ORDER hanya menerima source AssetMaintenancePlan."
  let db ← get
  let plan ← orThrow
    ((db.maintenancePlans.find? current.sourceId).filter fun p =>
      p.companyId = current.companyId && p.isActive)
    "Maintenance plan automation tidak ditemukan/aktif."
  let asset ← orThrow ((db.assets.find? plan.assetId).filter (·.companyId = current.companyId))
    "Aset maintenance automation tidak ditemukan."
  let vehicle := db.vehicles.rows.find? fun v =>
    v.companyId = current.companyId && v.assetId = some asset.id
  let active := db.workOrders.rows.any fun w =>
    w.companyId = current.companyId && w.assetId = asset.id && w.active
  if active then pure () else do
    let id ← freshId
    maintenanceWorkOrder.create
      { id, companyId := current.companyId
        branchId := asset.branchId
        number := s!"AUTO-MWO-{cfg.shortId current.id}"
        assetId := asset.id
        vehicleId := vehicle.map Vehicle.id
        maintenanceType := plan.name
        priority := (Json.stringField payload "priority").getD "NORMAL"
        scheduledAt := plan.nextDueDate.getD db.now
        notes := s!"Otomatis dari maintenance plan {plan.code} ({plan.id})." } uniqueViolation
    let _ ← assetMaintenancePlan.update plan.id (AssetMaintenancePlan.advance db.now vehicle) recordNotFound

def targetMultiplier (payload : List (String × Json)) : ℚ :=
  match (payload.lookup "targetMultiplier").bind Json.num? with
  | some multiplier => max 1 (min multiplier 10)
  | none => 2

def createReorderSuggestion (current : AutomationJob) (payload : List (String × Json)) :
    WorkerTx Unit := do
  require (current.sourceType = "Inventory") "CREATE_REORDER_SUGGESTION hanya menerima source Inventory."
  let db ← get
  let inventory ← orThrow
    ((db.inventory.find? current.sourceId).filter fun i =>
      i.warehouseCompanyId = current.companyId && i.productCompanyId = current.companyId)
    "Inventory automation berada di tenant yang tidak sesuai."
  if inventory.minStock < inventory.available then pure () else do
    let multiplier := targetMultiplier payload
    let targetStock := max inventory.minStock ⌈(inventory.minStock : ℚ) * multiplier⌉
    let forecastId ← freshId
    forecastRun.create
      { id := forecastId
        companyId := current.companyId
        warehouseId := inventory.warehouseId
        automationJobId := current.id
        ruleCode := current.ruleCode
        targetMultiplier := multiplier } uniqueViolation
    let id ← freshId
    reorderSuggestion.create
      { id, forecastRunId := forecastId
        warehouseId := inventory.warehouseId
        productId := inventory.productId
        currentStock := inventory.quantity
        reservedStock := inventory.reserved
        safetyStock := inventory.minStock
        suggestedQty := max 1 (targetStock - inventory.available)
        automationJobId := current.id } uniqueViolation

def runAction (cfg : JobConfig) (current : AutomationJob) : WorkerTx Unit :=
  let payload := current.payload.fields
  let eventPayload := ((payload.lookup "eventPayload").map Json.fields).getD []
  if current.actionType = "EMIT_OUTBOX_EVENT" then emitOutboxEvent current payload eventPayload
  else if current.actionType = "ENQUEUE_NOTIFICATION" then enqueueNotification current payload eventPayload
  else if current.actionType = "CREATE_APPROVAL_REQUEST" then createApprovalRequest current payload
  else if current.actionType = "CREATE_REPORT_JOB" then createReportJob cfg current payload
  else if current.actionType = "CREATE_MAINTENANCE_WORK_ORDER" then
    createMaintenanceWorkOrder cfg current payload
  else if current.actionType = "CREATE_REORDER_SUGGESTION" then createReorderSuggestion current payload
  else throw s!"Automation action belum didukung worker: {current.actionType}"

/-! ### Jobs -/

/-- Whether a job may be claimed: it is due, or the lock on it is older than `staleLock`. -/
def AutomationJob.due (now staleLock : ℕ) (j : AutomationJob) : Bool :=
  (j.status = .pending || j.status = .retrying) && j.scheduledAt ≤ now ||
    j.status = .processing && j.lockedAt.any (· < staleLock)

def AutomationJob.claim (pid now : ℕ) (j : AutomationJob) : AutomationJob :=
  { j with
    status := .processing
    attempts := j.attempts + 1
    lockedAt := some now
    lockedBy := some s!"worker-{pid}" }

def AutomationJob.succeed (now : ℕ) (j : AutomationJob) : AutomationJob :=
  { j with
    status := .succeeded
    completedAt := some now
    lockedAt := none
    lockedBy := none
    lastError := none }

/-- The job whose action threw; `current` is what was read of it before. -/
def AutomationJob.fail (now : ℕ) (current : AutomationJob) (message : String) (j : AutomationJob) :
    AutomationJob :=
  { j with
    status := if current.maxAttempts ≤ current.attempts then .failed else .retrying
    lastError := some message
    scheduledAt := now + min 3600000 (5000 * 2 ^ current.attempts)
    lockedAt := none
    lockedBy := none }

/-- Returns the number of jobs that were claimed. -/
def claimJob (pid staleLock jobId : ℕ) : WorkerTx ℕ := do
  let db ← get
  automationJob.updateMany (fun j => j.id = jobId && j.due db.now staleLock)
    (AutomationJob.claim pid db.now)

def serializable {α : Type} (x : WorkerTx α) : WorkerTx α := do
  let db ← get
  refuse db.conflict id
  x

/-- The action of a job and its status. Returns whether anything was done. -/
def executeJob (cfg : JobConfig) (jobId : ℕ) : WorkerTx Bool := do
  let db ← get
  match (db.jobs.find? jobId).filter (·.status = .processing) with
  | none => pure false
  | some current => do
    runAction cfg current
    let _ ← automationJob.update current.id (AutomationJob.succeed db.now) recordNotFound
    pure true

def markJob (jobId : ℕ) (current : AutomationJob) (message : String) : WorkerTx Unit := do
  let db ← get
  let _ ← automationJob.update jobId (AutomationJob.fail db.now current message) recordNotFound

def performJob (cfg : JobConfig) (jobId : ℕ) : JobService Unit := do
  let _ ← statement (fun done => if done = true then .acted jobId else .looked) .looked
    (serializable (executeJob cfg jobId))

def failJob (jobId : ℕ) (message : String) : JobService Unit := do
  match ← query .looked fun db => db.jobs.find? jobId with
  | none => pure ()
  | some current => statement (fun _ => .failed jobId) .looked (markJob jobId current message)

def processAutomationJob (cfg : JobConfig) (pid staleLock : ℕ) (job : AutomationJob) :
    JobService Unit := do
  let claimed ← statement (fun n => if n = 0 then .looked else .claimed job.id) .looked
    (claimJob pid staleLock job.id)
  if claimed = 0 then pure () else attempt (performJob cfg job.id) (failJob job.id)

def processAutomationJobs (cfg : JobConfig) (pid : ℕ) : JobService Unit := do
  let now ← lookup .looked WorkerDb.now
  let jobs ← query .looked fun db =>
    (db.jobs.findSorted (AutomationJob.due db.now (now - 10 * 60 * 1000))
      fun a b => a.priority < b.priority || a.priority = b.priority && a.scheduledAt ≤ b.scheduledAt).take 25
  jobs.forM (processAutomationJob cfg pid (now - 10 * 60 * 1000))

end Mayatoko.Worker
