import Mayatoko.Core.Json
import Mayatoko.Core.Protocol
import Mayatoko.Core.Store

/-!
# The tables of the worker

The rows that the worker reads and writes when it dispatches the outbox, sends webhooks and runs the jobs
of the automation rules. Ids that a payload carries are strings. `outage` is the error with which the
database answers a statement at the moment, none while it is up, and `conflict` the one with which it
aborts a serializable transaction; both change as they like between two steps, and so does the endpoint's
answer. `requests` are the requests that have reached an endpoint, by the delivery they were made for.
-/

namespace Mayatoko.Worker

open Core

inductive OutboxStatus
  | pending
  | processing
  | dispatched
  | failed
  deriving DecidableEq

structure EventOutbox where
  id : ℕ
  companyId : Option ℕ
  (eventType aggregateType aggregateId : String)
  payload : Json
  status : OutboxStatus := .pending
  attempts : ℕ := 0
  availableAt : ℕ
  publishedAt : Option ℕ := none
  lastError : Option String := none
  createdAt : ℕ

structure BusinessRule where
  (id companyId : ℕ)
  (code trigger : String)
  conditions : Option Json := none
  actions : Json
  priority : ℤ := 100
  isActive : Bool := true

structure WebhookEndpoint where
  (id companyId : ℕ)
  url : String
  events : Json
  headers : Option Json := none
  isActive : Bool := true

inductive DeliveryStatus
  | pending
  | processing
  | retry
  | delivered
  | failed
  | cancelled
  deriving DecidableEq

structure WebhookDelivery where
  (id endpointId : ℕ)
  eventId : Option ℕ
  eventType : String
  payload : Json
  status : DeliveryStatus := .pending
  attempts : ℕ := 0
  responseCode : Option ℕ := none
  responseBody : Option String := none
  nextRetryAt : Option ℕ := none
  deliveredAt : Option ℕ := none
  createdAt : ℕ

inductive JobStatus
  | pending
  | processing
  | succeeded
  | retrying
  | failed
  | cancelled
  deriving DecidableEq

structure AutomationJob where
  (id companyId : ℕ)
  branchId : Option String
  (eventType sourceType sourceId : String)
  ruleCode : Option String
  actionType : String
  status : JobStatus := .pending
  priority : ℤ := 100
  payload : Json
  attempts : ℕ := 0
  maxAttempts : ℕ := 10
  scheduledAt : ℕ
  lockedAt : Option ℕ := none
  lockedBy : Option String := none
  completedAt : Option ℕ := none
  lastError : Option String := none
  idempotencyKey : String

def AutomationJob.key (j : AutomationJob) : ℕ × String := (j.companyId, j.idempotencyKey)

/-! The rows that the actions of jobs read and write. -/

structure Notification where
  (id companyId : ℕ)
  (channel recipient : String)
  templateCode : Option String
  (subject body : String)
  data : Json

structure ApprovalPolicy where
  (id companyId : ℕ)
  code : String
  isActive : Bool := true

structure ApprovalRequest where
  id : ℕ
  policyId : Option ℕ
  companyId : ℕ
  branchId : Option String
  (entityType entityId : String)
  requesterId : Option String
  amount : Option ℚ
  pending : Bool := true
  context : Json

structure ReportJob where
  (id companyId : ℕ)
  branchId : Option String
  (reportType format : String)
  filters : Option Json
  requestedById : Option String

structure AssetMaintenancePlan where
  id : String
  (companyId assetId : ℕ)
  (code name : String)
  intervalDays : Option ℤ := none
  intervalOdometer : Option ℤ := none
  nextDueDate : Option ℕ := none
  nextDueOdometer : Option ℤ := none
  isActive : Bool := true

structure Asset where
  (id companyId : ℕ)
  branchId : Option String

structure Vehicle where
  (id companyId : ℕ)
  assetId : Option ℕ
  currentOdometer : ℤ := 0

structure MaintenanceWorkOrder where
  (id companyId : ℕ)
  branchId : Option String
  number : String
  assetId : ℕ
  vehicleId : Option ℕ
  active : Bool := true
  (maintenanceType priority : String)
  scheduledAt : ℕ
  notes : String

structure Inventory where
  id : String
  (warehouseId productId warehouseCompanyId productCompanyId : ℕ)
  (quantity reserved available minStock : ℤ)

structure ForecastRun where
  (id companyId warehouseId automationJobId : ℕ)
  ruleCode : Option String
  targetMultiplier : ℚ

structure ReorderSuggestion where
  (id forecastRunId warehouseId productId : ℕ)
  (currentStock reservedStock safetyStock suggestedQty : ℤ)
  automationJobId : ℕ

inductive Answer
  | response (status : ℕ) (body : String)
  | unreachable (message : String)

structure WorkerDb where
  (now nextId : ℕ)
  outage : Option String := none
  conflict : Option String := none
  answer : Answer := .unreachable ""
  requests : List ℕ := []
  events : Table EventOutbox.id := .empty
  rules : Table BusinessRule.id := .empty
  endpoints : Table WebhookEndpoint.id := .empty
  deliveries : Table WebhookDelivery.id := .empty
  jobs : Table AutomationJob.id := .empty
  notifications : Table Notification.id := .empty
  approvalPolicies : Table ApprovalPolicy.id := .empty
  approvalRequests : Table ApprovalRequest.id := .empty
  reportJobs : Table ReportJob.id := .empty
  maintenancePlans : Table AssetMaintenancePlan.id := .empty
  assets : Table Asset.id := .empty
  vehicles : Table Vehicle.id := .empty
  workOrders : Table MaintenanceWorkOrder.id := .empty
  inventory : Table Inventory.id := .empty
  forecastRuns : Table ForecastRun.id := .empty
  reorderSuggestions : Table ReorderSuggestion.id := .empty

abbrev WorkerTx := Tx WorkerDb String

namespace WorkerDb

def eventOutbox : TableOf WorkerDb EventOutbox.id :=
  ⟨events, fun db t => { db with events := t }⟩

def webhookDelivery : TableOf WorkerDb WebhookDelivery.id :=
  ⟨deliveries, fun db t => { db with deliveries := t }⟩

def automationJob : TableOf WorkerDb AutomationJob.id :=
  ⟨jobs, fun db t => { db with jobs := t }⟩

def notification : TableOf WorkerDb Notification.id :=
  ⟨notifications, fun db t => { db with notifications := t }⟩

def approvalRequest : TableOf WorkerDb ApprovalRequest.id :=
  ⟨approvalRequests, fun db t => { db with approvalRequests := t }⟩

def reportJob : TableOf WorkerDb ReportJob.id :=
  ⟨reportJobs, fun db t => { db with reportJobs := t }⟩

def assetMaintenancePlan : TableOf WorkerDb AssetMaintenancePlan.id :=
  ⟨maintenancePlans, fun db t => { db with maintenancePlans := t }⟩

def maintenanceWorkOrder : TableOf WorkerDb MaintenanceWorkOrder.id :=
  ⟨workOrders, fun db t => { db with workOrders := t }⟩

def forecastRun : TableOf WorkerDb ForecastRun.id :=
  ⟨forecastRuns, fun db t => { db with forecastRuns := t }⟩

def reorderSuggestion : TableOf WorkerDb ReorderSuggestion.id :=
  ⟨reorderSuggestions, fun db t => { db with reorderSuggestions := t }⟩

variable (db : WorkerDb)

@[simp] lemma eventOutbox_write (r : EventOutbox) :
    eventOutbox.write db r = { db with events := db.events.put r } := rfl

@[simp] lemma webhookDelivery_write (r : WebhookDelivery) :
    webhookDelivery.write db r = { db with deliveries := db.deliveries.put r } := rfl

@[simp] lemma automationJob_write (r : AutomationJob) :
    automationJob.write db r = { db with jobs := db.jobs.put r } := rfl

end WorkerDb

/-- Prisma's error for a row that is not there. -/
def recordNotFound : String := "An operation failed because it depends on one or more records"

def uniqueViolation : String := "Unique constraint failed"

def freshId : WorkerTx ℕ := do
  let db ← get
  set { db with nextId := db.nextId + 1 }
  pure db.nextId

lemma freshId_commits {db db' : WorkerDb} {id : ℕ} (h : Commits freshId db id db') :
    id = db.nextId ∧ db' = { db with nextId := db.nextId + 1 } := by
  simp only [freshId, commits_steps, commits_set] at h
  obtain ⟨_, _, rfl, rfl, rfl⟩ := h
  exact ⟨rfl, rfl⟩

/-! ### Statements -/

section

variable {ℓ α Q : Type} {P : Q → WorkerDb → ℓ → WorkerDb → Q → Prop} {R : α → Q → Prop}
  {E : Q → Prop} {q : Q}

def upTx (x : WorkerTx α) : WorkerTx α := do
  let db ← get
  refuse db.outage id
  x

/-- A statement of the worker, as one step; `failed` labels it where it throws. -/
def statement (label : α → ℓ) (failed : ℓ) (x : WorkerTx α) : Service ℓ WorkerDb String α :=
  atomically (fun r => match r with
    | .ok a => label a
    | .error _ => failed) (upTx x)

/-- A statement that only reads. -/
def query (looked : ℓ) (f : WorkerDb → α) : Service ℓ WorkerDb String α :=
  statement (fun _ => looked) looked (do
    let db ← get
    pure (f db))

lemma upTx_commits {x : WorkerTx α} {db db' : WorkerDb} {a : α} (h : Commits (upTx x) db a db') :
    Commits x db a db' := by
  simp only [upTx, commits_steps] at h
  obtain ⟨_, hx⟩ := h
  exact hx

lemma does_statement {P : WorkerDb → ℓ → WorkerDb → Prop} {label : α → ℓ} {failed : ℓ} {x : WorkerTx α}
    (hcommits : ∀ s a s', Commits x s a s' → P s (label a) s') (hfailed : ∀ s, P s failed s) :
    Does P (statement label failed x) :=
  does_atomically (fun s a s' h => hcommits s a s' (upTx_commits h)) fun s _ => hfailed s

lemma does_query {P : WorkerDb → ℓ → WorkerDb → Prop} {looked : ℓ} {f : WorkerDb → α}
    (hlooked : ∀ s, P s looked s) : Does P (query looked f) := by
  refine does_statement (fun s a s' h => ?_) hlooked
  simp only [commits_steps] at h
  obtain ⟨_, rfl⟩ := h
  exact hlooked _

lemma obeys_statement {label : α → ℓ} {failed : ℓ} {x : WorkerTx α}
    (hcommits : ∀ s a s', Commits x s a s' → ∃ q', P q s (label a) s' q' ∧ R a q')
    (hfailed : ∀ s, ∃ q', P q s failed s q' ∧ E q') : Obeys P R E q (statement label failed x) :=
  obeys_atomically (fun s a s' h => hcommits s a s' (upTx_commits h)) fun s _ _ => hfailed s

lemma obeys_query {looked : ℓ} {f : WorkerDb → α}
    (hlooked : ∀ s, ∃ q', P q s looked s q' ∧ R (f s) q') (hfailed : ∀ s, ∃ q', P q s looked s q' ∧ E q') :
    Obeys P R E q (query looked f) := by
  refine obeys_statement (fun s a s' h => ?_) hfailed
  simp only [commits_steps] at h
  obtain ⟨rfl, rfl⟩ := h
  exact hlooked _

end

end Mayatoko.Worker
