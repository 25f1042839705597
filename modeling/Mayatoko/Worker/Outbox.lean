import Mayatoko.Worker.Rules
import Mayatoko.Worker.Schema

/-!
# The dispatch of the outbox

`dispatchOutbox` of the worker. An event is claimed by a lease of ten minutes; for a claimed event the jobs
of the rules it triggers and the deliveries to the endpoints that want it are written, each by a statement
of its own, before its status is. Nothing asks whether the lease still runs. Text is taken as already trimmed.
-/

namespace Mayatoko.Worker

open Core WorkerDb

/-- What a step of a dispatch did; `lease` is the end of the lease of the worker. -/
inductive OutboxLabel
  | looked
  | claimed (eventId lease : ℕ)
  | enqueued
  | delivered (eventId lease : ℕ)
  | dispatched (eventId lease : ℕ)
  | failed (eventId lease : ℕ)

abbrev OutboxService := Service OutboxLabel WorkerDb String

/-! ### Rules -/

def automationActionType (action : List (String × Json)) : String :=
  let type := (Json.stringField action "type").getD ""
  let shown := if type = "" then "UNKNOWN" else type
  let unsupported := s!"UNSUPPORTED_RULE_ACTION:{shown}"
  if type = "notification.enqueue" then "ENQUEUE_NOTIFICATION"
  else if type = "approval.create" then "CREATE_APPROVAL_REQUEST"
  else if type = "reorder_suggestion.create" then "CREATE_REORDER_SUGGESTION"
  else if type = "outbox.emit" then "EMIT_OUTBOX_EVENT"
  else if type = "report.enqueue" then "CREATE_REPORT_JOB"
  else if type = "automation.enqueue" then
    ((Json.stringField action "actionType").filter (· ≠ "")).getD unsupported
  else unsupported

def ruleActionKey (ruleId eventId index : ℕ) : String :=
  s!"rule:{ruleId}:event:{eventId}:action:{index}"

def jobFor (companyId : ℕ) (event : EventOutbox) (rule : BusinessRule) (index : ℕ)
    (action : List (String × Json)) (now : ℕ) : AutomationJob where
  id := 0
  companyId := companyId
  branchId := Json.stringField event.payload.fields "branchId"
  eventType := event.eventType
  sourceType := event.aggregateType
  sourceId := event.aggregateId
  ruleCode := some rule.code
  actionType := automationActionType action
  priority := rule.priority
  -- the first field of a name counts
  payload := .obj ([("eventId", .str (toString event.id)), ("eventType", .str event.eventType),
    ("sourceType", .str event.aggregateType), ("sourceId", .str event.aggregateId),
    ("eventPayload", .obj event.payload.fields)] ++ action)
  scheduledAt := now
  idempotencyKey := ruleActionKey rule.id event.id index

/-- Insert a job unless its key is used. -/
def upsertJob (job : ℕ → AutomationJob) : WorkerTx Unit := do
  let db ← get
  match db.jobs.rows.find? fun j => j.key = (job db.now).key with
  | some _ => pure ()
  | none => do
    let id ← freshId
    automationJob.create { job db.now with id } uniqueViolation

def materializeAction (companyId : ℕ) (event : EventOutbox) (rule : BusinessRule)
    (entry : Json × ℕ) : OutboxService Unit :=
  match entry.1 with
  | .obj action =>
    statement (fun _ => .enqueued) .looked (upsertJob (jobFor companyId event rule entry.2 action))
  | _ => pure ()

def materializeBusinessRules (event : EventOutbox) :
    OutboxService Unit :=
  match event.companyId with
  | none => pure ()
  | some companyId => do
    let rules ← query .looked fun db => db.rules.findSorted
      (fun r => r.companyId = companyId && r.trigger = event.eventType && r.isActive)
      (fun a b => a.priority < b.priority || a.priority = b.priority && a.code ≤ b.code)
    rules.forM fun rule => do
      let matched ← ofExcept (ruleMatches event.payload.fields rule.conditions)
      if matched then rule.actions.items.zipIdx.forM (materializeAction companyId event rule) else pure ()

/-! ### Dispatch -/

def eventEnabled (events : Json) (eventType : String) : Bool :=
  events.items.any fun event => event.string? = some "*" || event.string? = some eventType

def leaseMs : ℕ := 10 * 60000

def EventOutbox.due (now : ℕ) (e : EventOutbox) : Bool :=
  e.availableAt ≤ now && (e.status = .pending || e.status = .processing)

def EventOutbox.claim (lease : ℕ) (e : EventOutbox) : EventOutbox :=
  { e with status := .processing, attempts := e.attempts + 1, availableAt := lease }

/-- Returns the number of events that were claimed. -/
def claimEvent (eventId lease : ℕ) : WorkerTx ℕ := do
  let db ← get
  eventOutbox.updateMany (fun e => e.id = eventId && e.due db.now) (EventOutbox.claim lease)

def WebhookDelivery.isOf (endpointId eventId : ℕ) (d : WebhookDelivery) : Bool :=
  d.endpointId = endpointId && d.eventId = some eventId

def createDelivery (event : EventOutbox) (endpoint : WebhookEndpoint) : WorkerTx Unit := do
  let id ← freshId
  let db ← get
  webhookDelivery.create
    { id, endpointId := endpoint.id, eventId := some event.id, eventType := event.eventType,
      payload := event.payload, createdAt := db.now } uniqueViolation

def deliverTo (event : EventOutbox) (lease : ℕ) (endpoint : WebhookEndpoint) :
    OutboxService Unit := do
  let found ← query .looked fun db =>
    (db.deliveries.rows.find? (WebhookDelivery.isOf endpoint.id event.id)).isSome
  if found then pure () else
    statement (fun _ => .delivered event.id lease) .looked (createDelivery event endpoint)

def markDispatched (eventId : ℕ) : WorkerTx Unit := do
  let db ← get
  let _ ← eventOutbox.update eventId
    (fun e => { e with status := .dispatched, publishedAt := some db.now }) recordNotFound

def markFailed (event : EventOutbox) (message : String) : WorkerTx Unit := do
  let db ← get
  let _ ← eventOutbox.update event.id
    (fun e => { e with
      status := if 10 ≤ event.attempts + 1 then .failed else .pending
      lastError := some message
      availableAt := db.now + 30000 }) recordNotFound

def dispatchClaimed (lease : ℕ) (event : EventOutbox) :
    OutboxService Unit := do
  materializeBusinessRules event
  let endpoints ← query .looked fun db => db.endpoints.findMany fun e =>
    e.isActive && event.companyId.all (e.companyId = ·)
  (endpoints.filter fun e => eventEnabled e.events event.eventType).forM (deliverTo event lease)
  statement (fun _ => .dispatched event.id lease) .looked (markDispatched event.id)

def dispatchEvent (lease : ℕ) (event : EventOutbox) :
    OutboxService Unit := do
  let claimed ← statement (fun n => if n = 0 then .looked else .claimed event.id lease) .looked
    (claimEvent event.id lease)
  if claimed = 0 then pure () else
    attempt (dispatchClaimed lease event) fun message =>
      statement (fun _ => .failed event.id lease) .looked (markFailed event message)

def dispatchOutbox : OutboxService Unit := do
  let now ← lookup .looked WorkerDb.now
  let events ← query .looked fun db =>
    (db.events.findSorted (EventOutbox.due now) fun a b => a.createdAt ≤ b.createdAt).take 25
  events.forM (dispatchEvent (now + leaseMs))

end Mayatoko.Worker
