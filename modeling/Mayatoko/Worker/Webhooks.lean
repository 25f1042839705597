import Mayatoko.Worker.Schema

/-!
# The delivery of webhooks

`sendWebhookDeliveries` of the worker. The rows of a batch share the lease that is computed at its start; a
row is claimed, the request is made, and what came of it is written by the id of the row. The number of
attempts that decides between `RETRY` and `FAILED` is that of the batch, not that of the row. What the
libraries make of an address, a host name and an encrypted header is a parameter.
-/

namespace Mayatoko.Worker

open Core WorkerDb

/-- What a step did; `attempts` is the number in the copy of the row that the worker has read, `lease` the
end of its lease. -/
inductive WebhookLabel
  | looked
  | claimed (deliveryId attempts lease : ℕ)
  | sent (deliveryId lease : ℕ)
  | finished (deliveryId lease : ℕ)

abbrev WebhookService := Service WebhookLabel WorkerDb String

structure WebhookConfig where
  (protectedEnvironment allowPrivate : Bool)
  signingSecret : Option String
  /-- The secret contains one of the words of a placeholder. -/
  isPlaceholder : String → Bool
  /-- Protocol and host name of an address. -/
  parseUrl : String → Except String (String × String)
  /-- The texts of the addresses of a host. -/
  lookupHost : String → Except String (List (List Char))
  isIP : List Char → ℕ
  decryptJson : String → Except String Json
  lowercase : String → String

/-! ### What may be sent -/

def startsWith (address : List Char) (start : String) : Bool := start.toList.isPrefixOf address

/-- `address.match(/^172\.(\d+)\./)`, as a number. -/
def match172 (address : List Char) : Option ℕ :=
  if startsWith address "172." then
    let digits := (address.drop 4).takeWhile Char.isDigit
    let rest := (address.drop 4).dropWhile Char.isDigit
    if digits ≠ [] ∧ startsWith rest "." then some (Nat.ofDigitChars 10 digits 0) else none
  else none

def privateIp (isIP : List Char → ℕ) (address : List Char) : Bool :=
  if isIP address = 0 then false
  else if address = "::1".toList || address = "0.0.0.0".toList then true
  else if startsWith address "127." || startsWith address "10." || startsWith address "192.168." ||
      startsWith address "169.254." then true
  else if (match172 address).any fun n => 16 ≤ n && n ≤ 31 then true
  else startsWith address "fc" || startsWith address "fd" || startsWith address "fe80:"

def assertSafeWebhookTarget (cfg : WebhookConfig) (rawUrl : String) : Except String Unit := do
  let (protocol, hostname) ← cfg.parseUrl rawUrl
  if protocol ≠ "https:" ∧ cfg.allowPrivate = false then throw "Webhook production wajib HTTPS."
  if cfg.allowPrivate then return
  if hostname = "localhost" then throw "Webhook localhost ditolak."
  let addresses ← cfg.lookupHost hostname
  if addresses = [] ∨ addresses.any (privateIp cfg.isIP) = true then
    throw "Webhook target private/local network ditolak."

def assertSigningSecret (cfg : WebhookConfig) : Except String Unit :=
  if cfg.protectedEnvironment = true ∧ cfg.signingSecret.all (fun secret =>
      secret.length < 32 || cfg.isPlaceholder secret) = true then
    throw ("WEBHOOK_SIGNING_SECRET staging/production wajib unik, bukan placeholder, dan minimal 32 " ++
      "karakter sebelum delivery dikirim.")
  else pure ()

def stringEntries (fields : List (String × Json)) : List (String × String) :=
  fields.filterMap fun (name, value) => value.string?.map fun text => (name, text)

def webhookHeaders (cfg : WebhookConfig) (value : Option Json) :
    Except String (List (String × String)) :=
  let fields := ((value.map Json.fields).getD [])
  match Json.stringField fields "__toko360Encrypted" with
  | none => pure (stringEntries fields)
  | some secret => do
    match ← cfg.decryptJson secret with
    | .obj decoded => pure (stringEntries decoded)
    | _ => throw "Webhook headers terenkripsi bukan object."

def reservedWebhookHeaders : List String :=
  ["content-type", "user-agent", "x-toko360-event", "x-toko360-delivery", "idempotency-key",
    "x-toko360-signature"]

def assertNoReservedWebhookHeaders (cfg : WebhookConfig) (headers : List (String × String)) :
    Except String Unit :=
  let blocked := (headers.map Prod.fst).filter fun key =>
    reservedWebhookHeaders.contains (cfg.lowercase key)
  if blocked ≠ [] then
    throw ("Webhook custom headers tidak boleh menimpa header reserved: " ++
      ", ".intercalate blocked)
  else pure ()

def checkWebhook (cfg : WebhookConfig) (endpoint : WebhookEndpoint) : Except String Unit := do
  assertSafeWebhookTarget cfg endpoint.url
  assertSigningSecret cfg
  let headers ← webhookHeaders cfg endpoint.headers
  assertNoReservedWebhookHeaders cfg headers

/-! ### Sending -/

def webhookLeaseMs : ℕ := 10 * 60000

def WebhookDelivery.due (now : ℕ) (d : WebhookDelivery) : Bool :=
  (d.status = .pending || d.status = .retry) && d.nextRetryAt.all (· ≤ now) ||
    d.status = .processing && d.nextRetryAt.any (· ≤ now)

def WebhookDelivery.claim (lease : ℕ) (d : WebhookDelivery) : WebhookDelivery :=
  { d with status := .processing, nextRetryAt := some lease }

/-- Returns the number of deliveries that were claimed. -/
def claimDelivery (deliveryId lease : ℕ) : WorkerTx ℕ := do
  let db ← get
  webhookDelivery.updateMany (fun d => d.id = deliveryId && d.due db.now) (WebhookDelivery.claim lease)

/-- The first characters of a text that a row has room for. -/
def slice (text : String) : String := String.ofList (text.toList.take 4000)

def cancelDelivery (deliveryId : ℕ) : WorkerTx Unit := do
  let _ ← webhookDelivery.update deliveryId
    (fun d => { d with status := .cancelled, nextRetryAt := none }) recordNotFound

def markDelivered (deliveryId responseCode : ℕ) (responseBody : String) : WorkerTx Unit := do
  let db ← get
  let _ ← webhookDelivery.update deliveryId
    (fun d => { d with
      status := .delivered
      attempts := d.attempts + 1
      responseCode := some responseCode
      responseBody := some responseBody
      deliveredAt := some db.now
      nextRetryAt := none }) recordNotFound

def markAttempt (delivery : WebhookDelivery) (message : String) : WorkerTx Unit := do
  let db ← get
  let attempts := delivery.attempts + 1
  let _ ← webhookDelivery.update delivery.id
    (fun d => { d with
      status := if 10 ≤ attempts then .failed else .retry
      attempts := d.attempts + 1
      responseBody := some (slice message)
      nextRetryAt := if 10 ≤ attempts then none
        else some (db.now + min 3600000 (5000 * 2 ^ attempts)) }) recordNotFound

def request (deliveryId : ℕ) : WorkerTx Unit :=
  modify fun db => { db with requests := deliveryId :: db.requests }

def fetch (delivery : WebhookDelivery) (lease : ℕ) : WebhookService (ℕ × String) := do
  atomically (fun _ => .sent delivery.id lease) (request delivery.id)
  match ← lookup .looked WorkerDb.answer with
  | .unreachable message => throw message
  | .response status body => do
    check (200 ≤ status ∧ status < 300) s!"HTTP {status}: {slice body}"
    pure (status, slice body)

def sendClaimed (cfg : WebhookConfig) (lease : ℕ) (delivery : WebhookDelivery) :
    WebhookService Unit := do
  let endpoint ← query .looked fun db => db.endpoints.find? delivery.endpointId
  match endpoint.filter WebhookEndpoint.isActive with
  | none =>
    statement (fun _ => .finished delivery.id lease) .looked (cancelDelivery delivery.id)
  | some endpoint => do
    ExceptT.mk (.done (checkWebhook cfg endpoint))
    let response ← fetch delivery lease
    statement (fun _ => .finished delivery.id lease) .looked
      (markDelivered delivery.id response.1 response.2)

def sendWebhookDelivery (cfg : WebhookConfig) (lease : ℕ) (delivery : WebhookDelivery) :
    WebhookService Unit := do
  let claimed ← statement
    (fun n => if n = 0 then .looked else .claimed delivery.id delivery.attempts lease) .looked
    (claimDelivery delivery.id lease)
  if claimed = 0 then pure () else
    attempt (sendClaimed cfg lease delivery) fun message =>
      statement (fun _ => .finished delivery.id lease) .looked (markAttempt delivery message)

def sendWebhookDeliveries (cfg : WebhookConfig) : WebhookService Unit := do
  let now ← lookup .looked WorkerDb.now
  let deliveries ← query .looked fun db =>
    (db.deliveries.findSorted (WebhookDelivery.due now) fun a b => a.createdAt ≤ b.createdAt).take 25
  deliveries.forM (sendWebhookDelivery cfg (now + webhookLeaseMs))

end Mayatoko.Worker
