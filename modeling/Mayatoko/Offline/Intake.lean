import Mayatoko.Common.Failure
import Mayatoko.Core.JsonText
import Mayatoko.Core.Store

/-!
# Intake of offline transactions

`submitOfflineTransactions` of `ExtensionsService`. A device sends the transactions that it has made without a
connection; each is stored under its local id and its sequence, and one that is stored already is recognised by
the text of its payload. How numbers are written and strings are compared, and how the database keeps a JSON
value, is left to the host. The audit row is left out.
-/

namespace Mayatoko.Offline

open Core

/-- What the service relies on: `localeCompare` is a consistent comparison, and a JSON column may change the
order of keys and nothing else. -/
structure Host where
  numbers : NumberText
  localeCompare : String → String → Ordering
  consistent : Std.TransCmp localeCompare
  column : Json → Json
  column_same : ∀ v, (column v).Same v

structure TenantScope where
  (companyId branchId : String)

structure Device where
  (id companyId : String)
  branchId : Option String
  isActive : Bool := true
  lastSeenAt : Option ℕ := none

inductive OfflineSyncStatus
  | pending
  | processing
  | applied
  | conflict
  | failed
  | deadLetter

structure OfflineTransaction where
  id : ℕ
  (deviceId localId : String)
  sequence : ℕ
  transactionType : String
  payload : Json
  status : OfflineSyncStatus := .pending

structure OfflineTransactionItem where
  localId : String
  sequence : ℕ
  transactionType : String
  payload : Option Json

structure SubmitOfflineTransactions where
  transactions : List OfflineTransactionItem

structure Submitted where
  deviceId : String
  accepted : ℕ
  transactions : List OfflineTransaction

structure OfflineDb where
  nextId : ℕ
  /-- The reading of the clock. -/
  now : ℕ
  devices : Table Device.id
  transactions : Table OfflineTransaction.id

abbrev OfflineTx := Tx OfflineDb Failure

namespace OfflineDb

def device : TableOf OfflineDb Device.id := ⟨devices, fun db t => { db with devices := t }⟩

def offlineTransaction : TableOf OfflineDb OfflineTransaction.id :=
  ⟨transactions, fun db t => { db with transactions := t }⟩

end OfflineDb

open OfflineDb

/-! ### Payloads -/

def arrayIndex? (key : String) : Option ℕ :=
  let index := Nat.ofDigitChars 10 key.toList 0
  if Nat.toDigits 10 index = key.toList ∧ index < 4294967295 then some index else none

/-- The fields of an object in the order of its own keys: array indices first, then in the order of creation. -/
def ownFields (fields : List (String × Json)) : List (String × Json) :=
  (fields.filter fun f => (arrayIndex? f.1).isSome).insertionSort
      (fun f g => (arrayIndex? f.1).getD 0 ≤ (arrayIndex? g.1).getD 0) ++
    fields.filter fun f => (arrayIndex? f.1).isNone

/-- Entries sorted by `localeCompare`, and an object made of them. -/
def sortedFields (host : Host) (fields : List (String × Json)) : List (String × Json) :=
  ownFields ((ownFields fields).insertionSort fun f g => host.localeCompare f.1 g.1 ≠ .gt)

def stableJson (host : Host) (value : Json) : String :=
  (value.arranged (sortedFields host)).stringify host.numbers

def setField (fields : List (String × Json)) (name : String) (value : Json) : List (String × Json) :=
  if fields.any (·.1 = name) then fields.map fun f => if f.1 = name then (name, value) else f
  else fields ++ [(name, value)]

def tenantPayload (scope : TenantScope) : Option Json → Json
  | none => .obj [("companyId", .str scope.companyId), ("branchId", .str scope.branchId)]
  | some (.obj fields) =>
    .obj (setField (setField fields "companyId" (.str scope.companyId)) "branchId" (.str scope.branchId))
  | some value =>
    .obj [("companyId", .str scope.companyId), ("branchId", .str scope.branchId), ("payload", value)]

def payloadField (payload : Option Json) (name : String) : Option String :=
  Json.stringField (payload.elim [] Json.fields) name

/-! ### The intake -/

def Shares (deviceId : String) (item : OfflineTransactionItem) (row : OfflineTransaction) : Prop :=
  row.deviceId = deviceId ∧ (row.localId = item.localId ∨ row.sequence = item.sequence)

instance (deviceId : String) (item : OfflineTransactionItem) (row : OfflineTransaction) :
    Decidable (Shares deviceId item row) :=
  inferInstanceAs (Decidable (_ ∧ _))

def OfflineDb.newTransaction (db : OfflineDb) (host : Host) (scope : TenantScope) (deviceId : String)
    (item : OfflineTransactionItem) : OfflineTransaction where
  id := db.nextId
  deviceId := deviceId
  localId := item.localId
  sequence := item.sequence
  transactionType := item.transactionType
  payload := host.column (tenantPayload scope item.payload)
  status := .pending

def submitItem (host : Host) (scope : TenantScope) (deviceId : String) (item : OfflineTransactionItem) :
    OfflineTx OfflineTransaction := do
  require (∀ id ∈ payloadField item.payload "companyId", id = scope.companyId)
    (.forbidden "Payload offline memakai company berbeda dari credential device.")
  require (∀ id ∈ payloadField item.payload "branchId", id = scope.branchId)
    (.forbidden "Payload offline memakai branch berbeda dari credential device.")
  let db ← get
  match (db.transactions.findMany fun r => Shares deviceId item r).head? with
  | some existing => do
    require (existing.localId = item.localId ∧ existing.sequence = item.sequence ∧
        existing.transactionType = item.transactionType ∧
        stableJson host existing.payload = stableJson host (tenantPayload scope item.payload))
      (.badRequest "Replay transaksi offline memakai localId/sequence dengan payload berbeda.")
    pure existing
  | none => do
    set { db with nextId := db.nextId + 1 }
    let row := db.newTransaction host scope deviceId item
    offlineTransaction.create row .uniqueViolation
    pure row

def submitItems (host : Host) (scope : TenantScope) (deviceId : String) :
    List OfflineTransactionItem → OfflineTx (List OfflineTransaction)
  | [] => pure []
  | item :: items => do
    let row ← submitItem host scope deviceId item
    let rows ← submitItems host scope deviceId items
    pure (row :: rows)

/-- The device that sends, if it is one of the tenant. -/
def OfflineDb.sender (db : OfflineDb) (scope : TenantScope) (deviceId : String) : Option Device :=
  (db.devices.find? deviceId).filter fun d =>
    d.companyId = scope.companyId && d.branchId = some scope.branchId && d.isActive

def submitOfflineTransactions (host : Host) (scope : TenantScope) (deviceId : String)
    (dto : SubmitOfflineTransactions) : OfflineTx Submitted := do
  let db ← get
  let device ← orThrow (db.sender scope deviceId)
    (.forbidden "Device sync tidak tersedia pada tenant/branch ini.")
  let results ← submitItems host scope device.id dto.transactions
  let _ ← OfflineDb.device.update device.id (fun d => { d with lastSeenAt := some db.now }) .recordNotFound
  pure { deviceId := device.id, accepted := results.length, transactions := results }

end Mayatoko.Offline
