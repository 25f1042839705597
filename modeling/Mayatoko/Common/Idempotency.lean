import Mayatoko.Common.Failure
import Mayatoko.Core.Store

/-!
# Idempotency receipts

`beginIdempotent` and `completeIdempotent` of `common/idempotency.ts`. A receipt belongs to a company,
a scope and a key; it keeps the hash of the request and, once the mutation is done, the resource that
it made. The stored response is that resource, so it is kept as its id. Both run inside the
transaction of the mutation.
-/

namespace Mayatoko.Common

open Core

inductive ReceiptStatus
  | processing
  | completed
  deriving DecidableEq

structure IdempotencyReceipt where
  companyId : ℕ
  (scope key requestHash : String)
  status : ReceiptStatus := .processing
  resourceId : Option ℕ := none
  createdAt : ℕ
  expiresAt : Option ℕ := none

abbrev ReceiptPlace := ℕ × String × String

def IdempotencyReceipt.place (r : IdempotencyReceipt) : ReceiptPlace := (r.companyId, r.scope, r.key)

abbrev Receipts := Table IdempotencyReceipt.place

def idempotencyReceipt : TableOf Receipts IdempotencyReceipt.place := ⟨id, fun _ t => t⟩

abbrev IdempotencyTx := Tx Receipts Failure

structure ReceiptOptions where
  companyId : ℕ
  (scope key requestHash : String)

def ReceiptOptions.place (opts : ReceiptOptions) : ReceiptPlace :=
  (opts.companyId, opts.scope, opts.key)

def processingTtlMs : ℕ := 10 * 60 * 1000

inductive Gate
  | proceed
  | completed (response : Option ℕ)

def idempotencyConflictError : Failure :=
  .badRequest "Idempotency key dipakai ulang dengan payload berbeda."

def idempotencyInProgressError : Failure := .conflict
  ("Permintaan dengan idempotency key ini masih diproses; ulangi dengan key yang sama setelah " ++
    "proses selesai.")

def newReceipt (opts : ReceiptOptions) (now : ℕ) : IdempotencyReceipt where
  companyId := opts.companyId
  scope := opts.scope
  key := opts.key
  requestHash := opts.requestHash
  createdAt := now
  expiresAt := some (now + processingTtlMs)

def reclaimReceipt (existing : IdempotencyReceipt) (now : ℕ) : IdempotencyTx Gate :=
  if existing.expiresAt.getD (existing.createdAt + processingTtlMs) ≤ now then do
    idempotencyReceipt.updateOne
      (fun r => r.place = existing.place && r.status = .processing &&
        r.requestHash = existing.requestHash)
      (fun r => { r with expiresAt := some (now + processingTtlMs) }) idempotencyInProgressError
    pure .proceed
  else throw idempotencyInProgressError

def beginIdempotent (opts : ReceiptOptions) (now : ℕ) : IdempotencyTx Gate := do
  let receipts ← get
  match receipts.find? opts.place with
  | some existing => do
    require (existing.requestHash = opts.requestHash) idempotencyConflictError
    if existing.status = .completed then pure (.completed existing.resourceId)
    else reclaimReceipt existing now
  | none => do
    -- a key that another transaction has just inserted conflicts with this one
    idempotencyReceipt.create (newReceipt opts now) .uniqueViolation
    pure .proceed

def completeIdempotent (opts : ReceiptOptions) (resourceId : ℕ) : IdempotencyTx Unit := do
  let _ ← idempotencyReceipt.updateMany
    (fun r => r.place = opts.place && r.status = .processing)
    (fun r => { r with status := .completed, resourceId := some resourceId })

end Mayatoko.Common
