import Mathlib.Algebra.Order.Group.Abs
import Mayatoko.Common.Failure
import Mayatoko.Core.Process
import Mayatoko.Core.Store

/-!
# Signed requests of edge devices

`EdgeDeviceAuthService.authenticate` checks the time of a request, then its signature, and later stores its
nonce in a transaction that also removes the nonces of the credential that are more than twice the
tolerated skew old. A request whose transaction runs that late is stored over its own removed nonce, so the
same request is accepted twice. Where the transaction finds the request still fresh, and the clock is not
set back, every request is accepted at most once.

Header values are taken as already trimmed; a payload is given as the text of `stableJson`.
-/

namespace Mayatoko.Edge

open Core

structure Device where
  id : String
  companyId : ℕ
  branchId : Option ℕ
  isActive : Bool := true
  lastSeenAt : Option ℤ := none

inductive CredentialStatus
  | active
  | revoked
  deriving DecidableEq

structure DeviceCredential where
  id : ℕ
  (deviceId keyId : String)
  encryptedSecret : Option String
  status : CredentialStatus := .active
  expiresAt : Option ℤ := none
  revokedAt : Option ℤ := none

structure DeviceAuthNonce where
  credentialId : ℕ
  (nonce requestHash : String)
  (requestAt createdAt : ℤ)

def DeviceAuthNonce.key (n : DeviceAuthNonce) : ℕ × String := (n.credentialId, n.nonce)

structure EdgeDb where
  /-- The reading of the clock. -/
  now : ℤ
  devices : Table Device.id
  credentials : Table DeviceCredential.id
  nonces : Table DeviceAuthNonce.key

abbrev EdgeTx := Tx EdgeDb Failure

namespace EdgeDb

def device : TableOf EdgeDb Device.id := ⟨devices, fun db t => { db with devices := t }⟩

def deviceAuthNonce : TableOf EdgeDb DeviceAuthNonce.key := ⟨nonces, fun db t => { db with nonces := t }⟩

end EdgeDb

structure SignedRequest where
  credentialId : ℕ
  nonce : String
  requestAt : ℤ
  requestHash : String
  deriving DecidableEq

def SignedRequest.key (r : SignedRequest) : ℕ × String := (r.credentialId, r.nonce)

inductive EdgeLabel
  /-- The request was accepted, by a transaction that read the clock at `readAt` before it removed old
  nonces. -/
  | accepted (r : SignedRequest) (readAt : ℤ)
  | other

abbrev EdgeService := Service EdgeLabel EdgeDb Failure

structure EdgeDeviceIdentity where
  deviceId : String
  (companyId branchId credentialId : ℕ)
  keyId : String

structure EdgeConfig where
  parseDate : String → Option ℤ
  toISOString : ℤ → String
  decryptText : String → Except Failure String
  sha256 : String → String
  hmac : String → String → String

def maxClockSkewMs : ℤ := 5 * 60000

def fresh (now requestAt : ℤ) : Bool := |now - requestAt| ≤ maxClockSkewMs

/-! ### Authentication -/

def header (headers : String → Option String) (name : String) : EdgeService String :=
  expect ((headers name).filter fun value => value ≠ "")
    (.unauthorized s!"Header {name} wajib untuk edge sync.")

def isNonce (nonce : String) : Bool :=
  16 ≤ nonce.toList.length && nonce.toList.length ≤ 128 &&
    nonce.toList.all fun ch => ch.isAlphanum || ch = '_' || ch = '-'

def toLowerCase (text : String) : String := String.ofList (text.toList.map Char.toLower)

def isHex64 (text : String) : Bool :=
  text.toList.length = 64 && text.toList.all fun ch =>
    ch.isDigit || 'a' ≤ ch.toLower && ch.toLower ≤ 'f'

def safeEqualHex (left right : String) : Bool :=
  isHex64 left && isHex64 right && toLowerCase left = toLowerCase right

def recordNonce (r : SignedRequest) (deviceId : String) (readAt : ℤ) : EdgeTx Unit := do
  EdgeDb.deviceAuthNonce.deleteMany fun n =>
    n.credentialId = r.credentialId && n.createdAt < readAt - maxClockSkewMs * 2
  let db ← get
  EdgeDb.deviceAuthNonce.create
    { credentialId := r.credentialId, nonce := r.nonce, requestHash := r.requestHash,
      requestAt := r.requestAt, createdAt := db.now }
    (.unauthorized "Nonce edge sync sudah pernah digunakan (replay ditolak).")
  let _ ← EdgeDb.device.update deviceId (fun d => { d with lastSeenAt := some db.now }) .recordNotFound

def recordedLabel (r : SignedRequest) (readAt : ℤ) : Except Failure Unit → EdgeLabel
  | .ok _ => .accepted r readAt
  | .error _ => .other

def authenticate (c : EdgeConfig) (headers : String → Option String) (operation payload : String) :
    EdgeService EdgeDeviceIdentity := do
  let deviceId ← header headers "x-toko360-device-id"
  let keyId ← header headers "x-toko360-key-id"
  let timestampRaw ← header headers "x-toko360-timestamp"
  let nonce ← header headers "x-toko360-nonce"
  let signature ← header headers "x-toko360-signature"
  check (isNonce nonce) (.unauthorized "Nonce edge sync tidak valid.")
  let checkedAt ← lookup .other EdgeDb.now
  let requestAt ← expect ((c.parseDate timestampRaw).filter fun t => fresh checkedAt t)
    (.unauthorized "Timestamp edge sync kedaluwarsa atau di luar toleransi clock.")
  let foundDevice ← lookup .other fun db => (db.devices.find? deviceId).filter Device.isActive
  let (device, branchId) ← expect (foundDevice.bind fun d => d.branchId.map fun b => (d, b))
    (.unauthorized "Device edge tidak aktif atau belum terikat branch.")
  let credentialAt ← lookup .other EdgeDb.now
  let found ← lookup .other fun db => db.credentials.rows.find? fun k =>
    k.deviceId = device.id && k.keyId = keyId && k.status = .active && k.revokedAt = none &&
      k.expiresAt.all fun t => credentialAt < t
  let (credential, encryptedSecret) ← expect (found.bind fun k => k.encryptedSecret.map fun e => (k, e))
    (.unauthorized "Credential edge tidak aktif atau perlu dirotasi ke format signed-sync terbaru.")
  let canonical := "\n".intercalate
    ["v1", device.id, credential.keyId, c.toISOString requestAt, nonce, operation, c.sha256 payload]
  let secret ← ofExcept (c.decryptText encryptedSecret)
  check (safeEqualHex (toLowerCase signature) (c.hmac secret canonical))
    (.unauthorized "Signature edge sync tidak valid.")
  let request : SignedRequest :=
    { credentialId := credential.id, nonce := nonce, requestAt := requestAt,
      requestHash := c.sha256 canonical }
  let readAt ← lookup .other EdgeDb.now
  atomically (recordedLabel request readAt) (recordNonce request device.id readAt)
  pure { deviceId := device.id, companyId := device.companyId, branchId := branchId,
         credentialId := credential.id, keyId := credential.keyId }

structure EdgeRequest where
  headers : String → Option String
  (operation payload : String)

def serveEdge (c : EdgeConfig) (r : EdgeRequest) :
    Process EdgeLabel EdgeDb (Except Failure EdgeDeviceIdentity) :=
  (authenticate c r.headers r.operation r.payload).run

inductive EdgeOutside (db : EdgeDb) : EdgeDb → Prop
  | clock (now : ℤ) : EdgeOutside db { db with now := now }
  | devices (t : Table Device.id) : EdgeOutside db { db with devices := t }
  | credentials (t : Table DeviceCredential.id) : EdgeOutside db { db with credentials := t }

variable {db db' : EdgeDb} {l : Option EdgeLabel}

/-- A step looks, or it accepts a request whose nonce is not stored once the old ones are removed. -/
inductive EdgeStep (db : EdgeDb) : EdgeLabel → EdgeDb → Prop
  | looks : EdgeStep db .other db
  | accepts {r : SignedRequest} {readAt : ℤ} {n : DeviceAuthNonce} {t : Table DeviceAuthNonce.key}
      {devices : Table Device.id} (hkey : n.key = r.key) (hat : n.createdAt = db.now)
      (ht : t = db.nonces.deleteMany fun n =>
        n.credentialId = r.credentialId && n.createdAt < readAt - maxClockSkewMs * 2)
      (hnew : t.find? n.key = none) :
      EdgeStep db (.accepted r readAt) { db with devices := devices, nonces := t.put n }

lemma recordNonce_step {r : SignedRequest} {deviceId : String} {readAt : ℤ} {u : Unit}
    (h : Commits (recordNonce r deviceId readAt) db u db') : EdgeStep db (.accepted r readAt) db' := by
  simp only [recordNonce, commits_bind, commits_get, commits_pure, TableOf.commits_deleteMany,
    TableOf.commits_create, TableOf.commits_update] at h
  obtain ⟨_, _, rfl, _, _, ⟨rfl, rfl⟩, _, _, ⟨hnew, rfl⟩, _, _, ⟨d, hd, rfl, rfl⟩, -, rfl⟩ := h
  exact EdgeStep.accepts rfl rfl rfl hnew

lemma serveEdge_steps (c : EdgeConfig) (r : EdgeRequest) : (serveEdge c r).Steps EdgeStep := by
  have hlook {α : Type} (f : EdgeDb → α) : Does EdgeStep (lookup .other f : EdgeService α) :=
    does_lookup fun _ => EdgeStep.looks
  have hdoes : Does EdgeStep (authenticate c r.headers r.operation r.payload) := by
    unfold authenticate header
    apply Does.bind does_expect
    intro _
    apply Does.bind does_expect
    intro _
    apply Does.bind does_expect
    intro _
    apply Does.bind does_expect
    intro _
    apply Does.bind does_expect
    intro _
    apply Does.bind does_check
    intro _
    apply Does.bind (hlook _)
    intro _
    apply Does.bind does_expect
    intro _
    apply Does.bind (hlook _)
    intro _
    apply Does.bind does_expect
    intro _
    apply Does.bind (hlook _)
    intro _
    apply Does.bind (hlook _)
    intro _
    apply Does.bind does_expect
    intro _
    apply Does.bind does_ofExcept
    intro _
    -- whatever the comparison of the signatures comes to
    generalize safeEqualHex _ _ = signed
    apply Does.bind does_check
    intro _
    apply Does.bind (hlook _)
    intro _
    apply Does.bind (does_atomically (fun _ _ _ h => recordNonce_step h) fun _ _ => EdgeStep.looks)
    intro _
    exact does_pure
  exact hdoes

/-! ### At most once -/

def acceptances (ls : List (Option EdgeLabel)) : List SignedRequest :=
  ls.filterMap fun l => l.bind fun
    | .accepted r _ => some r
    | .other => none

/-- The steps from outside that do not set the clock back. -/
def EdgeForward (db db' : EdgeDb) : Prop := EdgeOutside db db' ∧ db.now ≤ db'.now

/-- The condition on an acceptance: the request is still fresh, and the clock was not set back after it was
read for the removal of old nonces. -/
def StillFresh (db : EdgeDb) : Option EdgeLabel → Prop
  | some (.accepted r readAt) => fresh db.now r.requestAt ∧ readAt ≤ db.now
  | _ => True

abbrev EdgeStateStep := StateStep EdgeStep EdgeForward

/-- An accepted request has its nonce stored, by a row that is not removed while the request is fresh, or is
not fresh any more. -/
def Held (db : EdgeDb) (r : SignedRequest) : Prop :=
  (∃ n ∈ db.nonces, n.key = r.key ∧ r.requestAt - maxClockSkewMs ≤ n.createdAt) ∨
    r.requestAt + maxClockSkewMs < db.now

lemma fresh_iff {now requestAt : ℤ} : fresh now requestAt = true ↔
      requestAt - maxClockSkewMs ≤ now ∧ now ≤ requestAt + maxClockSkewMs := by
  rw [fresh, decide_eq_true_eq, abs_le]
  constructor
  · rintro ⟨h₁, h₂⟩
    constructor <;> omega
  · rintro ⟨h₁, h₂⟩
    constructor <;> omega

lemma Held.deleteMany {r : SignedRequest} {readAt : ℤ} (hheld : Held db r) (credentialId : ℕ)
    (hread : readAt ≤ db.now) :
    (∃ n ∈ db.nonces.deleteMany fun n =>
        n.credentialId = credentialId && n.createdAt < readAt - maxClockSkewMs * 2,
      n.key = r.key ∧ r.requestAt - maxClockSkewMs ≤ n.createdAt) ∨
      r.requestAt + maxClockSkewMs < db.now := by
  obtain ⟨n, hn, hkey, hat⟩ | hlate := hheld
  · by_cases hold : (n.credentialId = credentialId && n.createdAt < readAt - maxClockSkewMs * 2) = true
    · simp only [cond_iff] at hold
      right
      omega
    · exact .inl ⟨n, Table.mem_deleteMany.mpr ⟨hn, by simpa using hold⟩, hkey, hat⟩
  · exact .inr hlate

structure AcceptedOnce (past : List (Option EdgeLabel)) (db : EdgeDb) : Prop where
  once : (acceptances past).Nodup
  held : ∀ r ∈ acceptances past, Held db r

lemma acceptances_append {past : List (Option EdgeLabel)} :
    acceptances (past ++ [l]) = acceptances past ++ acceptances [l] := List.filterMap_append

lemma AcceptedOnce.step {past : List (Option EdgeLabel)} (hpast : AcceptedOnce past db)
    (hfresh : StillFresh db l) (h : EdgeStateStep db l db') : AcceptedOnce (past ++ [l]) db' := by
  have hkeep (hl : acceptances [l] = []) (hheld : ∀ r, Held db r → Held db' r) :
      AcceptedOnce (past ++ [l]) db' := by
    have hsame : acceptances (past ++ [l]) = acceptances past := by
      rw [acceptances_append, hl, append_nil]
    exact ⟨hsame ▸ hpast.once, fun r hr => hheld r (hpast.held r (hsame ▸ hr))⟩
  cases h with
  | idle => exact hkeep rfl fun _ h => h
  | outside h =>
    refine hkeep rfl fun r hheld => ?_
    have hnonces : db'.nonces = db.nonces := by cases h.1 <;> rfl
    obtain hrow | hlate := hheld
    · exact .inl (hnonces.symm ▸ hrow)
    · exact .inr (hlate.trans_le h.2)
  | step h =>
    cases h with
    | looks => exact hkeep rfl fun _ h => h
    | @accepts r readAt n t devices hkey hat ht hnew =>
      obtain ⟨hnow, hread⟩ := hfresh
      rw [fresh_iff] at hnow
      have hall : acceptances (past ++ [some (.accepted r readAt)]) = acceptances past ++ [r] :=
        acceptances_append
      refine ⟨?_, fun x hx => ?_⟩
      · -- An earlier acceptance is still held after the removal, but there is room for the nonce.
        rw [hall]
        refine hpast.once.append (List.nodup_singleton r) fun x hx hr => ?_
        obtain rfl := mem_singleton.mp hr
        obtain ⟨m, hm, hmkey, _⟩ | hlate := (hpast.held x hx).deleteMany x.credentialId hread
        · exact find?_eq_none.mp hnew m (ht ▸ hm) (hmkey.trans hkey.symm)
        · exact absurd hnow.2 (not_le.mpr hlate)
      · rw [hall, mem_append, mem_singleton] at hx
        obtain hx | rfl := hx
        · obtain ⟨m, hm, hmkey, hmat⟩ | hlate := (hpast.held x hx).deleteMany r.credentialId hread
          · rw [← ht] at hm
            refine .inl ⟨m, mem_put.mpr (Or.inr ⟨hm, fun hmn => ?_⟩), hmkey, hmat⟩
            exact find?_eq_none.mp hnew m hm hmn
          · exact .inr hlate
        · exact .inl ⟨n, mem_put_self _ _, hkey, hat ▸ hnow.1⟩

variable (c : EdgeConfig)

/-- The steps of the server with a clock that is not set back, where those that accept a request meet
`StillFresh`. -/
abbrev FreshStep :=
  Guarded (fun p a => StillFresh p.state a.label) (PoolStep (serveEdge c) EdgeForward)

/-- Where every request is still fresh when its nonce is stored, and the clock is not set back, no request is
accepted twice, and the nonce of an accepted one is stored for as long as it would pass the check of its
time. -/
theorem accepted_once {p q : Pool EdgeLabel EdgeDb (Except Failure EdgeDeviceIdentity)}
    {as : List (PoolAction EdgeRequest EdgeLabel (Except Failure EdgeDeviceIdentity))} (hidle : p.Idle)
    (hrun : Run (FreshStep c) p as q) :
    (acceptances (as.map PoolAction.label)).Nodup ∧
      ∀ r ∈ acceptances (as.map PoolAction.label), fresh q.state.now r.requestAt →
        ∃ n ∈ q.state.nonces, n.key = r.key := by
  have hstate := Pool.run_state (serveEdge_steps c) hidle.steps hrun
  have hstart : AcceptedOnce [] p.state := ⟨List.nodup_nil, by simp [acceptances]⟩
  have hend := hstate.invariant_past (fun _ _ _ _ hI hs => hI.step hs.1 hs.2) hstart
  refine ⟨hend.once, fun r hr hnow => ?_⟩
  obtain ⟨n, hn, hkey, _⟩ | hlate := hend.held r hr
  · exact ⟨n, hn, hkey⟩
  · exact absurd (fresh_iff.mp hnow).2 (not_le.mpr hlate)

/-! A device with one credential, and a request that it signed at time zero. -/

def plainSignature : String :=
  "aaaaaaaaaaaaaaaaaaaaaaaaaaaaaaaaaaaaaaaaaaaaaaaaaaaaaaaaaaaaaaaa"

def plainEdgeConfig : EdgeConfig where
  parseDate := fun _ => some 0
  toISOString := toString
  decryptText := .ok
  sha256 := fun text => text
  hmac := fun _ _ => plainSignature

def edgeDb : EdgeDb where
  now := 0
  devices := Table.empty.put { id := "dev", companyId := 1, branchId := some 1 }
  credentials := Table.empty.put
    { id := 1, deviceId := "dev", keyId := "k", encryptedSecret := some "s" }
  nonces := Table.empty

def edgePool : Pool EdgeLabel EdgeDb (Except Failure EdgeDeviceIdentity) := ⟨edgeDb, fun _ => none⟩

def pullRequest : EdgeRequest where
  headers
    | "x-toko360-device-id" => some "dev"
    | "x-toko360-key-id" => some "k"
    | "x-toko360-timestamp" => some "1970-01-01T00:00:00.000Z"
    | "x-toko360-nonce" => some "nonce-0123456789"
    | "x-toko360-signature" => some plainSignature
    | _ => none
  operation := "pull"
  payload := "null"

lemma clock_forward (ms : ℕ) (db : EdgeDb) : EdgeForward db { db with now := db.now + ms } :=
  ⟨.clock _, by simp⟩

instance (db : EdgeDb) (l : Option EdgeLabel) : Decidable (StillFresh db l) :=
  match l with
  | some (.accepted r readAt) =>
    inferInstanceAs (Decidable (fresh db.now r.requestAt = true ∧ readAt ≤ db.now))
  | some .other | none => isTrue trivial

theorem accepted_once_pull : ∃ as q, Run (FreshStep plainEdgeConfig) edgePool as q ∧
      (acceptances (as.map PoolAction.label)).length = 1 ∧
      ∀ r ∈ acceptances (as.map PoolAction.label), fresh q.state.now r.requestAt →
        ∃ n ∈ q.state.nonces, n.key = r.key := by
  obtain ⟨as, q, hrun, hone⟩ := Pool.exists_run_of_play (serveEdge plainEdgeConfig) edgePool
    clock_forward StillFresh
    [.start 0 pullRequest, .start 1 pullRequest, .step 0, .step 1, .step 0, .step 1, .step 0, .step 1,
      .step 0, .step 1, .step 0, .step 1, .step 0, .step 1, .answer 0, .answer 1]
    (fun ls _ => (acceptances ls).length = 1) (by decide +kernel)
  exact ⟨as, q, hrun, hone, (accepted_once plainEdgeConfig (fun _ => rfl) hrun).2⟩

/-- Both deliveries pass the check of the time; the transaction of the second runs more than ten minutes
after that of the first and removes its nonce. -/
theorem accepted_twice : ∃ as q, Run (PoolStep (serveEdge plainEdgeConfig) EdgeForward) edgePool as q ∧
      ¬ (acceptances (as.map PoolAction.label)).Nodup := by
  obtain ⟨as, q, hrun, htwice⟩ := Pool.exists_run_of_play (serveEdge plainEdgeConfig) edgePool
    clock_forward (fun _ _ => True)
    [.start 0 pullRequest, .start 1 pullRequest, .step 0, .step 1, .step 0, .step 1, .step 0, .step 1,
      .step 0, .step 1, .step 0, .step 0, .outside 600001, .step 1, .step 1]
    (fun ls _ => ¬ (acceptances ls).Nodup) (by decide +kernel)
  exact ⟨as, q, hrun.of_guarded, htwice⟩

end Mayatoko.Edge
