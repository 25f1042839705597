import Mayatoko.Attendance.Steps
import Mayatoko.Extensions.Reconciliations
import Mayatoko.Promotions.Service

/-!
# Service operations

What an operation of a service does with the database, statement by statement: through which client each
statement goes, where a transaction begins and ends, and where access is denied. `denyTenantAccess` writes a
row of the audit log through the client that it is given, and throws. A statement of `this.prisma` is stored at
once; one of the `tx` of a transaction is stored when the transaction commits, and it is lost when an exception
leaves the transaction. Of a row of the audit log its payload, which nothing reads, is left out.

The operations are `record` of `AttendanceService`, `unmatchReconciliation` of `ExtensionsService` and
`update` of `PromotionsService`. An operation that is not denied does what its transaction does.
-/

namespace Mayatoko.Audit

open Core
open Auth (AuthUser)

structure AuditLog where
  (companyId userId : ℕ)
  (action entityType : String)
  entityId : Option ℕ := none

structure Thrown where
  failure : Failure
  code : Option String := none

/-- The entity that a user of a company may not have. -/
structure Denial where
  companyId : ℕ
  entityType : String
  entityId : Option ℕ := none

def Denial.row (user : AuthUser) (d : Denial) : AuditLog where
  companyId := d.companyId
  userId := user.sub
  action := "TENANT_ACCESS_DENIED"
  entityType := d.entityType
  entityId := d.entityId

def Denial.thrown (d : Denial) : Thrown where
  failure := tenantAccessDenied d.entityType
  code := some "TENANT_ACCESS_DENIED"

structure Audited (σ : Type) where
  db : σ
  auditLogs : List AuditLog := []

variable {σ α β : Type} {user : AuthUser}

namespace Audited

def audit (s : Audited σ) (row : AuditLog) : Audited σ := { s with auditLogs := s.auditLogs ++ [row] }

def denials (s : Audited σ) : List AuditLog := s.auditLogs.filter fun row => row.action = "TENANT_ACCESS_DENIED"

end Audited

/-- What a statement does; none adds the row of a denied access. -/
structure Change (σ : Type) where
  act : Audited σ → Audited σ
  denials_le : ∀ s, (act s).denials.length ≤ s.denials.length

inductive DbClient
  | prisma
  | tx

structure Stand (σ : Type) where
  stored : Audited σ
  view : Option (Audited σ) := none

namespace Stand

def read (st : Stand σ) : DbClient → Audited σ
  | .prisma => st.stored
  | .tx => st.view.getD st.stored

def write (st : Stand σ) (act : Audited σ → Audited σ) : DbClient → Stand σ
  | .prisma => ⟨act st.stored, st.view.map act⟩
  | .tx => match st.view with
    | none => ⟨act st.stored, none⟩
    | some view => ⟨st.stored, some (act view)⟩

def begins (st : Stand σ) : Stand σ := { st with view := some st.stored }

def commits (st : Stand σ) : Stand σ := ⟨st.view.getD st.stored, none⟩

def rollsBack (st : Stand σ) : Stand σ := { st with view := none }

end Stand

/-- An operation of a user. What comes after a statement depends on what its client has read; a transaction
whose exception is caught is rolled back, and the operation goes on. -/
inductive Operation (user : AuthUser) (σ α : Type)
  | done (a : α)
  | throws (e : Thrown)
  | statement (client : DbClient) (change : Change σ) (next : Audited σ → Operation user σ α)
  | denyTenantAccess (client : DbClient) (d : Denial)
  | begins (next : Operation user σ α)
  | commits (next : Operation user σ α)
  | rollsBack (next : Operation user σ α)

namespace Operation

def run : Operation user σ α → Stand σ → Except Thrown α × Stand σ
  | done a, st => (.ok a, st)
  | throws e, st => (.error e, st)
  | statement client change next, st => (next (st.read client)).run (st.write change.act client)
  | denyTenantAccess client d, st => (.error d.thrown, st.write (fun s => s.audit (d.row user)) client)
  | begins next, st => next.run st.begins
  | commits next, st => next.run st.commits
  | rollsBack next, st => next.run st.rollsBack

def denial : Operation user σ α → Stand σ → Option (DbClient × Denial × Stand σ)
  | done _, _ => none
  | throws _, _ => none
  | statement client change next, st => (next (st.read client)).denial (st.write change.act client)
  | denyTenantAccess client d, st => some (client, d, st)
  | begins next, st => next.denial st.begins
  | commits next, st => next.denial st.commits
  | rollsBack next, st => next.denial st.rollsBack

def bind (k : α → Operation user σ β) : Operation user σ α → Operation user σ β
  | done a => k a
  | throws e => throws e
  | statement client change next => statement client change fun s => (next s).bind k
  | denyTenantAccess client d => denyTenantAccess client d
  | begins next => begins (next.bind k)
  | commits next => commits (next.bind k)
  | rollsBack next => rollsBack (next.bind k)

instance : Monad (Operation user σ) where
  pure := done
  bind x k := x.bind k

lemma run_bind {op : Operation user σ α} {k : α → Operation user σ β} {st : Stand σ} :
    (op >>= k).run st = match op.run st with
      | (.ok a, st') => (k a).run st'
      | (.error e, st') => (.error e, st') := by
  change (op.bind k).run st = _
  induction op generalizing st with
  | done a => rfl
  | throws e => rfl
  | statement client change next ih => exact ih (st.read client)
  | denyTenantAccess client d => rfl
  | begins next ih => exact ih
  | commits next ih => exact ih
  | rollsBack next ih => exact ih

def transaction (body : Operation user σ α) : Operation user σ α :=
  begins (body.bind fun a => commits (done a))

def through (client : DbClient) (x : Tx σ Failure α) : Operation user σ α :=
  statement client ⟨fun s => { s with db := (execute x s.db).2 }, fun _ => le_rfl⟩ fun s =>
    match (execute x s.db).1 with
    | .ok a => done a
    | .error e => throws ⟨e, none⟩

def orDeny (client : DbClient) (companyId : ℕ) (entityType : String) (entityId : σ → Option ℕ)
    (x : Tx σ Failure α) : Operation user σ α :=
  statement client ⟨fun s => { s with db := (execute x s.db).2 }, fun _ => le_rfl⟩ fun s =>
    match (execute x s.db).1 with
    | .ok a => done a
    | .error e =>
      if e = tenantAccessDenied entityType then denyTenantAccess client ⟨companyId, entityType, entityId s.db⟩
      else throws ⟨e, none⟩

def audit (client : DbClient) (companyId : ℕ) (action : String) (entityType : String) (entityId : ℕ)
    (h : action ≠ "TENANT_ACCESS_DENIED") : Operation user σ Unit :=
  statement client ⟨fun s => s.audit ⟨companyId, user.sub, action, entityType, some entityId⟩, fun s => by
    rw [Audited.denials, Audited.denials, Audited.audit, filter_append]
    rw [List.filter_cons_of_neg (by simpa using h), List.filter_nil, append_nil]⟩ fun _ => done ()

end Operation

/-! ### The operations -/

section Attendance

open Attendance AttendanceDb

def ownRecord (scope : Hr.TenantScope) (key : EmployeeDay) : AttendanceTx Unit := do
  let db ← get
  require ((db.records.find? key).all (fun current =>
    current.companyId = scope.companyId && current.branchId = some scope.branchId) = true)
    (tenantAccessDenied "AttendanceRecord")

def writeRecord (recordId : ℕ) (scope : Hr.TenantScope) (employee : Hr.Employee)
    (dto : CreateAttendanceEventDto) (occurredAt workDate : ℤ) : AttendanceTx Unit := do
  let _ ← attendanceRecord.upsert
    ((blankRecord recordId scope employee.id workDate).withEvent dto.eventType occurredAt)
    fun r => r.withEvent dto.eventType occurredAt
  summarize ⟨scope.companyId, some scope.branchId, workDate⟩

/-- The callback of the transaction of `record`. -/
def recordEvent (user : AuthUser) (eventId recordId : ℕ) (scope : Hr.TenantScope) (employee : Hr.Employee)
    (dto : CreateAttendanceEventDto) (occurredAt workDate : ℤ) : Operation user AttendanceDb Unit := do
  .through .tx (createEvent eventId scope employee dto occurredAt)
  .orDeny .tx scope.companyId "AttendanceRecord"
    (fun db => (db.records.find? ⟨employee.id, workDate⟩).map AttendanceRecord.id)
    (ownRecord scope ⟨employee.id, workDate⟩)
  .through .tx (writeRecord recordId scope employee dto occurredAt workDate)
  .audit .tx scope.companyId "RECORD_ATTENDANCE_EVENT" "AttendanceEvent" eventId (by decide)

def priorEvent (user : AuthUser) (scope : Hr.TenantScope) (key : AttendanceEvent → Option String)
    (value : Option String) : Operation user AttendanceDb (Option AttendanceEvent) :=
  .orDeny .prisma scope.companyId "AttendanceEvent"
    (fun db => (db.eventWith scope key value).map AttendanceEvent.id) (existingEventForKey scope key value)

def record (distanceMeters : ℚ → ℚ → ℚ → ℚ → ℚ) (eventId recordId : ℕ) (dto : CreateAttendanceEventDto)
    (user : AuthUser) : Operation user AttendanceDb Unit := do
  let scope ← .through .prisma (requireTenantScope user)
  .orDeny .prisma scope.companyId "AttendanceEvent" (fun _ => none)
    (assertRequestedScope scope dto.companyId dto.branchId "AttendanceEvent")
  let sameOperation ← priorEvent user scope AttendanceEvent.operationId dto.operationId
  if sameOperation.isSome = true then pure ()
  else do
    let sameEvent ← priorEvent user scope AttendanceEvent.externalEventId dto.externalEventId
    if sameEvent.isSome = true then pure ()
    else do
      let employee ← .orDeny .prisma scope.companyId "Employee" (fun _ => some dto.employeeId)
        (scopedEmployee scope dto.employeeId)
      .orDeny .prisma scope.companyId "AttendanceDevice" (fun _ => dto.deviceId)
        (checkDevice scope dto.deviceId)
      .orDeny .prisma scope.companyId "AttendanceGeofence" (fun _ => dto.geofenceId)
        (checkGeofence distanceMeters scope dto)
      .through .prisma (require (dto.method = .selfieGps → dto.photoObjectKey.any (· ≠ "") = true)
        (.badRequest "Foto selfie wajib untuk metode SELFIE_GPS."))
      let occurredAt ← .through .prisma (orThrow dto.occurredAt (.badRequest "Waktu absensi tidak valid."))
      .transaction (recordEvent user eventId recordId scope employee dto occurredAt
        (normalizeWorkDate dto.workDate occurredAt))

end Attendance

section Extensions

open Extensions Accounting

/-- The callback of the transaction of `unmatchReconciliation`. -/
def unmatch (user : AuthUser) (scope : Transit.TenantScope) (id statementLineId : ℕ) :
    Operation user BankDb BankReconciliation := do
  let reconciliation ← .orDeny .tx scope.companyId "BankReconciliation" (fun _ => some id)
    (scopedReconciliation scope id)
  let statementId ← .through .tx (orThrow reconciliation.statementId
    (.badRequest "Rekonsiliasi tidak memiliki bank statement."))
  let statementLine ← .orDeny .tx scope.companyId "BankStatementLine" (fun _ => some statementLineId)
    (findStatementLine reconciliation statementId statementLineId)
  let refreshed ← .through .tx (unmatchLine scope reconciliation statementLine)
  if statementLine.matched = true then do
    .audit .tx scope.companyId "UNMATCH_BANK_RECONCILIATION_LINE" "BankReconciliation" reconciliation.id
      (by decide)
    pure refreshed
  else pure refreshed

def userScope (user : AuthUser) : Option Transit.TenantScope :=
  match user.companyId, user.branchId with
  | some companyId, some branchId => some ⟨companyId, branchId⟩
  | _, _ => none

def requireTenantScope (user : AuthUser) : Operation user σ Transit.TenantScope :=
  .through .prisma
    (orThrow (userScope user) (.forbidden "Pengguna belum memiliki company dan branch yang valid."))

def unmatchReconciliation (id statementLineId : ℕ) (user : AuthUser) :
    Operation user BankDb BankReconciliation := do
  let scope ← requireTenantScope user
  .transaction (unmatch user scope id statementLineId)

end Extensions

section Promotions

open Promotions

def updatePromoRule (newDate : String → Option ℤ) (toUpperCase : String → String) (user : AuthUser)
    (scope : Transit.TenantScope) (id : ℕ) (dto : UpdatePromoRuleDto) : Operation user PromoDb PromoRule := do
  let row ← .orDeny .tx scope.companyId "PromoRule" (fun _ => some id)
    (findRule scope.companyId scope.branchId id)
  let updated ← .through .tx (updateRule newDate toUpperCase scope.companyId dto row)
  .audit .tx scope.companyId "UPDATE_PROMO_RULE" "PromoRule" row.id (by decide)
  pure updated

def update (newDate : String → Option ℤ) (toUpperCase : String → String) (id : ℕ) (dto : UpdatePromoRuleDto)
    (user : AuthUser) : Operation user PromoDb PromoRule := do
  let scope ← requireTenantScope user
  .transaction (updatePromoRule newDate toUpperCase user scope id dto)

end Promotions

/-! ### They do what their transactions do -/

variable {lift : Audited σ → Stand σ} {client : DbClient} {op : Operation user σ α} {x : Tx σ Failure α}

structure Hand (client : DbClient) (lift : Audited σ → Stand σ) : Prop where
  read : ∀ v, (lift v).read client = v
  write : ∀ v act, (lift v).write act client = lift (act v)

lemma hand_prisma : Hand .prisma (Stand.mk (σ := σ) · none) := ⟨fun _ => rfl, fun _ _ => rfl⟩

lemma hand_tx {s : Audited σ} : Hand .tx fun v => ⟨s, some v⟩ := ⟨fun _ => rfl, fun _ _ => rfl⟩

/-- Where the transaction commits, the operation returns the same and comes to the same database; where it
throws, the operation throws the same. -/
def Mirrors (lift : Audited σ → Stand σ) (op : Operation user σ α) (x : Tx σ Failure α) : Prop :=
  ∀ v, match x.run v.db with
    | .ok (a, t) => ∃ logs, op.run (lift v) = (.ok a, lift ⟨t, logs⟩)
    | .error e => ∃ e' st, op.run (lift v) = (.error e', st) ∧ e'.failure = e

lemma mirrors_pure {a : α} : Mirrors lift (pure a : Operation user σ α) (pure a) := fun v => ⟨v.auditLogs, rfl⟩

lemma Mirrors.bind {k : α → Operation user σ β} {f : α → Tx σ Failure β} (hop : Mirrors lift op x)
    (hk : ∀ a, Mirrors lift (k a) (f a)) : Mirrors lift (op >>= k) (x >>= f) := by
  intro v
  have hv := hop v
  rw [Operation.run_bind, StateT.run_bind]
  cases hx : x.run v.db with
  | error e =>
    rw [hx] at hv
    obtain ⟨e', st, hrun, he⟩ := hv
    rw [hrun]
    exact ⟨e', st, rfl, he⟩
  | ok r =>
    obtain ⟨a, t⟩ := r
    rw [hx] at hv
    obtain ⟨logs, hrun⟩ := hv
    rw [hrun]
    exact hk a ⟨t, logs⟩

lemma Mirrors.then_pure {k : α → Operation user σ α} (hop : Mirrors lift op x)
    (hk : ∀ a, Mirrors lift (k a) (pure a)) : Mirrors lift (op >>= k) x := by
  rw [← bind_pure x]
  exact hop.bind hk

lemma Mirrors.ite {c : Prop} [Decidable c] {op' : Operation user σ α} {x' : Tx σ Failure α}
    (hop : Mirrors lift op x) (hop' : Mirrors lift op' x') :
    Mirrors lift (if c then op else op') (if c then x else x') := by
  split
  · exact hop
  · exact hop'

lemma mirrors_through (hand : Hand client lift) : Mirrors lift (.through client x : Operation user σ α) x := by
  intro v
  rw [Operation.through, Operation.run, hand.read, hand.write]
  dsimp only [execute]
  cases x.run v.db with
  | error e => exact ⟨⟨e, none⟩, _, rfl, rfl⟩
  | ok r => exact ⟨v.auditLogs, rfl⟩

lemma mirrors_orDeny {companyId : ℕ} {entityType : String} {entityId : σ → Option ℕ} (hand : Hand client lift) :
    Mirrors lift (.orDeny client companyId entityType entityId x : Operation user σ α) x := by
  intro v
  rw [Operation.orDeny, Operation.run, hand.read, hand.write]
  dsimp only [execute]
  cases x.run v.db with
  | error e =>
    dsimp only
    split
    next he => exact ⟨_, _, rfl, he.symm⟩
    next he => exact ⟨⟨e, none⟩, _, rfl, rfl⟩
  | ok r => exact ⟨v.auditLogs, rfl⟩

lemma mirrors_audit {companyId entityId : ℕ} {action entityType : String} {h : action ≠ "TENANT_ACCESS_DENIED"}
    (hand : Hand client lift) :
    Mirrors lift (.audit client companyId action entityType entityId h : Operation user σ Unit) (pure ()) := by
  intro v
  rw [Operation.audit, Operation.run, hand.write]
  exact ⟨_, rfl⟩

lemma Mirrors.transaction (hop : ∀ s, Mirrors (fun v => ⟨s, some v⟩) op x) :
    Mirrors (Stand.mk · none) (.transaction op) x := by
  intro v
  have hv := hop v v
  have hrun : (Operation.transaction op).run ⟨v, none⟩ =
      (op >>= fun a => .commits (.done a)).run ⟨v, some v⟩ := rfl
  rw [hrun, Operation.run_bind]
  cases hx : x.run v.db with
  | error e =>
    rw [hx] at hv
    obtain ⟨e', st, hop', he⟩ := hv
    rw [hop']
    exact ⟨e', st, rfl, he⟩
  | ok r =>
    rw [hx] at hv
    obtain ⟨logs, hop'⟩ := hv
    rw [hop']
    exact ⟨logs, rfl⟩

section Attendance

open Attendance AttendanceDb

variable {dto : CreateAttendanceEventDto}

lemma recordEvent_mirrors {eventId recordId : ℕ} {scope : Hr.TenantScope} {employee : Hr.Employee}
    {occurredAt workDate : ℤ} (s : Audited AttendanceDb) :
    Mirrors (fun v => ⟨s, some v⟩) (recordEvent user eventId recordId scope employee dto occurredAt workDate)
      (writeEvent eventId recordId scope employee dto occurredAt workDate) := by
  have hwrite : writeEvent eventId recordId scope employee dto occurredAt workDate = (do
      createEvent eventId scope employee dto occurredAt
      ownRecord scope ⟨employee.id, workDate⟩
      writeRecord recordId scope employee dto occurredAt workDate) := by
    simp only [writeEvent, ownRecord, writeRecord, bind_assoc]
  rw [hwrite]
  refine (mirrors_through hand_tx).bind fun _ => (mirrors_orDeny hand_tx).bind fun _ => ?_
  exact (mirrors_through hand_tx).then_pure fun _ => mirrors_audit hand_tx

end Attendance

variable {scope : Transit.TenantScope}

lemma unmatch_mirrors {id statementLineId : ℕ} :
    Mirrors (Stand.mk · none) (.transaction (unmatch user scope id statementLineId))
      (Extensions.unmatchReconciliation scope id statementLineId) := by
  refine Mirrors.transaction fun s => (mirrors_orDeny hand_tx).bind fun reconciliation => ?_
  refine (mirrors_through hand_tx).bind fun statementId => (mirrors_orDeny hand_tx).bind fun statementLine => ?_
  refine (mirrors_through hand_tx).then_pure fun refreshed => ?_
  split
  · exact (mirrors_audit hand_tx).bind fun _ => mirrors_pure
  · exact mirrors_pure

lemma updatePromoRule_mirrors {newDate : String → Option ℤ} {toUpperCase : String → String} {id : ℕ}
    {dto : Promotions.UpdatePromoRuleDto} :
    Mirrors (Stand.mk · none) (.transaction (updatePromoRule newDate toUpperCase user scope id dto)) (do
      let row ← Promotions.findRule scope.companyId scope.branchId id
      Promotions.updateRule newDate toUpperCase scope.companyId dto row) := by
  refine Mirrors.transaction fun s => (mirrors_orDeny hand_tx).bind fun row => ?_
  refine (mirrors_through hand_tx).then_pure fun updated => ?_
  exact (mirrors_audit hand_tx).bind fun _ => mirrors_pure

end Mayatoko.Audit
