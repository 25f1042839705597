import Mayatoko.Attendance.Steps
import Mayatoko.Core.Protocol

/-!
# Calls of `record` side by side

A call of `record` reads what it checks, then the record of the employee and the day, and later writes it in
the same transaction. At the default isolation level other calls commit in between: the write sets a time that
the call has found to be the first or the last, whatever stands there by then. The event is seen by nobody else
before the commit, so it is written there. A call that runs alone does what `record` does at once.
-/

namespace Mayatoko.Attendance

open Core AttendanceDb
open Auth (AuthUser)
open Hr (Employee TenantScope)

inductive CallLabel
  | looked
  | wrote (key : EmployeeDay) (eventType : AttendanceEventType) (occurredAt : ℤ)
      (seen : Option AttendanceRecord)

abbrev AttendanceCall := Service CallLabel AttendanceDb Failure

variable {α : Type}

/-- A statement that only reads. -/
def look (x : AttendanceTx α) : AttendanceCall α := atomically (fun _ => .looked) x

/-- The first check-in and the last check-out of what was read. -/
def firstSeen (seen : Option AttendanceRecord) : Option ℤ := seen.bind AttendanceRecord.firstCheckInAt

def lastSeen (seen : Option AttendanceRecord) : Option ℤ := seen.bind AttendanceRecord.lastCheckOutAt

/-- The event is earlier than the first check-in that was read. -/
def FirstIn (eventType : AttendanceEventType) (occurredAt : ℤ) (seen : Option AttendanceRecord) : Prop :=
  eventType = .checkIn ∧ (firstSeen seen).all (occurredAt < ·) = true

/-- The event is later than the last check-out that was read. -/
def LastOut (eventType : AttendanceEventType) (occurredAt : ℤ) (seen : Option AttendanceRecord) : Prop :=
  eventType = .checkOut ∧ (lastSeen seen).all (· < occurredAt) = true

instance (eventType : AttendanceEventType) (occurredAt : ℤ) (seen : Option AttendanceRecord) :
    Decidable (FirstIn eventType occurredAt seen) :=
  inferInstanceAs (Decidable (eventType = .checkIn ∧ (firstSeen seen).all (occurredAt < ·) = true))

instance (eventType : AttendanceEventType) (occurredAt : ℤ) (seen : Option AttendanceRecord) :
    Decidable (LastOut eventType occurredAt seen) :=
  inferInstanceAs (Decidable (eventType = .checkOut ∧ (lastSeen seen).all (· < occurredAt) = true))

/-- What a call writes in a record; a time that is not written stays as it is. -/
def AttendanceRecord.overwrite (r : AttendanceRecord) (scope : TenantScope) (eventType : AttendanceEventType)
    (occurredAt : ℤ) (seen : Option AttendanceRecord) : AttendanceRecord :=
  { r with
    companyId := scope.companyId
    branchId := some scope.branchId
    status := .present
    sourceVersion := seen.elim 0 AttendanceRecord.sourceVersion + 1
    firstCheckInAt := if FirstIn eventType occurredAt seen then some occurredAt else r.firstCheckInAt
    lastCheckOutAt := if LastOut eventType occurredAt seen then some occurredAt else r.lastCheckOutAt }

def commitEvent (eventId recordId : ℕ) (scope : TenantScope) (employee : Employee)
    (dto : CreateAttendanceEventDto) (occurredAt workDate : ℤ) (seen : Option AttendanceRecord) :
    AttendanceTx Unit := do
  createEvent eventId scope employee dto occurredAt
  let _ ← attendanceRecord.upsert
    ((blankRecord recordId scope employee.id workDate).overwrite scope dto.eventType occurredAt seen)
    fun r => r.overwrite scope dto.eventType occurredAt seen
  summarize ⟨scope.companyId, some scope.branchId, workDate⟩

def eventTransaction (eventId recordId : ℕ) (scope : TenantScope) (employee : Employee)
    (dto : CreateAttendanceEventDto) (occurredAt workDate : ℤ) : AttendanceCall Unit := do
  let seen ← lookup .looked fun db => db.records.find? ⟨employee.id, workDate⟩
  check (seen.all (fun current => current.companyId = scope.companyId &&
    current.branchId = some scope.branchId) = true) (tenantAccessDenied "AttendanceRecord")
  atomically (fun r => match r with
    | .ok _ => .wrote ⟨employee.id, workDate⟩ dto.eventType occurredAt seen
    | .error _ => .looked) (commitEvent eventId recordId scope employee dto occurredAt workDate seen)

variable (distanceMeters : ℚ → ℚ → ℚ → ℚ → ℚ)

def recordCall (eventId recordId : ℕ) (dto : CreateAttendanceEventDto) (user : AuthUser) :
    AttendanceCall Unit := do
  let scope ← look (requireTenantScope user)
  look (assertRequestedScope scope dto.companyId dto.branchId "AttendanceEvent")
  let sameOperation ← look (existingEventForKey scope AttendanceEvent.operationId dto.operationId)
  if sameOperation.isSome = true then pure ()
  else do
    let sameEvent ← look (existingEventForKey scope AttendanceEvent.externalEventId dto.externalEventId)
    if sameEvent.isSome = true then pure ()
    else do
      let employee ← look (scopedEmployee scope dto.employeeId)
      look (checkDevice scope dto.deviceId)
      look (checkGeofence distanceMeters scope dto)
      check (dto.method = .selfieGps → dto.photoObjectKey.any (· ≠ "") = true)
        (.badRequest "Foto selfie wajib untuk metode SELFIE_GPS.")
      let occurredAt ← expect dto.occurredAt (.badRequest "Waktu absensi tidak valid.")
      eventTransaction eventId recordId scope employee dto occurredAt (normalizeWorkDate dto.workDate occurredAt)

/-! ### A call that runs alone -/

lemma solo_look {x : AttendanceTx α} : Solo (look x) x := solo_atomically

variable {scope : TenantScope} {eventType : AttendanceEventType} {occurredAt : ℤ}

lemma overwrite_seen
    {r : AttendanceRecord} (hcompany : r.companyId = scope.companyId)
    (hbranch : r.branchId = some scope.branchId) :
    r.overwrite scope eventType occurredAt (some r) = r.withEvent eventType occurredAt := by
  cases r
  dsimp only at hcompany hbranch
  subst hcompany hbranch
  rfl

variable {recordId : ℕ}

lemma overwrite_found {employeeId : ℕ} {workDate : ℤ} {found : Option AttendanceRecord}
    (hscope : found.all (fun current => current.companyId = scope.companyId &&
      current.branchId = some scope.branchId) = true) :
    found.elim ((blankRecord recordId scope employeeId workDate).overwrite scope eventType occurredAt found)
        (fun r => r.overwrite scope eventType occurredAt found) =
      found.elim ((blankRecord recordId scope employeeId workDate).withEvent eventType occurredAt)
        (fun r => r.withEvent eventType occurredAt) := by
  cases found with
  | none => rfl
  | some r =>
    obtain ⟨hcompany, hbranch⟩ := (Bool.and_eq_true _ _).mp hscope
    exact overwrite_seen (of_decide_eq_true hcompany) (of_decide_eq_true hbranch)

variable {dto : CreateAttendanceEventDto}

lemma solo_eventTransaction {eventId : ℕ} {employee : Employee} {workDate : ℤ} :
    Solo (eventTransaction eventId recordId scope employee dto occurredAt workDate)
      (writeEvent eventId recordId scope employee dto occurredAt workDate) := by
  intro s u s'
  -- the event leaves the record as it was read
  have hseen {t : AttendanceDb} {v : Unit}
      (hcreate : Commits (createEvent eventId scope employee dto occurredAt) s v t) :
      t.records.find? ⟨employee.id, workDate⟩ = s.records.find? ⟨employee.id, workDate⟩ := by
    obtain ⟨_, rfl⟩ := createEvent_commits hcreate
    rfl
  have hrow (found : Option AttendanceRecord) (hscope : found.all (fun current =>
      current.companyId = scope.companyId && current.branchId = some scope.branchId) = true) :
      found.elim ((blankRecord recordId scope employee.id workDate).overwrite scope dto.eventType occurredAt found)
          (fun r => r.overwrite scope dto.eventType occurredAt found) =
        found.elim ((blankRecord recordId scope employee.id workDate).withEvent dto.eventType occurredAt)
          (fun r => r.withEvent dto.eventType occurredAt) := overwrite_found hscope
  simp only [eventTransaction, writeEvent, commitEvent, alone_bind, alone_lookup, alone_check, alone_atomically,
    commits_bind, commits_get, commits_require, TableOf.commits_upsert]
  constructor
  · rintro ⟨_, _, ⟨rfl, rfl⟩, _, _, ⟨hscope, rfl⟩, _, t, hcreate, _, _, ⟨rfl, rfl⟩, hsummary⟩
    rw [← hseen hcreate] at hscope hsummary
    refine ⟨_, t, hcreate, t, t, ⟨rfl, rfl⟩, (), t, ⟨hscope, rfl⟩, _, _, ⟨rfl, rfl⟩, ?_⟩
    exact hrow _ hscope ▸ hsummary
  · rintro ⟨_, t, hcreate, _, _, ⟨rfl, rfl⟩, _, _, ⟨hscope, rfl⟩, _, _, ⟨rfl, rfl⟩, hsummary⟩
    have hsame := hseen hcreate
    refine ⟨_, s, ⟨rfl, rfl⟩, (), s, ⟨hsame ▸ hscope, rfl⟩, _, t, hcreate, _, _, ⟨rfl, rfl⟩, ?_⟩
    rw [← hsame]
    exact (hrow _ hscope).symm ▸ hsummary

lemma solo_recordCall {eventId : ℕ} {user : AuthUser} :
    Solo (recordCall distanceMeters eventId recordId dto user)
      (record distanceMeters eventId recordId dto user) := by
  refine solo_look.bind fun scope => solo_look.bind fun _ => solo_look.bind fun sameOperation => ?_
  refine Solo.ite solo_pure (solo_look.bind fun sameEvent => Solo.ite solo_pure ?_)
  refine solo_look.bind fun employee => solo_look.bind fun _ => solo_look.bind fun _ => ?_
  exact solo_check.bind fun _ => solo_expect.bind fun occurredAt => solo_eventTransaction

end Mayatoko.Attendance
