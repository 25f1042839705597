import Mayatoko.Attendance.Schema
import Mayatoko.Core.Checked
import Mayatoko.Core.Frame

/-!
# Steps of the attendance

What each operation that commits has written.
-/

namespace Mayatoko.Attendance

open Core TableOf AttendanceDb
open Auth (AuthUser)
open Hr (Employee TenantScope Verdict)

variable {distanceMeters : ℚ → ℚ → ℚ → ℚ → ℚ} {db db' : AttendanceDb} {user : AuthUser} {scope : TenantScope}
  {eventId recordId correctionId id : ℕ}

/-! ### Checks -/

@[simp] lemma commits_requireTenantScope :
    Commits (requireTenantScope user) db scope db' ↔ userScope user = some scope ∧ db = db' := by
  rw [requireTenantScope, commits_orThrow]

lemma readOnly_assertRequestedScope {companyId branchId : Option ℕ} {entityType : String} :
    ReadOnly (assertRequestedScope scope companyId branchId entityType) :=
  leaves_require

variable {employeeId : ℕ} {employee : Employee}

lemma scopedEmployee_commits
    (h : Commits (scopedEmployee scope employeeId) db employee db') : db = db' ∧ employee.id = employeeId := by
  simp only [scopedEmployee, commits_steps] at h
  obtain ⟨hfind, rfl⟩ := h
  exact ⟨rfl, (find?_eq_some.mp (Option.filter_eq_some_iff.mp hfind).1).2⟩

lemma readOnly_scopedEmployee : ReadOnly (scopedEmployee scope employeeId) :=
  leaves_get.bind fun _ => leaves_orThrow

lemma readOnly_checkDevice {deviceId : Option ℕ} : ReadOnly (checkDevice scope deviceId) := by
  cases deviceId with
  | none => exact leaves_pure
  | some id => exact (leaves_get.bind fun _ => leaves_orThrow).bind fun _ => leaves_pure

variable {dto : CreateAttendanceEventDto}

lemma readOnly_checkGeofence : ReadOnly (checkGeofence distanceMeters scope dto) := by
  rw [checkGeofence]
  cases dto.geofenceId with
  | none => exact leaves_pure
  | some geofenceId =>
    refine (leaves_get.bind fun _ => leaves_orThrow).bind fun _ => ?_
    refine leaves_orThrow.bind fun _ => leaves_orThrow.bind fun _ => ?_
    exact leaves_require.bind fun _ => leaves_require

variable {key : AttendanceEvent → Option String} {value : Option String}

lemma readOnly_existingEventForKey : ReadOnly (existingEventForKey scope key value) :=
  leaves_get.bind fun _ => leaves_require.bind fun _ => leaves_pure

@[simp] lemma commits_existingEventForKey
    {prior : Option AttendanceEvent} : Commits (existingEventForKey scope key value) db prior db' ↔
      prior = db.eventWith scope key value ∧ prior.all (·.branchId = some scope.branchId) = true ∧ db = db' := by
  simp only [existingEventForKey, commits_bind, commits_get, commits_require, commits_pure]
  constructor
  · rintro ⟨_, _, ⟨rfl, rfl⟩, _, _, ⟨hall, rfl⟩, rfl, rfl⟩
    exact ⟨rfl, hall, rfl⟩
  · rintro ⟨rfl, hall, rfl⟩
    exact ⟨db, db, ⟨rfl, rfl⟩, (), db, ⟨hall, rfl⟩, rfl, rfl⟩

/-! ### Events -/

def AttendanceDb.Repeats (db : AttendanceDb) (scope : TenantScope) (dto : CreateAttendanceEventDto) : Prop :=
  (db.eventWith scope AttendanceEvent.operationId dto.operationId).isSome = true ∨
    (db.eventWith scope AttendanceEvent.externalEventId dto.externalEventId).isSome = true

/-- The record of an employee and a day is none, or of the branch. -/
def AttendanceDb.OwnRecord (db : AttendanceDb) (scope : TenantScope) (key : EmployeeDay) : Prop :=
  ∀ current, db.records.find? key = some current →
    current.companyId = scope.companyId ∧ current.branchId = some scope.branchId

def AttendanceDb.afterEvent (db : AttendanceDb) (recordId : ℕ) (scope : TenantScope) (key : EmployeeDay)
    (eventType : AttendanceEventType) (occurredAt : ℤ) : AttendanceRecord :=
  (db.records.find? key).elim
    ((blankRecord recordId scope key.employeeId key.workDate).withEvent eventType occurredAt)
    fun r => r.withEvent eventType occurredAt

structure Recorded (scope : TenantScope) (key : EmployeeDay) (row : AttendanceRecord)
    (db db' : AttendanceDb) : Prop where
  own : db.OwnRecord scope key
  records : db'.records = db.records.put row
  schedules : db'.schedules = db.schedules
  summaries : ∃ s : DailyAttendanceSummary, s.day = ⟨scope.companyId, some scope.branchId, key.workDate⟩ ∧
    s.toAttendanceTotals = db'.totals s.day ∧ db'.summaries = db.summaries.put s

lemma createEvent_commits {occurredAt : ℤ}
    (h : Commits (createEvent eventId scope employee dto occurredAt) db () db') :
    ∃ events, db' = { db with events } := by
  simp only [createEvent, commits_steps, commits_create] at h
  obtain ⟨_, _, rfl⟩ := h
  exact ⟨_, rfl⟩

lemma summarize_commits {day : Day} (h : Commits (summarize day) db () db') :
    ∃ s : DailyAttendanceSummary, s.day = day ∧ s.toAttendanceTotals = db.totals day ∧
      db' = { db with summaries := db.summaries.put s } := by
  simp only [summarize, commits_bind, commits_get, commits_upsert, commits_pure] at h
  obtain ⟨_, _, ⟨rfl, rfl⟩, s, _, ⟨hs, rfl⟩, _, rfl⟩ := h
  refine ⟨s, ?_, ?_, rfl⟩
  · cases hfind : db.summaries.find? day with
    | none =>
      have hnew : s = { db.totals day with day } := hs.trans (congrArg (Option.elim · _ _) hfind)
      rw [hnew]
    | some o =>
      have hold : s = { o with toAttendanceTotals := db.totals day } :=
        hs.trans (congrArg (Option.elim · _ _) hfind)
      rw [hold]
      exact (find?_eq_some.mp hfind).2
  · cases hfind : db.summaries.find? day with
    | none =>
      have hnew : s = { db.totals day with day } := hs.trans (congrArg (Option.elim · _ _) hfind)
      rw [hnew]
    | some o =>
      have hold : s = { o with toAttendanceTotals := db.totals day } :=
        hs.trans (congrArg (Option.elim · _ _) hfind)
      rw [hold]

lemma writeEvent_commits {occurredAt workDate : ℤ}
    (h : Commits (writeEvent eventId recordId scope employee dto occurredAt workDate) db () db') :
    Recorded scope ⟨employee.id, workDate⟩
      (db.afterEvent recordId scope ⟨employee.id, workDate⟩ dto.eventType occurredAt) db db' := by
  simp only [writeEvent, commits_bind, commits_get, commits_require, commits_upsert] at h
  obtain ⟨_, _, hevent, _, _, ⟨rfl, rfl⟩, _, _, ⟨hown, rfl⟩, row, _, ⟨hrow, rfl⟩, hsummary⟩ := h
  obtain ⟨events, rfl⟩ := createEvent_commits hevent
  obtain ⟨s, hday, htotals, rfl⟩ := summarize_commits hsummary
  have hafter : row = db.afterEvent recordId scope ⟨employee.id, workDate⟩ dto.eventType occurredAt := hrow
  subst hafter
  refine ⟨?_, rfl, rfl, s, hday, htotals.trans ?_, rfl⟩
  · intro current hcurrent
    change (Option.all _ (db.records.find? _)) = true at hown
    rw [hcurrent] at hown
    simpa using hown
  · rw [hday]
    rfl

lemma record_commits
    (h : Commits (record distanceMeters eventId recordId dto user) db () db') :
    ∃ scope, userScope user = some scope ∧ (db.Repeats scope dto ∧ db' = db ∨
      ¬ db.Repeats scope dto ∧ ∃ occurredAt, dto.occurredAt = some occurredAt ∧
        Recorded scope ⟨dto.employeeId, normalizeWorkDate dto.workDate occurredAt⟩
          (db.afterEvent recordId scope ⟨dto.employeeId, normalizeWorkDate dto.workDate occurredAt⟩ dto.eventType
            occurredAt) db db') := by
  simp only [record, commits_steps, commits_requireTenantScope, commits_existingEventForKey, commits_ite] at h
  obtain ⟨scope, hscope, _, _, hrequested, _, _, ⟨rfl, _, rfl⟩, h⟩ := h
  obtain rfl := readOnly_assertRequestedScope.eq hrequested
  refine ⟨scope, hscope, ?_⟩
  obtain ⟨hsame, _, rfl⟩ | ⟨hoperation, _, _, ⟨rfl, _, rfl⟩, h⟩ := h
  · exact .inl ⟨.inl hsame, rfl⟩
  obtain ⟨hsame, _, rfl⟩ | ⟨hexternal, employee, _, hemployee, _, _, hdevice, _, _, hgeofence, _, occurredAt,
    hoccurred, hwrite⟩ := h
  · exact .inl ⟨.inr hsame, rfl⟩
  obtain ⟨rfl, hid⟩ := scopedEmployee_commits hemployee
  obtain rfl := readOnly_checkDevice.eq hdevice
  obtain rfl := readOnly_checkGeofence.eq hgeofence
  have hwritten := writeEvent_commits hwrite
  rw [hid] at hwritten
  exact .inr ⟨not_or.mpr ⟨hoperation, hexternal⟩, occurredAt, hoccurred, hwritten⟩

lemma ingestFingerprint_commits {dto : FingerprintEventDto}
    (h : Commits (ingestFingerprint distanceMeters eventId recordId dto user) db () db') :
    ∃ scope device credential, userScope user = some scope ∧ db.deviceByCode scope dto.deviceCode = some device ∧
      db.activeCredential scope device.id dto.deviceUserCode = some credential ∧
      Commits (record distanceMeters eventId recordId (dto.event scope credential.employeeId device.id) user)
        db () db' := by
  simp only [ingestFingerprint, scopedDeviceByCode, commits_bind, commits_requireTenantScope, commits_get,
    commits_orThrow] at h
  obtain ⟨scope, _, ⟨hscope, rfl⟩, _, _, hrequested, device, _, ⟨_, _, ⟨rfl, rfl⟩, hdevice, rfl⟩, _, _,
    ⟨rfl, rfl⟩,
    credential, _, ⟨hcredential, rfl⟩, _, _, hemployee, hrecord⟩ := h
  obtain rfl := readOnly_assertRequestedScope.eq hrequested
  obtain ⟨rfl, _⟩ := scopedEmployee_commits hemployee
  exact ⟨scope, device, credential, hscope, hdevice, hcredential, hrecord⟩

def AttendanceDb.afterSchedule (db : AttendanceDb) (dto : UpsertEmployeeScheduleDto) (scope : TenantScope) :
    EmployeeSchedule :=
  (db.schedules.find? ⟨dto.employeeId, normalizeWorkDate none dto.workDate⟩).elim
    (dto.row scope dto.employeeId (normalizeWorkDate none dto.workDate)) (dto.patch scope)

lemma upsertSchedule_commits {dto : UpsertEmployeeScheduleDto}
    (h : Commits (upsertSchedule dto user) db () db') :
    ∃ scope, userScope user = some scope ∧
      db' = { db with schedules := db.schedules.put (db.afterSchedule dto scope) } := by
  simp only [upsertSchedule, commits_bind, commits_requireTenantScope, commits_get, commits_require,
    commits_upsert, commits_pure] at h
  obtain ⟨scope, _, ⟨hscope, rfl⟩, employee, _, hemployee, _, _, ⟨_, rfl⟩, _, _, ⟨_, rfl⟩, _, _,
    ⟨rfl, rfl⟩, _, _,
    ⟨_, rfl⟩, row, _, ⟨hrow, rfl⟩, _, rfl⟩ := h
  obtain ⟨rfl, hid⟩ := scopedEmployee_commits hemployee
  rw [hid] at hrow
  obtain rfl : row = db.afterSchedule dto scope := hrow
  exact ⟨scope, hscope, rfl⟩

/-! ### Corrections -/

variable {r : AttendanceRecord}

lemma scopedRecord_commits {recordId : Option ℕ}
    (h : Commits (scopedRecord scope employeeId recordId) db r db') :
    db = db' ∧ db.recordIn scope employeeId recordId = some r := by
  simp only [scopedRecord, commits_steps] at h
  obtain ⟨hfind, rfl⟩ := h
  exact ⟨rfl, hfind⟩

lemma mem_of_recordIn {recordId : Option ℕ}
    (h : db.recordIn scope employeeId recordId = some r) : r ∈ db.records :=
  (mem_findMany.mp (List.mem_of_mem_head? h)).1

lemma submitCorrection_commits {dto : CreateAttendanceCorrectionDto}
    (h : Commits (submitCorrection correctionId dto user) db () db') :
    ∃ corrections, db' = { db with corrections } := by
  simp only [submitCorrection, commits_steps, commits_requireTenantScope, commits_create] at h
  obtain ⟨scope, hscope, employee, _, hemployee, r, _, hrecord, _, _, _, rfl⟩ := h
  obtain ⟨rfl, _⟩ := scopedEmployee_commits hemployee
  obtain ⟨rfl, _⟩ := scopedRecord_commits hrecord
  exact ⟨_, rfl⟩

/-- The fields of a record that no correction touches. -/
structure SameRecord (r r' : AttendanceRecord) : Prop where
  id : r'.id = r.id
  key : r'.key = r.key
  day : r'.day = r.day
  lockedAt : r'.lockedAt = r.lockedAt

lemma reviewCorrection_commits {dto : ReviewAttendanceCorrectionDto}
    (h : Commits (reviewCorrection id dto user) db () db') :
    ∃ scope correction r corrections, userScope user = some scope ∧
      db.openCorrection scope id = some correction ∧
      db.recordIn scope correction.employeeId correction.attendanceRecordId = some r ∧ r.lockedAt = none ∧
      (dto.status ≠ .approved ∧ db' = { db with corrections } ∨
        dto.status = .approved ∧ ∃ r', correctionPatch correction.proposedData r = .ok r' ∧
          db' = { db with records := db.records.put r', corrections }) := by
  simp only [reviewCorrection, applyCorrection, commits_steps, commits_requireTenantScope, commits_ite,
    commits_update] at h
  obtain ⟨scope, hscope, correction, hcorrection, employee, _, hemployee, r, _, hrecord, hunlocked, h⟩ := h
  obtain ⟨rfl, hid⟩ := scopedEmployee_commits hemployee
  obtain ⟨rfl, hr⟩ := scopedRecord_commits hrecord
  rw [hid] at hr
  obtain ⟨happroved, _, _, ⟨r', hpatch, _, _, ⟨_, _, _, rfl⟩, _, rfl⟩, _, _, ⟨_, _, _, rfl⟩, _, rfl⟩ | ⟨hnot,
    _, _, ⟨_, _, rfl, rfl⟩, _, rfl⟩ := h
  · exact ⟨scope, correction, r, _, hscope, hcorrection, hr, hunlocked, .inr ⟨happroved, r', hpatch, rfl⟩⟩
  · exact ⟨scope, correction, r, _, hscope, hcorrection, hr, hunlocked, .inl ⟨hnot, rfl⟩⟩

lemma correctionPatch_same {proposed : ProposedData} {r' : AttendanceRecord}
    (h : correctionPatch proposed r = .ok r') : SameRecord r r' := by
  simp only [correctionPatch, bind_eq_ok, ite_eq_ok] at h
  obtain ⟨_, _, _, _, _, _, _, _, _, _, _, _, _, _, _, _, ⟨_, herror⟩ | ⟨_, hrow⟩⟩ := h
  · cases herror
  · cases hrow
    exact ⟨rfl, rfl, rfl, rfl⟩

inductive AttendanceAction where
  | record (eventId recordId : ℕ) (dto : CreateAttendanceEventDto) (user : AuthUser)
  | ingestFingerprint (eventId recordId : ℕ) (dto : FingerprintEventDto) (user : AuthUser)
  | upsertSchedule (dto : UpsertEmployeeScheduleDto) (user : AuthUser)
  | submitCorrection (correctionId : ℕ) (dto : CreateAttendanceCorrectionDto) (user : AuthUser)
  | reviewCorrection (id : ℕ) (dto : ReviewAttendanceCorrectionDto) (user : AuthUser)

def AttendanceAction.run (distanceMeters : ℚ → ℚ → ℚ → ℚ → ℚ) : AttendanceAction → AttendanceTx Unit
  | .record eventId recordId dto user => Attendance.record distanceMeters eventId recordId dto user
  | .ingestFingerprint eventId recordId dto user =>
    Attendance.ingestFingerprint distanceMeters eventId recordId dto user
  | .upsertSchedule dto user => Attendance.upsertSchedule dto user
  | .submitCorrection correctionId dto user => Attendance.submitCorrection correctionId dto user
  | .reviewCorrection id dto user => Attendance.reviewCorrection id dto user

def AttendanceStep (distanceMeters : ℚ → ℚ → ℚ → ℚ → ℚ) (db : AttendanceDb) (a : AttendanceAction)
    (db' : AttendanceDb) : Prop :=
  Commits (a.run distanceMeters) db () db'

end Mayatoko.Attendance
