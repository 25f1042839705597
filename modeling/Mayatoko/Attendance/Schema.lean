import Mathlib.Algebra.Order.Ring.Rat
import Mayatoko.Core.Tally
import Mayatoko.Hr.Requests
import Mayatoko.Hr.Schema

/-!
# Attendance

The tables of `AttendanceService`. A record and a schedule are addressed by their employee and work date, a
summary by its company, branch and date. Instants are milliseconds since the start of 1970, and a work date is
the first instant of a day.

`record`, `ingestFingerprint`, `upsertSchedule`, `submitCorrection` and `reviewCorrection` of
`AttendanceService`. An id is the one that is drawn for a new row. A text is given by what it reads as: an
instant, or a date of the form that `normalizeWorkDate` takes. The distance of two places, which is computed in
floating point, is a parameter.
-/

namespace Mayatoko.Attendance

open Core
open Auth (AuthUser)
open Hr (ApprovalRequestStatus Employee TenantScope)

inductive AttendanceEventType
  | checkIn
  | checkOut
  | breakStart
  | breakEnd
  | overtimeStart
  | overtimeEnd
  deriving DecidableEq

inductive AttendanceMethod
  | fingerprint
  | selfieGps
  /-- One of the others, which nothing is checked for. -/
  | other
  deriving DecidableEq

inductive AttendanceRecordStatus
  | present
  | late
  | earlyLeave
  | absent
  | leave
  | sick
  | holiday
  | offDay
  | incomplete
  | needsReview
  deriving DecidableEq

def AttendanceRecordStatus.ofText : String → Option AttendanceRecordStatus
  | "PRESENT" => some present
  | "LATE" => some late
  | "EARLY_LEAVE" => some earlyLeave
  | "ABSENT" => some absent
  | "LEAVE" => some leave
  | "SICK" => some sick
  | "HOLIDAY" => some holiday
  | "OFF_DAY" => some offDay
  | "INCOMPLETE" => some incomplete
  | "NEEDS_REVIEW" => some needsReview
  | _ => none

structure Day where
  companyId : ℕ
  branchId : Option ℕ
  workDate : ℤ
  deriving DecidableEq

structure EmployeeDay where
  employeeId : ℕ
  workDate : ℤ
  deriving DecidableEq

structure AttendanceRecord where
  (id companyId : ℕ)
  branchId : Option ℕ
  employeeId : ℕ
  workDate : ℤ
  firstCheckInAt : Option ℤ := none
  lastCheckOutAt : Option ℤ := none
  workedMinutes : ℤ := 0
  breakMinutes : ℤ := 0
  lateMinutes : ℤ := 0
  earlyLeaveMinutes : ℤ := 0
  overtimeMinutes : ℤ := 0
  status : AttendanceRecordStatus := .incomplete
  sourceVersion : ℤ := 1
  lockedAt : Option ℤ := none
  notes : Option String := none
  deriving DecidableEq

def AttendanceRecord.key (r : AttendanceRecord) : EmployeeDay := ⟨r.employeeId, r.workDate⟩

def AttendanceRecord.day (r : AttendanceRecord) : Day := ⟨r.companyId, r.branchId, r.workDate⟩

structure EmployeeSchedule where
  companyId : ℕ
  branchId : Option ℕ
  employeeId : ℕ
  workDate : ℤ
  shiftId : Option ℕ := none
  isDayOff : Bool := false
  notes : Option String := none

def EmployeeSchedule.key (r : EmployeeSchedule) : EmployeeDay := ⟨r.employeeId, r.workDate⟩

def EmployeeSchedule.day (r : EmployeeSchedule) : Day := ⟨r.companyId, r.branchId, r.workDate⟩

structure AttendanceTotals where
  (scheduledCount presentCount lateCount absentCount leaveCount incompleteCount : ℕ)
  (workedMinutes overtimeMinutes : ℤ)

structure DailyAttendanceSummary extends AttendanceTotals where
  day : Day

structure AttendanceEvent where
  (id companyId : ℕ)
  branchId : Option ℕ
  employeeId : ℕ
  eventType : AttendanceEventType
  occurredAt : ℤ
  operationId : Option String := none
  externalEventId : Option String := none

structure AttendanceDevice where
  (id companyId : ℕ)
  branchId : Option ℕ
  code : String
  status : String := "ACTIVE"

structure AttendanceGeofence where
  (id companyId : ℕ)
  branchId : Option ℕ
  (latitude longitude : ℚ)
  radiusMeters : ℕ
  allowedAccuracyMeters : Option ℕ := none
  isActive : Bool := true

structure EmployeeBiometricCredential where
  (id companyId employeeId : ℕ)
  attendanceDeviceId : Option ℕ
  deviceUserCode : String
  status : String := "ACTIVE"

structure WorkShift where
  (id companyId : ℕ)
  branchId : Option ℕ
  isActive : Bool := true

inductive ProposedTime
  | null
  | invalid
  | at (time : ℤ)
  deriving DecidableEq

/-- What a correction proposes, each field as `Number`, `Date` or `String` reads it. A number that is none
reads as nothing. -/
structure ProposedData where
  workedMinutes : Option (Option ℚ) := none
  breakMinutes : Option (Option ℚ) := none
  lateMinutes : Option (Option ℚ) := none
  earlyLeaveMinutes : Option (Option ℚ) := none
  overtimeMinutes : Option (Option ℚ) := none
  firstCheckInAt : Option ProposedTime := none
  lastCheckOutAt : Option ProposedTime := none
  status : Option String := none
  notes : Option (Option String) := none
  deriving DecidableEq

structure AttendanceCorrection where
  (id companyId employeeId : ℕ)
  attendanceRecordId : Option ℕ
  requestedById : ℕ
  reason : String
  proposedData : ProposedData
  status : ApprovalRequestStatus := .submitted
  reviewedById : Option ℕ := none
  reviewNotes : Option String := none

structure AttendanceDb where
  employees : Table Employee.id
  shifts : Table WorkShift.id
  devices : Table AttendanceDevice.id
  geofences : Table AttendanceGeofence.id
  credentials : Table EmployeeBiometricCredential.id
  events : Table AttendanceEvent.id
  records : Table AttendanceRecord.key
  schedules : Table EmployeeSchedule.key
  corrections : Table AttendanceCorrection.id
  summaries : Table DailyAttendanceSummary.day

abbrev AttendanceTx := Tx AttendanceDb Failure

namespace AttendanceDb

def attendanceEvent : TableOf AttendanceDb AttendanceEvent.id := ⟨events, fun db t => { db with events := t }⟩

def attendanceRecord : TableOf AttendanceDb AttendanceRecord.key :=
  ⟨records, fun db t => { db with records := t }⟩

def employeeSchedule : TableOf AttendanceDb EmployeeSchedule.key :=
  ⟨schedules, fun db t => { db with schedules := t }⟩

def attendanceCorrection : TableOf AttendanceDb AttendanceCorrection.id :=
  ⟨corrections, fun db t => { db with corrections := t }⟩

def dailyAttendanceSummary : TableOf AttendanceDb DailyAttendanceSummary.day :=
  ⟨summaries, fun db t => { db with summaries := t }⟩

end AttendanceDb

/-! ### Events, rosters and corrections -/

open Core AttendanceDb
open Auth (AuthUser)
open Hr (Employee TenantScope Verdict)

/-- The first instant of the date that is given, or of the day of the event. -/
def normalizeWorkDate (input : Option ℤ) (occurredAt : ℤ) : ℤ := input.getD occurredAt / 86400000 * 86400000

/-! ### The scope of a user -/

def userScope (user : AuthUser) : Option TenantScope :=
  match user.companyId, user.branchId with
  | some companyId, some branchId => some ⟨companyId, branchId⟩
  | _, _ => none

def requireTenantScope (user : AuthUser) : AttendanceTx TenantScope :=
  orThrow (userScope user) (.forbidden "Pengguna belum memiliki company dan branch yang valid.")

def assertRequestedScope (scope : TenantScope) (companyId branchId : Option ℕ) (entityType : String) :
    AttendanceTx Unit :=
  require ((companyId.all (· = scope.companyId) && branchId.all (· = scope.branchId)) = true)
    (tenantAccessDenied entityType)

def scopedEmployee (scope : TenantScope) (employeeId : ℕ) : AttendanceTx Employee := do
  let db ← get
  orThrow ((db.employees.find? employeeId).filter fun e =>
    e.companyId = scope.companyId && e.branchId = some scope.branchId && e.isActive) (tenantAccessDenied "Employee")

def scopedDevice (scope : TenantScope) (deviceId : ℕ) : AttendanceTx AttendanceDevice := do
  let db ← get
  orThrow ((db.devices.find? deviceId).filter fun d =>
      d.companyId = scope.companyId && d.branchId = some scope.branchId && d.status = "ACTIVE")
    (tenantAccessDenied "AttendanceDevice")

def AttendanceDb.deviceByCode (db : AttendanceDb) (scope : TenantScope) (code : String) :
    Option AttendanceDevice :=
  (db.devices.findMany fun d => d.companyId = scope.companyId && d.branchId = some scope.branchId &&
    d.code = code && d.status = "ACTIVE").head?

def scopedDeviceByCode (scope : TenantScope) (deviceCode : String) : AttendanceTx AttendanceDevice := do
  let db ← get
  orThrow (db.deviceByCode scope deviceCode) (tenantAccessDenied "AttendanceDevice")

def scopedGeofence (scope : TenantScope) (geofenceId : ℕ) : AttendanceTx AttendanceGeofence := do
  let db ← get
  orThrow ((db.geofences.find? geofenceId).filter fun g =>
      g.companyId = scope.companyId && g.isActive && g.branchId.all (· = scope.branchId))
    (tenantAccessDenied "AttendanceGeofence")

/-- The event that a key was given to; a key that is empty is none. -/
def AttendanceDb.eventWith (db : AttendanceDb) (scope : TenantScope) (key : AttendanceEvent → Option String)
    (value : Option String) : Option AttendanceEvent :=
  (db.events.findMany fun e =>
    (value.filter (· ≠ "")).isSome && e.companyId = scope.companyId && key e = value).head?

def existingEventForKey (scope : TenantScope) (key : AttendanceEvent → Option String) (value : Option String) :
    AttendanceTx (Option AttendanceEvent) := do
  let db ← get
  let prior := db.eventWith scope key value
  require (prior.all (·.branchId = some scope.branchId) = true) (tenantAccessDenied "AttendanceEvent")
  pure prior

/-! ### Events -/

structure CreateAttendanceEventDto where
  companyId : Option ℕ := none
  branchId : Option ℕ := none
  employeeId : ℕ
  eventType : AttendanceEventType
  method : AttendanceMethod
  occurredAt : Option ℤ
  workDate : Option ℤ := none
  deviceId : Option ℕ := none
  geofenceId : Option ℕ := none
  operationId : Option String := none
  externalEventId : Option String := none
  latitude : Option ℚ := none
  longitude : Option ℚ := none
  accuracyMeters : Option ℚ := none
  photoObjectKey : Option String := none

variable (distanceMeters : ℚ → ℚ → ℚ → ℚ → ℚ)

def checkDevice (scope : TenantScope) (deviceId : Option ℕ) : AttendanceTx Unit :=
  match deviceId with
  | none => pure ()
  | some id => do
    let _ ← scopedDevice scope id

def checkGeofence (scope : TenantScope) (dto : CreateAttendanceEventDto) : AttendanceTx Unit :=
  match dto.geofenceId with
  | none => pure ()
  | some geofenceId => do
    let geofence ← scopedGeofence scope geofenceId
    let latitude ← orThrow dto.latitude (.badRequest "Koordinat wajib untuk absensi geofence.")
    let longitude ← orThrow dto.longitude (.badRequest "Koordinat wajib untuk absensi geofence.")
    let allowed : ℕ := geofence.allowedAccuracyMeters.getD 0
    require (allowed = 0 ∨ dto.accuracyMeters.getD 9007199254740991 ≤ allowed)
      (.badRequest "Akurasi lokasi tidak memenuhi kebijakan absensi.")
    let distance := distanceMeters latitude longitude geofence.latitude geofence.longitude
    let rounded := (distance + 1 / 2).floor
    require (distance ≤ geofence.radiusMeters)
      (.badRequest s!"Lokasi berada di luar geofence ({rounded} meter).")

/-- The event with its keys, which no other event of the company has. -/
def createEvent (eventId : ℕ) (scope : TenantScope) (employee : Employee) (dto : CreateAttendanceEventDto)
    (occurredAt : ℤ) : AttendanceTx Unit := do
  let db ← get
  require ((db.events.rows.any fun e => e.companyId = scope.companyId &&
    (dto.operationId.isSome && e.operationId = dto.operationId ||
      dto.externalEventId.isSome && e.externalEventId = dto.externalEventId)) = false) .uniqueViolation
  attendanceEvent.create
    { id := eventId, companyId := scope.companyId, branchId := some scope.branchId, employeeId := employee.id,
      eventType := dto.eventType, occurredAt, operationId := dto.operationId,
      externalEventId := dto.externalEventId }
    .uniqueViolation

/-- The fields of a record that an event sets: it is the first check-in, or the last check-out, or neither. -/
def AttendanceRecord.withEvent (r : AttendanceRecord) (eventType : AttendanceEventType) (occurredAt : ℤ) :
    AttendanceRecord :=
  { r with
    status := .present
    sourceVersion := r.sourceVersion + 1
    firstCheckInAt :=
      if eventType = .checkIn ∧ r.firstCheckInAt.all (occurredAt < ·) = true then some occurredAt
      else r.firstCheckInAt
    lastCheckOutAt :=
      if eventType = .checkOut ∧ r.lastCheckOutAt.all (· < occurredAt) = true then some occurredAt
      else r.lastCheckOutAt }

/-- The record of an employee and a day before its first event. -/
def blankRecord (recordId : ℕ) (scope : TenantScope) (employeeId : ℕ) (workDate : ℤ) : AttendanceRecord :=
  { id := recordId, companyId := scope.companyId, branchId := some scope.branchId, employeeId, workDate,
    sourceVersion := 0 }

/-! ### The summary of a day -/

structure StatusGroup where
  status : AttendanceRecordStatus
  count : ℕ
  (workedMinutes overtimeMinutes : ℤ)

def statusGroup (rows : List AttendanceRecord) (status : AttendanceRecordStatus) : StatusGroup :=
  let members := rows.filter (·.status = status)
  ⟨status, members.length, (members.map AttendanceRecord.workedMinutes).sum,
    (members.map AttendanceRecord.overtimeMinutes).sum⟩

def groupByStatus (rows : List AttendanceRecord) : List StatusGroup :=
  (keysOf AttendanceRecord.status rows).map (statusGroup rows)

def countOf (grouped : List StatusGroup) (statuses : List AttendanceRecordStatus) : ℕ :=
  ((grouped.filter fun g => statuses.contains g.status).map StatusGroup.count).sum

/-- The rows in the group of a status, if there is one. -/
def countAt (grouped : List StatusGroup) (status : AttendanceRecordStatus) : ℕ :=
  ((grouped.find? fun g => g.status = status).map StatusGroup.count).getD 0

def AttendanceDb.totals (db : AttendanceDb) (day : Day) : AttendanceTotals :=
  let grouped := groupByStatus (db.records.findMany fun r => r.day = day)
  { scheduledCount := (db.schedules.findMany fun s => s.day = day && !s.isDayOff).length
    presentCount := countOf grouped [.present, .late, .earlyLeave]
    lateCount := countAt grouped .late
    absentCount := countAt grouped .absent
    leaveCount := countOf grouped [.leave, .sick]
    incompleteCount := countOf grouped [.incomplete, .needsReview]
    workedMinutes := (grouped.map StatusGroup.workedMinutes).sum
    overtimeMinutes := (grouped.map StatusGroup.overtimeMinutes).sum }

def summarize (day : Day) : AttendanceTx Unit := do
  let db ← get
  let totals := db.totals day
  let _ ← dailyAttendanceSummary.upsert { totals with day } fun s => { s with toAttendanceTotals := totals }

def writeEvent (eventId recordId : ℕ) (scope : TenantScope) (employee : Employee)
    (dto : CreateAttendanceEventDto) (occurredAt workDate : ℤ) : AttendanceTx Unit := do
  createEvent eventId scope employee dto occurredAt
  let db ← get
  require ((db.records.find? ⟨employee.id, workDate⟩).all (fun current =>
    current.companyId = scope.companyId && current.branchId = some scope.branchId) = true)
    (tenantAccessDenied "AttendanceRecord")
  let _ ← attendanceRecord.upsert
    ((blankRecord recordId scope employee.id workDate).withEvent dto.eventType occurredAt)
    fun r => r.withEvent dto.eventType occurredAt
  summarize ⟨scope.companyId, some scope.branchId, workDate⟩

def record (eventId recordId : ℕ) (dto : CreateAttendanceEventDto) (user : AuthUser) : AttendanceTx Unit := do
  let scope ← requireTenantScope user
  assertRequestedScope scope dto.companyId dto.branchId "AttendanceEvent"
  let sameOperation ← existingEventForKey scope AttendanceEvent.operationId dto.operationId
  if sameOperation.isSome = true then pure ()
  else do
    let sameEvent ← existingEventForKey scope AttendanceEvent.externalEventId dto.externalEventId
    if sameEvent.isSome = true then pure ()
    else do
      let employee ← scopedEmployee scope dto.employeeId
      checkDevice scope dto.deviceId
      checkGeofence distanceMeters scope dto
      require (dto.method = .selfieGps → dto.photoObjectKey.any (· ≠ "") = true)
        (.badRequest "Foto selfie wajib untuk metode SELFIE_GPS.")
      let occurredAt ← orThrow dto.occurredAt (.badRequest "Waktu absensi tidak valid.")
      writeEvent eventId recordId scope employee dto occurredAt (normalizeWorkDate dto.workDate occurredAt)

structure FingerprintEventDto where
  companyId : Option ℕ := none
  branchId : Option ℕ := none
  (deviceCode deviceUserCode externalEventId : String)
  occurredAt : Option ℤ
  eventType : AttendanceEventType

def AttendanceDb.activeCredential (db : AttendanceDb) (scope : TenantScope) (deviceId : ℕ)
    (deviceUserCode : String) : Option EmployeeBiometricCredential :=
  (db.credentials.findMany fun c => c.companyId = scope.companyId && c.attendanceDeviceId = some deviceId &&
    c.deviceUserCode = deviceUserCode && c.status = "ACTIVE").head?

def FingerprintEventDto.event (dto : FingerprintEventDto) (scope : TenantScope) (employeeId deviceId : ℕ) :
    CreateAttendanceEventDto :=
  { companyId := some scope.companyId, branchId := some scope.branchId, employeeId, eventType := dto.eventType,
    method := .fingerprint, occurredAt := dto.occurredAt, deviceId := some deviceId,
    externalEventId := some dto.externalEventId }

def ingestFingerprint (eventId recordId : ℕ) (dto : FingerprintEventDto) (user : AuthUser) :
    AttendanceTx Unit := do
  let scope ← requireTenantScope user
  assertRequestedScope scope dto.companyId dto.branchId "AttendanceDeviceEvent"
  let device ← scopedDeviceByCode scope dto.deviceCode
  let db ← get
  let credential ← orThrow (db.activeCredential scope device.id dto.deviceUserCode)
    (tenantAccessDenied "EmployeeBiometricCredential")
  let _ ← scopedEmployee scope credential.employeeId
  record distanceMeters eventId recordId (dto.event scope credential.employeeId device.id) user

structure UpsertEmployeeScheduleDto where
  employeeId : ℕ
  workDate : ℤ
  shiftId : Option ℕ := none
  isDayOff : Option Bool := none
  notes : Option String := none

def UpsertEmployeeScheduleDto.row (dto : UpsertEmployeeScheduleDto) (scope : TenantScope) (employeeId : ℕ)
    (workDate : ℤ) : EmployeeSchedule :=
  { companyId := scope.companyId, branchId := some scope.branchId, employeeId, workDate,
    shiftId := dto.shiftId, isDayOff := dto.isDayOff.getD false, notes := dto.notes }

def UpsertEmployeeScheduleDto.patch (dto : UpsertEmployeeScheduleDto) (scope : TenantScope)
    (r : EmployeeSchedule) : EmployeeSchedule :=
  { r with
    branchId := some scope.branchId
    shiftId := dto.shiftId
    isDayOff := dto.isDayOff.getD false
    notes := dto.notes.or r.notes }

def upsertSchedule (dto : UpsertEmployeeScheduleDto) (user : AuthUser) : AttendanceTx Unit := do
  let scope ← requireTenantScope user
  let employee ← scopedEmployee scope dto.employeeId
  let workDate := normalizeWorkDate none dto.workDate
  require (¬ (dto.isDayOff.getD false = true ∧ dto.shiftId.isSome = true))
    (.badRequest "Hari libur tidak boleh sekaligus memiliki shift.")
  require (dto.isDayOff.getD false = true ∨ dto.shiftId.isSome = true)
    (.badRequest "Roster hari kerja wajib memilih WorkShift.")
  let db ← get
  require (dto.shiftId.all (fun shiftId => (db.shifts.find? shiftId).any fun s =>
    s.companyId = scope.companyId && s.isActive && s.branchId.all (· = scope.branchId)) = true)
    (tenantAccessDenied "WorkShift")
  let _ ← employeeSchedule.upsert (dto.row scope employee.id workDate) (dto.patch scope)

/-! ### Corrections -/

structure CreateAttendanceCorrectionDto where
  (employeeId attendanceRecordId : ℕ)
  reason : String
  proposedData : ProposedData

def AttendanceDb.recordIn (db : AttendanceDb) (scope : TenantScope) (employeeId : ℕ) (recordId : Option ℕ) :
    Option AttendanceRecord :=
  (db.records.findMany fun r => some r.id = recordId && r.companyId = scope.companyId &&
    r.branchId = some scope.branchId && r.employeeId = employeeId).head?

def scopedRecord (scope : TenantScope) (employeeId : ℕ) (recordId : Option ℕ) :
    AttendanceTx AttendanceRecord := do
  let db ← get
  orThrow (db.recordIn scope employeeId recordId) (tenantAccessDenied "AttendanceRecord")

def submitCorrection (correctionId : ℕ) (dto : CreateAttendanceCorrectionDto) (user : AuthUser) :
    AttendanceTx Unit := do
  let scope ← requireTenantScope user
  let employee ← scopedEmployee scope dto.employeeId
  let record ← scopedRecord scope employee.id (some dto.attendanceRecordId)
  require (record.lockedAt = none) (.badRequest
    "AttendanceRecord sudah dikunci payroll; gunakan payroll adjustment workflow, bukan koreksi absensi langsung.")
  let db ← get
  require ((db.corrections.rows.any fun c => c.companyId = scope.companyId &&
    c.attendanceRecordId = some record.id && c.status = .submitted) = false)
    (.conflict "AttendanceRecord sudah memiliki koreksi SUBMITTED yang belum diputuskan.")
  attendanceCorrection.create
    { id := correctionId, companyId := scope.companyId, employeeId := employee.id,
      attendanceRecordId := some record.id, requestedById := user.sub, reason := dto.reason,
      proposedData := dto.proposedData }
    .uniqueViolation

def patchMinutes (key : String) (proposed : Option (Option ℚ)) (old : ℤ) : Except Failure ℤ :=
  match proposed with
  | none => .ok old
  | some value =>
    match value.filter fun n => n.den = 1 ∧ 0 ≤ n with
    | none => .error (.badRequest s!"{key} koreksi harus bilangan bulat >= 0.")
    | some n => .ok n.num

def patchTime (key : String) (proposed : Option ProposedTime) (old : Option ℤ) : Except Failure (Option ℤ) :=
  match proposed with
  | none => .ok old
  | some .null => .ok none
  | some .invalid => .error (.badRequest s!"{key} koreksi tidak valid.")
  | some (.at time) => .ok (some time)

def patchStatus (proposed : Option String) (old : AttendanceRecordStatus) :
    Except Failure AttendanceRecordStatus :=
  match proposed with
  | none => .ok old
  | some text =>
    match AttendanceRecordStatus.ofText text with
    | none => .error (.badRequest "Status AttendanceRecord koreksi tidak didukung.")
    | some status => .ok status

def correctionPatch (proposed : ProposedData) (r : AttendanceRecord) : Except Failure AttendanceRecord := do
  let workedMinutes ← patchMinutes "workedMinutes" proposed.workedMinutes r.workedMinutes
  let breakMinutes ← patchMinutes "breakMinutes" proposed.breakMinutes r.breakMinutes
  let lateMinutes ← patchMinutes "lateMinutes" proposed.lateMinutes r.lateMinutes
  let earlyLeaveMinutes ← patchMinutes "earlyLeaveMinutes" proposed.earlyLeaveMinutes r.earlyLeaveMinutes
  let overtimeMinutes ← patchMinutes "overtimeMinutes" proposed.overtimeMinutes r.overtimeMinutes
  let firstCheckInAt ← patchTime "firstCheckInAt" proposed.firstCheckInAt r.firstCheckInAt
  let lastCheckOutAt ← patchTime "lastCheckOutAt" proposed.lastCheckOutAt r.lastCheckOutAt
  let status ← patchStatus proposed.status r.status
  if proposed = {} then
    .error (.badRequest "proposedData tidak memiliki field AttendanceRecord yang dapat dikoreksi.")
  else
    .ok { r with
      workedMinutes, breakMinutes, lateMinutes, earlyLeaveMinutes, overtimeMinutes, firstCheckInAt,
      lastCheckOutAt, status, notes := proposed.notes.getD r.notes, sourceVersion := r.sourceVersion + 1 }

structure ReviewAttendanceCorrectionDto where
  status : Verdict
  reviewNotes : Option String := none

def applyCorrection (correction : AttendanceCorrection) (record : AttendanceRecord) : AttendanceTx Unit := do
  let corrected ← ofExcept (correctionPatch correction.proposedData record)
  let _ ← attendanceRecord.update record.key (fun _ => corrected) .recordNotFound

def AttendanceDb.openCorrection (db : AttendanceDb) (scope : TenantScope) (id : ℕ) :
    Option AttendanceCorrection :=
  (db.corrections.find? id).filter fun c => c.companyId = scope.companyId && c.status = .submitted

def reviewCorrection (id : ℕ) (dto : ReviewAttendanceCorrectionDto) (user : AuthUser) : AttendanceTx Unit := do
  let scope ← requireTenantScope user
  let db ← get
  let correction ← orThrow (db.openCorrection scope id)
    (.badRequest "AttendanceCorrection tidak ditemukan atau sudah diputuskan.")
  let employee ← scopedEmployee scope correction.employeeId
  let record ← scopedRecord scope employee.id correction.attendanceRecordId
  require (record.lockedAt = none) (.badRequest
    "AttendanceRecord sudah dikunci payroll; koreksi tidak boleh mengubah periode payroll terkunci.")
  if dto.status = .approved then applyCorrection correction record else pure ()
  let _ ← attendanceCorrection.update id (fun c => { c with
      status := dto.status.requestStatus
      reviewedById := some user.sub
      reviewNotes := dto.reviewNotes.or c.reviewNotes }) .recordNotFound

end Mayatoko.Attendance
