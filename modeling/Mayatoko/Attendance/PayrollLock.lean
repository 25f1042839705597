import Mayatoko.Attendance.Steps

/-!
# Records that payroll has locked

A record that payroll has locked should not change in what payroll reads. Corrections look at the lock, and an
event does not: it keeps a locked record exactly if the record is present already and the event is neither a
check-in before the first one nor a check-out after the last.
-/

namespace Mayatoko.Attendance

open Core TableOf AttendanceDb
open Auth (AuthUser)
open Hr (TenantScope)

variable {distanceMeters : ℚ → ℚ → ℚ → ℚ → ℚ} {db db' : AttendanceDb} {user : AuthUser} {scope : TenantScope}
  {eventId recordId : ℕ}

structure PayrollFields where
  status : AttendanceRecordStatus
  (firstCheckInAt lastCheckOutAt : Option ℤ)
  (workedMinutes lateMinutes overtimeMinutes : ℤ)

def AttendanceRecord.payrollFields (r : AttendanceRecord) : PayrollFields where
  status := r.status
  firstCheckInAt := r.firstCheckInAt
  lastCheckOutAt := r.lastCheckOutAt
  workedMinutes := r.workedMinutes
  lateMinutes := r.lateMinutes
  overtimeMinutes := r.overtimeMinutes

def LockedKept (db db' : AttendanceDb) : Prop :=
  ∀ r ∈ db.records, r.lockedAt.isSome = true → ∃ r' ∈ db'.records, SameRecord r r' ∧
    r'.payrollFields = r.payrollFields

lemma lockedKept_of_same (h : db'.records = db.records) : LockedKept db db' := by
  intro r hr _
  rw [h]
  exact ⟨r, hr, ⟨rfl, rfl, rfl, rfl⟩, rfl⟩

variable {o row : AttendanceRecord}

lemma lockedKept_of_unlocked (ho : o ∈ db.records) (hkey : row.key = o.key)
    (hunlocked : o.lockedAt = none) (h : db'.records = db.records.put row) : LockedKept db db' := by
  intro r hr hlocked
  refine ⟨r, ?_, ⟨rfl, rfl, rfl, rfl⟩, rfl⟩
  rw [h]
  refine mem_put.mpr (Or.inr ⟨hr, ?_⟩)
  rw [hkey]
  intro hsame
  rw [eq_of_key_eq hr ho hsame, hunlocked] at hlocked
  cases hlocked

lemma lockedKept_of_new (hnew : db.records.find? row.key = none)
    (h : db'.records = db.records.put row) : LockedKept db db' := by
  intro r hr _
  refine ⟨r, ?_, ⟨rfl, rfl, rfl, rfl⟩, rfl⟩
  rw [h]
  exact mem_put.mpr (Or.inr ⟨hr, find?_eq_none.mp hnew r hr⟩)

lemma lockedKept_put_iff (ho : o ∈ db.records) (hsame : SameRecord o row)
    (hlocked : o.lockedAt.isSome = true) (h : db'.records = db.records.put row) :
    LockedKept db db' ↔ row.payrollFields = o.payrollFields := by
  constructor
  · intro hkept
    obtain ⟨r', hr', hfields, heq⟩ := hkept o ho hlocked
    rw [h] at hr'
    obtain rfl | ⟨_, hne⟩ := mem_put.mp hr'
    · exact heq
    · exact absurd (hfields.key.trans hsame.key.symm) hne
  · intro heq r hr _
    rw [h]
    by_cases hkey : r.key = row.key
    · obtain rfl := eq_of_key_eq hr ho (hkey.trans hsame.key)
      exact ⟨row, mem_put_self _ _, hsame, heq⟩
    · exact ⟨r, mem_put.mpr (Or.inr ⟨hr, hkey⟩), ⟨rfl, rfl, rfl, rfl⟩, rfl⟩

/-! ### Events -/

/-- The record has the event already: it is present, and the event is neither its first check-in nor its last
check-out. -/
def AttendanceRecord.Covers (r : AttendanceRecord) (eventType : AttendanceEventType) (occurredAt : ℤ) : Prop :=
  r.status = .present ∧ (eventType = .checkIn → r.firstCheckInAt.any (· ≤ occurredAt) = true) ∧
    (eventType = .checkOut → r.lastCheckOutAt.any (occurredAt ≤ ·) = true)

lemma ite_some_eq_self {c : Prop} [Decidable c] {old : Option ℤ} {t : ℤ} {worse fine : ℤ → Bool}
    (hworse : ∀ x, worse x = true ↔ ¬ fine x = true) (ht : fine t = true) :
    (if c ∧ old.all worse = true then some t else old) = old ↔ (c → old.any fine = true) := by
  cases old with
  | none => simp
  | some x =>
    rw [Option.all_some, Option.any_some]
    by_cases hx : fine x = true
    · rw [if_neg fun h => (hworse x).mp h.2 hx]
      exact iff_of_true rfl fun _ => hx
    · by_cases hc : c
      · rw [if_pos ⟨hc, (hworse x).mpr hx⟩]
        refine iff_of_false ?_ fun h => hx (h hc)
        rintro ⟨⟩
        exact hx ht
      · rw [if_neg fun h => hc h.1]
        exact iff_of_true rfl fun h => absurd h hc

lemma same_withEvent (r : AttendanceRecord) (eventType : AttendanceEventType) (occurredAt : ℤ) :
    SameRecord r (r.withEvent eventType occurredAt) :=
  ⟨rfl, rfl, rfl, rfl⟩

lemma payrollFields_withEvent {r : AttendanceRecord} {eventType : AttendanceEventType} {occurredAt : ℤ} :
    (r.withEvent eventType occurredAt).payrollFields = r.payrollFields ↔ r.Covers eventType occurredAt := by
  have hfirst : (if eventType = .checkIn ∧ r.firstCheckInAt.all (occurredAt < ·) = true then some occurredAt
      else r.firstCheckInAt) = r.firstCheckInAt ↔
        (eventType = .checkIn → r.firstCheckInAt.any (· ≤ occurredAt) = true) :=
    ite_some_eq_self (fun x => by simp) (by simp)
  have hlast : (if eventType = .checkOut ∧ r.lastCheckOutAt.all (· < occurredAt) = true then some occurredAt
      else r.lastCheckOutAt) = r.lastCheckOutAt ↔
        (eventType = .checkOut → r.lastCheckOutAt.any (occurredAt ≤ ·) = true) :=
    ite_some_eq_self (fun x => by simp) (by simp)
  rw [AttendanceRecord.Covers, ← hfirst, ← hlast]
  simp only [AttendanceRecord.payrollFields, AttendanceRecord.withEvent, PayrollFields.mk.injEq, and_true]
  rw [eq_comm (a := AttendanceRecordStatus.present)]

/-- An event that is not known already is one that a locked record of its day has. -/
def KeepsLockedEvent (db : AttendanceDb) (scope : TenantScope) (dto : CreateAttendanceEventDto) : Prop :=
  ¬ db.Repeats scope dto → ∀ occurredAt, dto.occurredAt = some occurredAt → ∀ r,
    db.records.find? ⟨dto.employeeId, normalizeWorkDate dto.workDate occurredAt⟩ = some r →
    r.lockedAt.isSome = true → r.Covers dto.eventType occurredAt

lemma record_lockedKept_iff {dto : CreateAttendanceEventDto}
    (h : Commits (record distanceMeters eventId recordId dto user) db () db')
    (hscope : userScope user = some scope) :
    LockedKept db db' ↔ KeepsLockedEvent db scope dto := by
  obtain ⟨scope, hscope', hcase⟩ := record_commits h
  obtain rfl := mem_unique hscope hscope'
  obtain ⟨hrepeats, rfl⟩ | ⟨hnew, occurredAt, hoccurred, hrecorded⟩ := hcase
  · exact iff_of_true (lockedKept_of_same rfl) fun hnot => absurd hrepeats hnot
  set key : EmployeeDay := ⟨dto.employeeId, normalizeWorkDate dto.workDate occurredAt⟩
  have hrow := hrecorded.records
  rw [AttendanceDb.afterEvent] at hrow
  have hkeeps : KeepsLockedEvent db scope dto ↔ ∀ r, db.records.find? key = some r → r.lockedAt.isSome = true →
      r.Covers dto.eventType occurredAt := by
    simp only [KeepsLockedEvent, hoccurred, Option.some.injEq, forall_eq', hnew, not_false_eq_true,
      forall_const]
    rfl
  rw [hkeeps]
  cases hfind : db.records.find? key with
  | none =>
    rw [hfind] at hrow
    have hfresh : db.records.find?
        ((blankRecord recordId scope key.employeeId key.workDate).withEvent dto.eventType occurredAt).key = none :=
      hfind
    refine iff_of_true (lockedKept_of_new hfresh hrow) fun r hr => ?_
    cases hr
  | some o =>
    rw [hfind] at hrow
    obtain ⟨ho, _⟩ := find?_eq_some.mp hfind
    have hsame := same_withEvent o dto.eventType occurredAt
    simp only [Option.some.injEq, forall_eq']
    cases hlocked : o.lockedAt with
    | none =>
      refine iff_of_true (lockedKept_of_unlocked ho hsame.key hlocked hrow) fun hsome => ?_
      cases hsome
    | some t =>
      rw [lockedKept_put_iff ho hsame (by rw [hlocked]; rfl) hrow, payrollFields_withEvent]
      simp

def KeepsLocked (db : AttendanceDb) : AttendanceAction → Prop
  | .record _ _ dto user => ∀ scope, userScope user = some scope → KeepsLockedEvent db scope dto
  | .ingestFingerprint _ _ dto user => ∀ scope device credential, userScope user = some scope →
    db.deviceByCode scope dto.deviceCode = some device →
    db.activeCredential scope device.id dto.deviceUserCode = some credential →
    KeepsLockedEvent db scope (dto.event scope credential.employeeId device.id)
  | .upsertSchedule _ _ | .submitCorrection _ _ _ | .reviewCorrection _ _ _ => True

/-- What payroll reads of a locked record never changes in a run exactly if every event is one that the locked
record of its day has already. -/
theorem lockedKept_iff {actions : List AttendanceAction} :
    Run (fun s a s' => AttendanceStep distanceMeters s a s' ∧ LockedKept s s') db actions db' ↔
      Run (Guarded KeepsLocked (AttendanceStep distanceMeters)) db actions db' := by
  refine Run.and_iff_guarded_of_invariant (J := fun _ => True) (fun _ _ _ _ _ => trivial) ?_ trivial
  intro s a s' _ hstep
  cases a with
  | record eventId recordId dto user =>
    obtain ⟨scope, hscope, _⟩ := record_commits hstep
    rw [record_lockedKept_iff hstep hscope, KeepsLocked]
    simp only [hscope, Option.some.injEq, forall_eq']
  | ingestFingerprint eventId recordId dto user =>
    obtain ⟨scope, device, credential, hscope, hdevice, hcredential, hrecord⟩ := ingestFingerprint_commits hstep
    rw [record_lockedKept_iff hrecord hscope, KeepsLocked]
    constructor
    · intro hkeeps scope₂ device₂ credential₂ hscope₂ hdevice₂ hcredential₂
      obtain rfl := mem_unique hscope hscope₂
      obtain rfl := mem_unique hdevice hdevice₂
      obtain rfl := mem_unique hcredential hcredential₂
      exact hkeeps
    · exact fun hkeeps => hkeeps scope device credential hscope hdevice hcredential
  | upsertSchedule dto user =>
    obtain ⟨scope, _, rfl⟩ := upsertSchedule_commits hstep
    exact iff_of_true (lockedKept_of_same rfl) trivial
  | submitCorrection correctionId dto user =>
    obtain ⟨corrections, rfl⟩ := submitCorrection_commits hstep
    exact iff_of_true (lockedKept_of_same rfl) trivial
  | reviewCorrection id dto user =>
    obtain ⟨_, _, r, _, _, _, hr, hunlocked, ⟨_, rfl⟩ | ⟨_, r', hpatch, rfl⟩⟩ := reviewCorrection_commits hstep
    · exact iff_of_true (lockedKept_of_same rfl) trivial
    · exact iff_of_true (lockedKept_of_unlocked (mem_of_recordIn hr) (correctionPatch_same hpatch).key hunlocked rfl)
        trivial

/-! ### An event that comes late -/

def lockedAbsence : AttendanceRecord :=
  { id := 1, companyId := 1, branchId := some 2, employeeId := 4, workDate := 0, status := .absent,
    lockedAt := some 86400000 }

def payrollLocked : AttendanceDb where
  employees := Table.empty.put { id := 4, companyId := 1, branchId := some 2, userId := none }
  shifts := Table.empty
  devices := Table.empty
  geofences := Table.empty
  credentials := Table.empty
  events := Table.empty
  records := Table.empty.put lockedAbsence
  schedules := Table.empty
  corrections := Table.empty
  summaries := Table.empty

def offlineArrival : CreateAttendanceEventDto :=
  { employeeId := 4, eventType := .checkIn, method := .other, occurredAt := some 28800000,
    operationId := some "offline-1" }

def payrollClerk : AuthUser := { sub := 5, sid := none, companyId := some 1, branchId := some 2 }

def afterOfflineArrival : AttendanceDb :=
  (execute (record (fun _ _ _ _ => 0) 1 2 offlineArrival payrollClerk) payrollLocked).2

/-- The locked absence becomes a presence. -/
theorem not_lockedKept_offline : ∃ db,
    Run (AttendanceStep fun _ _ _ _ => 0) payrollLocked [.record 1 2 offlineArrival payrollClerk] db ∧
      db.records.rows.map (fun r => (r.lockedAt, r.status, r.firstCheckInAt)) =
        [(some 86400000, .present, some 28800000)] ∧ ¬ LockedKept payrollLocked db := by
  have hstep : AttendanceStep (fun _ _ _ _ => 0) payrollLocked (.record 1 2 offlineArrival payrollClerk)
      afterOfflineArrival :=
    commits_of_execute (by decide +kernel)
  refine ⟨afterOfflineArrival, Run.cons hstep (Run.nil _), by decide +kernel, fun hkept => ?_⟩
  obtain ⟨r, hr, _, hfields⟩ := hkept lockedAbsence (mem_put_self _ _) rfl
  have hpresent : ∀ x ∈ afterOfflineArrival.records.rows, x.status = .present := by decide +kernel
  have hstatus := congrArg PayrollFields.status hfields
  exact absurd ((hpresent r hr).symm.trans hstatus) (by decide)

end Mayatoko.Attendance
