import Mathlib.Algebra.BigOperators.Pi
import Mathlib.Algebra.BigOperators.Ring.Finset
import Mayatoko.Attendance.Steps

/-!
# The summary of a day

A summary should hold what the records and the rosters of its day come to. An event writes the summary of its
day after the record, and no row of another day changes. A roster and an approved correction write no summary,
so they keep it exactly where no summary counts the row otherwise than before.
-/

namespace Mayatoko.Attendance

open Core TableOf AttendanceDb

variable {distanceMeters : ℚ → ℚ → ℚ → ℚ → ℚ} {db db' : AttendanceDb} {day : Day}

/-! ### Shares -/

inductive Column
  | scheduled
  | present
  | late
  | absent
  | leave
  | incomplete
  | workedMinutes
  | overtimeMinutes
  deriving DecidableEq

def AttendanceTotals.column (t : AttendanceTotals) : Column → ℤ
  | .scheduled => t.scheduledCount
  | .present => t.presentCount
  | .late => t.lateCount
  | .absent => t.absentCount
  | .leave => t.leaveCount
  | .incomplete => t.incompleteCount
  | .workedMinutes => t.workedMinutes
  | .overtimeMinutes => t.overtimeMinutes

def Column.statuses : Column → List AttendanceRecordStatus
  | present => [.present, .late, .earlyLeave]
  | late => [.late]
  | absent => [.absent]
  | leave => [.leave, .sick]
  | incomplete => [.incomplete, .needsReview]
  | scheduled | workedMinutes | overtimeMinutes => []

def AttendanceRecord.share (r : AttendanceRecord) : Column → ℤ
  | .workedMinutes => r.workedMinutes
  | .overtimeMinutes => r.overtimeMinutes
  | c => if c.statuses.contains r.status = true then 1 else 0

/-- A roster adds to the first column, unless it is for a day off. -/
def EmployeeSchedule.share (r : EmployeeSchedule) : Column → ℤ
  | .scheduled => if r.isDayOff = true then 0 else 1
  | _ => 0

def AttendanceRecord.shareAt (day : Day) (r : AttendanceRecord) : Column → ℤ :=
  if r.day = day then r.share else 0

def EmployeeSchedule.shareAt (day : Day) (r : EmployeeSchedule) : Column → ℤ :=
  if r.day = day then r.share else 0

def AttendanceDb.aggregate (db : AttendanceDb) (day : Day) : Column → ℤ :=
  db.records.sum (AttendanceRecord.shareAt day) + db.schedules.sum (EmployeeSchedule.shareAt day)

def AttendanceDb.Materialized (db : AttendanceDb) : Prop :=
  ∀ s ∈ db.summaries, s.column = db.aggregate s.day

/-! ### Groups -/

lemma count_statusGroup (rows : List AttendanceRecord) (status : AttendanceRecordStatus) :
    ((statusGroup rows status).count : ℤ) = totalOf AttendanceRecord.status (fun _ => (1 : ℤ)) rows status := by
  rw [← sum_group]
  simp [statusGroup]

lemma countOf_eq (rows : List AttendanceRecord) (statuses : List AttendanceRecordStatus) :
    (countOf (groupByStatus rows) statuses : ℤ) =
      (rows.map fun r => if statuses.contains r.status = true then (1 : ℤ) else 0).sum := by
  rw [← sum_groups rows fun s => statuses.contains s, countOf, groupByStatus, List.filter_map, map_map,
    Nat.cast_list_sum, map_map]
  exact congrArg List.sum (map_congr_left fun s _ => count_statusGroup rows s)

lemma countAt_eq (rows : List AttendanceRecord) (status : AttendanceRecordStatus) :
    (countAt (groupByStatus rows) status : ℤ) =
      (rows.map fun r => if [status].contains r.status = true then (1 : ℤ) else 0).sum := by
  have htotal : (rows.map fun r => if [status].contains r.status = true then (1 : ℤ) else 0).sum =
      totalOf AttendanceRecord.status (fun _ => (1 : ℤ)) rows status := by
    rw [totalOf]
    refine congrArg List.sum (map_congr_left fun r _ => ?_)
    simp
  rw [htotal, countAt, groupByStatus, List.find?_map]
  cases hfind : (keysOf AttendanceRecord.status rows).find?
      ((fun g : StatusGroup => decide (g.status = status)) ∘ statusGroup rows) with
  | none =>
    have hnone (r : AttendanceRecord) (hr : r ∈ rows) : r.status ≠ status := by
      have hkey := List.find?_eq_none.mp hfind r.status (mem_keysOf.mpr ⟨r, hr, rfl⟩)
      exact fun h => hkey (decide_eq_true h)
    rw [totalOf_eq_zero hnone]
    rfl
  | some s =>
    have hs := List.find?_some hfind
    obtain rfl : s = status := of_decide_eq_true hs
    exact count_statusGroup rows s

lemma sum_minutes (rows : List AttendanceRecord) {f : StatusGroup → ℤ} {g : AttendanceRecord → ℤ}
    (hf : ∀ status, f (statusGroup rows status) = totalOf AttendanceRecord.status g rows status) :
    ((groupByStatus rows).map f).sum = (rows.map g).sum := by
  have hall : (((keysOf AttendanceRecord.status rows).filter fun _ => true).map
      (totalOf AttendanceRecord.status g rows)).sum = (rows.map fun r => if true = true then g r else 0).sum :=
    sum_groups rows fun _ => true
  simp only [List.filter_true, if_true] at hall
  rw [← hall, groupByStatus, map_map]
  exact congrArg List.sum (map_congr_left fun s _ => hf s)

lemma sum_shares {ρ κ : Type} {key : ρ → κ} (t : Table key) (f : ρ → Column → ℤ) (c : Column) :
    t.sum f c = t.sum fun r => f r c := by
  rw [Table.sum, Pi.list_sum_apply, map_map]
  rfl

lemma sum_records (db : AttendanceDb) (day : Day) (c : Column) :
    db.records.sum (AttendanceRecord.shareAt day) c =
      ((db.records.findMany fun r => r.day = day).map fun r => r.share c).sum := by
  rw [sum_shares, Table.sum_findMany]
  refine Table.sum_congr fun r _ => ?_
  rw [AttendanceRecord.shareAt]
  by_cases hday : r.day = day
  · rw [if_pos hday, if_pos (decide_eq_true hday)]
  · rw [if_neg hday, if_neg (by simpa using hday)]
    rfl

lemma sum_schedules (db : AttendanceDb) (day : Day) (c : Column) :
    db.schedules.sum (EmployeeSchedule.shareAt day) c =
      if c = .scheduled then ((db.schedules.findMany fun s => s.day = day && !s.isDayOff).length : ℤ) else 0 := by
  rw [sum_shares]
  by_cases hc : c = .scheduled
  · rw [if_pos hc, Table.length_findMany]
    refine Table.sum_congr fun s _ => ?_
    subst hc
    by_cases hday : s.day = day
    · cases hoff : s.isDayOff
      all_goals simp [EmployeeSchedule.shareAt, EmployeeSchedule.share, hday, hoff]
    · simp [EmployeeSchedule.shareAt, hday]
  · rw [if_neg hc]
    refine Table.sum_eq_zero fun s _ => ?_
    rw [EmployeeSchedule.shareAt]
    split
    · cases c with
      | scheduled => exact absurd rfl hc
      | _ => rfl
    · rfl

lemma column_totals (db : AttendanceDb) (day : Day) : (db.totals day).column = db.aggregate day := by
  funext c
  rw [AttendanceDb.aggregate, Pi.add_apply, sum_records, sum_schedules]
  cases c with
  | scheduled =>
    rw [if_pos rfl, List.sum_eq_zero, zero_add]
    · rfl
    · intro x hx
      obtain ⟨r, _, rfl⟩ := mem_map.mp hx
      rfl
  | workedMinutes =>
    rw [if_neg (by decide), add_zero]
    exact sum_minutes _ fun status => sum_group _ status
  | overtimeMinutes =>
    rw [if_neg (by decide), add_zero]
    exact sum_minutes _ fun status => sum_group _ status
  | present | leave | incomplete =>
    rw [if_neg (by decide), add_zero]
    exact countOf_eq _ _
  | late | absent =>
    rw [if_neg (by decide), add_zero]
    exact countAt_eq _ _

/-! ### Writes -/

lemma aggregate_records {row : AttendanceRecord} (hdb : db'.records = db.records.put row)
    (hschedules : db'.schedules = db.schedules) :
    db'.aggregate day = db.aggregate day +
      (row.shareAt day - ((db.records.find? row.key).map (AttendanceRecord.shareAt day)).getD 0) := by
  rw [AttendanceDb.aggregate, AttendanceDb.aggregate, hdb, hschedules, Table.sum_put]
  abel

lemma aggregate_schedules {row : EmployeeSchedule} (hdb : db'.schedules = db.schedules.put row)
    (hrecords : db'.records = db.records) :
    db'.aggregate day = db.aggregate day +
      (row.shareAt day - ((db.schedules.find? row.key).map (EmployeeSchedule.shareAt day)).getD 0) := by
  rw [AttendanceDb.aggregate, AttendanceDb.aggregate, hdb, hrecords, Table.sum_put]
  abel

lemma materialized_of_same (hsum : db.Materialized) (hsummaries : db'.summaries = db.summaries)
    {δ : Day → Column → ℤ} (hδ : ∀ day, db'.aggregate day = db.aggregate day + δ day) :
    db'.Materialized ↔ ∀ s ∈ db.summaries, δ s.day = 0 := by
  rw [AttendanceDb.Materialized, hsummaries]
  refine forall₂_congr fun s hs => ?_
  rw [hδ, hsum s hs, left_eq_add]

variable {recordId : ℕ} {scope : Hr.TenantScope} {key : EmployeeDay} {eventType : AttendanceEventType}
  {occurredAt : ℤ}

lemma afterEvent_key : (db.afterEvent recordId scope key eventType occurredAt).key = key := by
  rw [AttendanceDb.afterEvent]
  cases hfind : db.records.find? key with
  | none => rfl
  | some r => exact (find?_eq_some.mp hfind).2

lemma day_of_own {r : AttendanceRecord}
    (hown : db.OwnRecord scope key) (hfind : db.records.find? key = some r) :
    r.day = ⟨scope.companyId, some scope.branchId, key.workDate⟩ := by
  obtain ⟨hcompany, hbranch⟩ := hown r hfind
  have hkey : r.key = key := (find?_eq_some.mp hfind).2
  change (⟨r.companyId, r.branchId, r.key.workDate⟩ : Day) = _
  rw [hcompany, hbranch, hkey]

lemma afterEvent_day (hown : db.OwnRecord scope key) :
    (db.afterEvent recordId scope key eventType occurredAt).day =
      ⟨scope.companyId, some scope.branchId, key.workDate⟩ := by
  rw [AttendanceDb.afterEvent]
  cases hfind : db.records.find? key with
  | none => rfl
  | some r =>
    change r.day = _
    exact day_of_own hown hfind

lemma Recorded.materialized
    (h : Recorded scope key (db.afterEvent recordId scope key eventType occurredAt) db db')
    (hsum : db.Materialized) : db'.Materialized := by
  obtain ⟨s, hday, htotals, hsummaries⟩ := h.summaries
  intro x hx
  rw [hsummaries] at hx
  obtain rfl | ⟨hx, hne⟩ := mem_put.mp hx
  · rw [htotals, column_totals]
  · have hother : ((db.records.find? key).map (AttendanceRecord.shareAt x.day)).getD 0 = 0 := by
      cases hfind : db.records.find? key with
      | none => rfl
      | some r =>
        change r.shareAt x.day = 0
        rw [AttendanceRecord.shareAt, day_of_own h.own hfind, ← hday, if_neg (Ne.symm hne)]
    have hrow : (db.afterEvent recordId scope key eventType occurredAt).shareAt x.day = 0 := by
      rw [AttendanceRecord.shareAt, afterEvent_day h.own, ← hday, if_neg (Ne.symm hne)]
    rw [aggregate_records h.records h.schedules, hrow, afterEvent_key, hother, sub_zero, add_zero]
    exact hsum x hx

/-- The actions after which the summaries are right: no summary counts the roster otherwise than the one it
replaces, nor the record that is corrected otherwise than before. -/
def KeepsSummaries (db : AttendanceDb) : AttendanceAction → Prop
  | .upsertSchedule dto user => ∀ scope, userScope user = some scope → ∀ s ∈ db.summaries,
    (db.afterSchedule dto scope).shareAt s.day =
      ((db.schedules.find? ⟨dto.employeeId, normalizeWorkDate none dto.workDate⟩).map
        (EmployeeSchedule.shareAt s.day)).getD 0
  | .reviewCorrection id dto user => dto.status = .approved → ∀ scope correction r r',
    userScope user = some scope → db.openCorrection scope id = some correction →
      db.recordIn scope correction.employeeId correction.attendanceRecordId = some r →
      correctionPatch correction.proposedData r = .ok r' → ∀ s ∈ db.summaries, s.day = r.day → r'.share = r.share
  | .record _ _ _ _ | .ingestFingerprint _ _ _ _ | .submitCorrection _ _ _ => True

lemma record_materialized {eventId : ℕ} {dto : CreateAttendanceEventDto} {user : Auth.AuthUser}
    (h : Commits (record distanceMeters eventId recordId dto user) db () db') (hsum : db.Materialized) :
    db'.Materialized := by
  obtain ⟨scope, _, ⟨_, rfl⟩ | ⟨_, occurredAt, _, hrecorded⟩⟩ := record_commits h
  · exact hsum
  · exact hrecorded.materialized hsum

lemma afterSchedule_key {dto : UpsertEmployeeScheduleDto} :
    (db.afterSchedule dto scope).key = ⟨dto.employeeId, normalizeWorkDate none dto.workDate⟩ := by
  rw [AttendanceDb.afterSchedule]
  cases hfind : db.schedules.find? ⟨dto.employeeId, normalizeWorkDate none dto.workDate⟩ with
  | none => rfl
  | some r => exact (find?_eq_some.mp hfind).2

/-- The summaries hold what their rows come to throughout a run exactly if every roster and every approved
correction leaves them as they are. -/
theorem materialized_iff {actions : List AttendanceAction} (hsum : db.Materialized) :
    Run (Landing AttendanceDb.Materialized (AttendanceStep distanceMeters)) db actions db' ↔
      Run (Guarded KeepsSummaries (AttendanceStep distanceMeters)) db actions db' := by
  refine Run.landing_iff_guarded ?_ hsum
  intro s a s' hs hstep
  cases a with
  | record eventId recordId dto user => exact iff_of_true (record_materialized hstep hs) trivial
  | ingestFingerprint eventId recordId dto user =>
    obtain ⟨_, _, _, _, _, _, hrecord⟩ := ingestFingerprint_commits hstep
    exact iff_of_true (record_materialized hrecord hs) trivial
  | submitCorrection correctionId dto user =>
    obtain ⟨corrections, rfl⟩ := submitCorrection_commits hstep
    exact iff_of_true hs trivial
  | upsertSchedule dto user =>
    obtain ⟨scope, hscope, hdb⟩ := upsertSchedule_commits hstep
    have hschedules : s'.schedules = s.schedules.put (s.afterSchedule dto scope) := by rw [hdb]
    have hsame := materialized_of_same hs (by rw [hdb]) fun day => aggregate_schedules hschedules (by rw [hdb])
    simp only [hsame, KeepsSummaries, hscope, Option.some.injEq, forall_eq', afterSchedule_key, sub_eq_zero]
  | reviewCorrection id dto user =>
    obtain ⟨scope, correction, r, corrections, hscope, hcorrection, hr, _, hcase⟩ :=
      reviewCorrection_commits hstep
    obtain ⟨hnot, rfl⟩ | ⟨happroved, r', hpatch, hdb⟩ := hcase
    · exact iff_of_true hs fun happroved => absurd happroved hnot
    · have hsame := correctionPatch_same hpatch
      have hfind : s.records.find? r'.key = some r := by
        rw [hsame.key]
        exact find?_of_mem (mem_of_recordIn hr)
      have hrecords : s'.records = s.records.put r' := by rw [hdb]
      rw [materialized_of_same hs (by rw [hdb]) fun day => aggregate_records hrecords (by rw [hdb]), hfind]
      trans ∀ x ∈ s.summaries, x.day = r.day → r'.share = r.share
      · refine forall₂_congr fun x _ => ?_
        change r'.shareAt x.day - r.shareAt x.day = 0 ↔ _
        rw [AttendanceRecord.shareAt, AttendanceRecord.shareAt, hsame.day, sub_eq_zero]
        by_cases hday : r.day = x.day
        · rw [if_pos hday, if_pos hday]
          simp [hday]
        · rw [if_neg hday, if_neg hday]
          simp [Ne.symm hday]
      · constructor
        · intro hshare _ scope₂ correction₂ r₂ r₂' hscope₂ hcorrection₂ hr₂ hpatch₂
          obtain rfl := mem_unique hscope hscope₂
          obtain rfl := mem_unique hcorrection hcorrection₂
          obtain rfl := mem_unique hr hr₂
          obtain rfl := Except.ok.inj (hpatch.symm.trans hpatch₂)
          exact hshare
        · exact fun hkeeps => hkeeps happroved scope correction r r' hscope hcorrection hr hpatch

/-! ### A day -/

def oneEmployee : AttendanceDb where
  employees := Table.empty.put { id := 4, companyId := 1, branchId := some 2, userId := none }
  shifts := Table.empty.put { id := 7, companyId := 1, branchId := none }
  devices := Table.empty
  geofences := Table.empty
  credentials := Table.empty
  events := Table.empty
  records := Table.empty
  schedules := Table.empty
  corrections := Table.empty
  summaries := Table.empty

def clerk : Auth.AuthUser := { sub := 5, sid := none, companyId := some 1, branchId := some 2 }

def nowhere : ℚ → ℚ → ℚ → ℚ → ℚ := fun _ _ _ _ => 0

def arrival : CreateAttendanceEventDto :=
  { employeeId := 4, eventType := .checkIn, method := .other, occurredAt := some 28800000 }

def workday : UpsertEmployeeScheduleDto := { employeeId := 4, workDate := 0, shiftId := some 7 }

def rostered : AttendanceDb := (execute (upsertSchedule workday clerk) oneEmployee).2

def rosteredArrived : AttendanceDb := (execute (record nowhere 1 1 arrival clerk) rostered).2

def arrived : AttendanceDb := (execute (record nowhere 1 1 arrival clerk) oneEmployee).2

def arrivedRostered : AttendanceDb := (execute (upsertSchedule workday clerk) arrived).2

lemma materialized_oneEmployee : oneEmployee.Materialized :=
  fun s hs => absurd hs (not_mem_empty s)

theorem materialized_rostered : Run (Landing AttendanceDb.Materialized (AttendanceStep nowhere)) oneEmployee
    [.upsertSchedule workday clerk, .record 1 1 arrival clerk] rosteredArrived := by
  have hroster : AttendanceStep nowhere oneEmployee (.upsertSchedule workday clerk) rostered :=
    commits_of_execute (by decide +kernel)
  have harrival : AttendanceStep nowhere rostered (.record 1 1 arrival clerk) rosteredArrived :=
    commits_of_execute (by decide +kernel)
  refine (materialized_iff materialized_oneEmployee).mpr ?_
  refine Run.cons ⟨fun _ _ s hs => ?_, hroster⟩ (Run.cons ⟨trivial, harrival⟩ (Run.nil _))
  exact absurd hs (not_mem_empty s)

/-- One that is written after it is not. -/
theorem not_materialized_roster : ∃ db, Run (AttendanceStep nowhere) oneEmployee
    [.record 1 1 arrival clerk, .upsertSchedule workday clerk] db ∧
      db.schedules.rows.map EmployeeSchedule.isDayOff = [false] ∧
      db.summaries.rows.map (fun s => s.scheduledCount) = [0] ∧ ¬ db.Materialized := by
  have harrival : AttendanceStep nowhere oneEmployee (.record 1 1 arrival clerk) arrived :=
    commits_of_execute (by decide +kernel)
  have hroster : AttendanceStep nowhere arrived (.upsertSchedule workday clerk) arrivedRostered :=
    commits_of_execute (by decide +kernel)
  refine ⟨arrivedRostered, Run.cons harrival (Run.cons hroster (Run.nil _)), by decide +kernel,
    by decide +kernel,
    fun hsum => ?_⟩
  have hall : ∀ s ∈ arrivedRostered.summaries.rows,
      s.column .scheduled = arrivedRostered.aggregate s.day .scheduled :=
    fun s hs => congrFun (hsum s hs) .scheduled
  exact absurd hall (by decide +kernel)

end Mayatoko.Attendance
