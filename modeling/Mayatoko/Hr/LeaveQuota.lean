import Mayatoko.Hr.ApprovalCoupling

/-!
# The yearly quota of leave

A request for leave is checked against the days that were approved when it is made. The days approved in a year
stay within the quota exactly if the same check would hold again at every approval.
-/

namespace Mayatoko.Hr

open Core TableOf HrDb
open Auth (AuthUser)

variable {db db' : HrDb}

def LeaveRequest.countsFor (r : LeaveRequest) (employeeId leaveTypeId : ℕ) (year : ℤ) : Prop :=
  r.employeeId = employeeId ∧ r.leaveTypeId = leaveTypeId ∧ r.status = .approved ∧
    yearStart year ≤ r.startDate ∧ r.startDate < yearStart (year + 1)

instance (r : LeaveRequest) (employeeId leaveTypeId : ℕ) (year : ℤ) :
    Decidable (r.countsFor employeeId leaveTypeId year) := inferInstanceAs (Decidable (_ ∧ _))

def LeaveRequest.countedDays (employeeId leaveTypeId : ℕ) (year : ℤ) (r : LeaveRequest) : ℤ :=
  if r.countsFor employeeId leaveTypeId year then r.totalDays else 0

def HrDb.approvedDays (db : HrDb) (employeeId leaveTypeId : ℕ) (year : ℤ) : ℤ :=
  db.leaveRequests.sum (LeaveRequest.countedDays employeeId leaveTypeId year)

def HrDb.WithinQuota (db : HrDb) : Prop :=
  ∀ t ∈ db.leaveTypes, ∀ quota, t.annualQuota = some quota → ∀ employeeId year,
    (db.approvedDays employeeId t.id year : ℚ) ≤ quota

def LeavesRoom (db : HrDb) : HrEvent → Prop
  | .reviewLeave id dto _ _ => dto.status = .approved → ∀ r t quota year, db.leaveRequests.find? id = some r →
      t ∈ db.leaveTypes → t.id = r.leaveTypeId → t.annualQuota = some quota →
      yearStart year ≤ r.startDate → r.startDate < yearStart (year + 1) →
      ((db.approvedDays r.employeeId t.id year + r.totalDays : ℤ) : ℚ) ≤ quota
  | .submitLeave .. | .submitOvertime .. | .reviewOvertime .. | .decideApproval .. | .delegateApproval ..
  | .expireApproval .. | .elsewhere => True

lemma withinQuota_congr (h : db.WithinQuota) (hleave : db'.leaveRequests = db.leaveRequests)
    (htypes : db'.leaveTypes = db.leaveTypes) : db'.WithinQuota := by
  intro t ht quota hquota employeeId year
  rw [approvedDays, hleave]
  exact h t (htypes ▸ ht) quota hquota employeeId year

lemma countedDays_of_not {r : LeaveRequest} (h : r.status ≠ .approved) (employeeId leaveTypeId : ℕ) (year : ℤ) :
    r.countedDays employeeId leaveTypeId year = 0 :=
  if_neg fun hcounts => h hcounts.2.2.1

lemma submitLeave_withinQuota {requestId approvalId : ℕ} {dto : CreateLeaveRequestDto} {user : AuthUser}
    (hquota : db.WithinQuota) (h : Commits (submitLeave requestId approvalId dto user) db () db') :
    db'.WithinQuota := by
  obtain ⟨_, r, _, _, rfl, _, _, hstatus, _, _, _, hnew, _, rfl⟩ := submitLeave_commits h
  intro t ht quota hq employeeId year
  have hsum := Table.sum_put_of_not_mem (find?_eq_none.mp hnew) (LeaveRequest.countedDays employeeId t.id year)
  rw [countedDays_of_not (by simp [hstatus]), add_zero] at hsum
  rw [approvedDays, hsum]
  exact hquota t ht quota hq employeeId year

lemma reviewLeave_approvedDays {r : LeaveRequest} {id : ℕ} {status : ApprovalRequestStatus}
    (hfind : db.leaveRequests.find? id = some r) (hwaits : r.status = .submitted)
    (hleave : db'.leaveRequests = db.leaveRequests.put { r with status }) (employeeId leaveTypeId : ℕ)
    (year : ℤ) :
    db'.approvedDays employeeId leaveTypeId year = db.approvedDays employeeId leaveTypeId year +
      if ({ r with status } : LeaveRequest).countsFor employeeId leaveTypeId year then r.totalDays else 0 := by
  have hsum := Table.sum_put_of_mem (r := { r with status }) (find?_eq_some.mp hfind).1 rfl
    (LeaveRequest.countedDays employeeId leaveTypeId year)
  rw [countedDays_of_not (r := r) (by simp [hwaits]), sub_zero] at hsum
  rw [approvedDays, hleave, hsum]
  rfl

lemma reviewLeave_withinQuota {id : ℕ} {dto : ReviewDto} {user : AuthUser} {now : ℤ} (hquota : db.WithinQuota)
    (h : Commits (reviewLeave id dto user now) db () db') :
    db'.WithinQuota ↔ LeavesRoom db (.reviewLeave id dto user now) := by
  obtain ⟨r, scope, decisions, hfind, _, _, hwaits, hdb⟩ := reviewLeave_commits h
  have hleave : db'.leaveRequests = db.leaveRequests.put { r with status := dto.status.requestStatus } := by
    rw [hdb]
  have hdays := reviewLeave_approvedDays hfind hwaits hleave
  have htypes : db'.leaveTypes = db.leaveTypes := by rw [hdb]
  constructor
  · intro h' hverdict r' t quota year hfind' ht htype hq hfrom huntil
    obtain rfl := mem_unique hfind hfind'
    have hin := h' t (htypes ▸ ht) quota hq r.employeeId year
    rwa [hdays, if_pos ⟨rfl, htype.symm, by rw [hverdict]; rfl, hfrom, huntil⟩] at hin
  · intro hroom t ht quota hq employeeId year
    rw [htypes] at ht
    rw [hdays]
    split_ifs with hcounts
    · obtain ⟨hemployee, htype, happroved, hfrom, huntil⟩ := hcounts
      have hverdict : dto.status = .approved := by
        cases hstatus : dto.status with
        | approved => rfl
        | rejected =>
          rw [hstatus] at happroved
          cases happroved
      have hin := hroom hverdict r t quota year hfind ht htype.symm hq hfrom huntil
      have hsame : r.employeeId = employeeId := hemployee
      rwa [hsame] at hin
    · rw [add_zero]
      exact hquota t ht quota hq employeeId year

lemma withinQuota_step {e : HrEvent} (hquota : db.WithinQuota) (h : HrStep db e db') :
    db'.WithinQuota ↔ LeavesRoom db e := by
  cases e with
  | submitLeave requestId approvalId dto user => exact iff_of_true (submitLeave_withinQuota hquota h) trivial
  | submitOvertime requestId approvalId dto user =>
    obtain ⟨_, _, _, _, _, _, _, _, _, _, _, _, rfl⟩ := submitOvertime_commits h
    exact iff_of_true (withinQuota_congr hquota rfl rfl) trivial
  | reviewLeave id dto user now => exact reviewLeave_withinQuota hquota h
  | reviewOvertime id dto user now =>
    obtain ⟨_, _, _, _, _, _, _, _, rfl⟩ := reviewOvertime_commits h
    exact iff_of_true (withinQuota_congr hquota rfl rfl) trivial
  | decideApproval id dto user now =>
    obtain ⟨_, _, _, _, _, _, _, rfl⟩ := decideApproval_commits h
    exact iff_of_true (withinQuota_congr hquota rfl rfl) trivial
  | delegateApproval id targetUserId user now =>
    obtain ⟨_, _, _, _, _, rfl⟩ := delegateApproval_commits h
    exact iff_of_true (withinQuota_congr hquota rfl rfl) trivial
  | expireApproval id now =>
    rcases expireApproval_commits h with ⟨rfl, _⟩ | ⟨_, _, _, _, ⟨_, _, _, _, rfl⟩ | ⟨_, rfl⟩⟩
    · exact iff_of_true hquota trivial
    · exact iff_of_true (withinQuota_congr hquota rfl rfl) trivial
    · exact iff_of_true (withinQuota_congr hquota rfl rfl) trivial
  | elsewhere => exact iff_of_true (withinQuota_congr hquota (Outside.leaveRequests h) (Outside.leaveTypes h)) trivial

/-- Along a history, the days approved for every employee, type and year stay within the quota if and only if
every approval finds room for the days of its request. -/
theorem withinQuota_iff {db₀ : HrDb} {events : List HrEvent} (hquota : db₀.WithinQuota) :
    Run (Landing HrDb.WithinQuota HrStep) db₀ events db ↔ Run (Guarded LeavesRoom HrStep) db₀ events db :=
  Run.landing_iff_guarded (fun _ _ _ hs hstep => withinQuota_step hs hstep) hquota

/-! ### Two requests -/

lemma withinQuota_oneEmployee : oneEmployee.WithinQuota := by
  intro t ht quota hq employeeId year
  have hnone : oneEmployee.approvedDays employeeId t.id year = 0 := rfl
  obtain rfl : t = { id := 6, companyId := 1, name := "Cuti Tahunan", annualQuota := some 12 } := by
    simpa [oneEmployee, mem_put] using ht
  obtain rfl := Option.some.inj hq
  rw [hnone]
  decide +kernel

lemma leaveRequests_afterRequest : afterRequest.leaveRequests.rows =
    [{ id := 1, companyId := 1, employeeId := 3, leaveTypeId := 6, startDate := yearStart 2025,
       endDate := yearStart 2025 + 4 * 86400000, totalDays := 5, approvalRequestId := some 10 }] := by
  decide +kernel

theorem withinQuota_fiveDays : Run (Landing HrDb.WithinQuota HrStep) oneEmployee
    [.submitLeave 1 10 fiveDays employeeUser, .reviewLeave 1 { status := .approved } managerUser 0]
    afterReview := by
  have hreview : HrStep afterRequest (.reviewLeave 1 { status := .approved } managerUser 0) afterReview :=
    commits_of_execute (by decide +kernel)
  have hroom : LeavesRoom afterRequest (.reviewLeave 1 { status := .approved } managerUser 0) := by
    intro _ r t quota year hfind ht _ hq _ _
    have hnone : afterRequest.approvedDays r.employeeId t.id year = 0 := by
      simp [approvedDays, Table.sum, leaveRequests_afterRequest, countedDays_of_not]
    have htypes : afterRequest.leaveTypes.rows =
        [{ id := 6, companyId := 1, name := "Cuti Tahunan", annualQuota := some 12 }] := by decide +kernel
    have hdays : (afterRequest.leaveRequests.find? 1).map LeaveRequest.totalDays = some 5 := by decide +kernel
    rw [hfind] at hdays
    rw [mem_rows, htypes, mem_singleton] at ht
    subst ht
    obtain rfl := Option.some.inj hq
    rw [hnone, Option.some.inj hdays]
    decide +kernel
  refine (withinQuota_iff withinQuota_oneEmployee).mpr ?_
  exact Run.cons ⟨trivial, step_request⟩ (Run.cons ⟨hroom, hreview⟩ (Run.nil _))

def sevenDays (day : ℤ) : CreateLeaveRequestDto :=
  { leaveTypeId := 6, startDate := some (yearStart 2025 + day * 86400000),
    endDate := some (yearStart 2025 + (day + 6) * 86400000) }

def twoRequests : List HrEvent :=
  [.submitLeave 1 10 (sevenDays 0) employeeUser, .submitLeave 2 20 (sevenDays 7) employeeUser,
    .reviewLeave 1 { status := .approved } managerUser 0, .reviewLeave 2 { status := .approved } managerUser 0]

def firstAsked : HrDb := (execute (submitLeave 1 10 (sevenDays 0) employeeUser) oneEmployee).2

def bothAsked : HrDb := (execute (submitLeave 2 20 (sevenDays 7) employeeUser) firstAsked).2

def firstApproved : HrDb := (execute (reviewLeave 1 { status := .approved } managerUser 0) bothAsked).2

def bothApproved : HrDb := (execute (reviewLeave 2 { status := .approved } managerUser 0) firstApproved).2

theorem not_withinQuota_twoRequests : ∃ db, Run HrStep oneEmployee twoRequests db ∧
    db.approvedDays 3 6 2025 = 14 ∧ ¬ db.WithinQuota := by
  have hfirst : HrStep oneEmployee (.submitLeave 1 10 (sevenDays 0) employeeUser) firstAsked :=
    commits_of_execute (by decide +kernel)
  have hsecond : HrStep firstAsked (.submitLeave 2 20 (sevenDays 7) employeeUser) bothAsked :=
    commits_of_execute (by decide +kernel)
  have hthird : HrStep bothAsked (.reviewLeave 1 { status := .approved } managerUser 0) firstApproved :=
    commits_of_execute (by decide +kernel)
  have hlast : HrStep firstApproved (.reviewLeave 2 { status := .approved } managerUser 0) bothApproved :=
    commits_of_execute (by decide +kernel)
  have hdays : bothApproved.approvedDays 3 6 2025 = 14 := by decide +kernel
  refine ⟨bothApproved, Run.cons hfirst (Run.cons hsecond (Run.cons hthird (Run.cons hlast (Run.nil _)))),
    hdays, fun hquota => ?_⟩
  have htype : bothApproved.leaveTypes.rows =
      [{ id := 6, companyId := 1, name := "Cuti Tahunan", annualQuota := some 12 }] := by decide +kernel
  have hle := hquota _ (mem_rows.mpr (htype ▸ List.mem_singleton_self _)) 12 rfl 3 2025
  rw [hdays] at hle
  exact absurd hle (by decide +kernel)

end Mayatoko.Hr
