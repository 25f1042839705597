import Mathlib.Algebra.Order.Ring.Unbundled.Rat
import Mayatoko.Hr.Schema

/-!
# Leave, overtime and approvals

What `HrService` does when an employee asks for leave or overtime and when it is reviewed, and what
`PlatformService` and the worker do to the approval that such a request opens. An id is the one that is drawn
for a new row. A text is given by what it reads as: a date by its instant, and the key of a document as
already trimmed.
-/

namespace Mayatoko.Hr

open Core HrDb
open Auth (AuthUser)

def byUserId (user : AuthUser) : HrTx Employee := do
  let scope ← requireTenantScope user
  let db ← get
  orThrow (db.employees.findMany fun e => e.userId = some user.sub && e.companyId = scope.companyId &&
      e.branchId = some scope.branchId && e.isActive).head?
    (.notFound "Akun belum terhubung ke data karyawan pada tenant aktif.")

def parseBusinessDate (value : Option ℤ) (label : String) : HrTx ℤ :=
  orThrow value (.badRequest s!"{label} tidak valid.")

/-! ### Requests -/

/-- The approval that a request opens, without a time at which it expires. -/
def openApproval (approvalId : ℕ) (policyCode entityType : String) (entityId : ℕ) (employee : Employee)
    (user : AuthUser) : HrTx Unit := do
  let db ← get
  let policy := (db.policies.findMany fun p =>
    p.companyId = employee.companyId && p.code = policyCode && p.isActive).head?
  approvalRequest.create
    { id := approvalId, policyId := policy.map ApprovalPolicy.id, companyId := employee.companyId,
      branchId := employee.branchId, entityType, entityId, requesterId := some user.sub }
    .uniqueViolation

structure CreateLeaveRequestDto where
  leaveTypeId : ℕ
  (startDate endDate : Option ℤ)
  reason : Option String := none
  documentObjectKey : Option String := none

def LeaveRequest.overlaps (r : LeaveRequest) (employee : Employee) (startDate endDate : ℤ) : Bool :=
  r.companyId = employee.companyId && r.employeeId = employee.id &&
    (r.status = .submitted || r.status = .approved) && r.startDate ≤ endDate && startDate ≤ r.endDate

def HrDb.usedDays (db : HrDb) (employee : Employee) (leaveTypeId : ℕ) (year : ℤ) : ℤ :=
  ((db.leaveRequests.findMany fun r => r.companyId = employee.companyId && r.employeeId = employee.id &&
    r.leaveTypeId = leaveTypeId && r.status = .approved &&
    yearStart year ≤ r.startDate && r.startDate < yearStart (year + 1)).map LeaveRequest.totalDays).sum

def checkQuota (employee : Employee) (leaveType : LeaveType) (startDate totalDays : ℤ) : HrTx Unit :=
  match leaveType.annualQuota with
  | none => pure ()
  | some quota => do
    let db ← get
    let used := db.usedDays employee leaveType.id (utcFullYear startDate)
    let name := leaveType.name
    let quotaText := numberText quota
    require ((used + totalDays : ℚ) ≤ quota) (.badRequest
      s!"Kuota {name} tidak mencukupi. Terpakai {used}, pengajuan {totalDays}, kuota {quotaText}.")

def submitLeave (requestId approvalId : ℕ) (dto : CreateLeaveRequestDto) (user : AuthUser) : HrTx Unit := do
  let employee ← byUserId user
  let startDate ← parseBusinessDate dto.startDate "Tanggal mulai cuti"
  let endDate ← parseBusinessDate dto.endDate "Tanggal akhir cuti"
  require (startDate ≤ endDate) (.badRequest "Tanggal akhir cuti tidak boleh sebelum tanggal mulai.")
  let totalDays := inclusiveCalendarDays startDate endDate
  require (0 < totalDays ∧ totalDays ≤ 366) (.badRequest "Durasi cuti tidak valid.")
  let db ← get
  let leaveType ← orThrow ((db.leaveTypes.find? dto.leaveTypeId).filter fun t =>
    t.companyId = employee.companyId && t.isActive) (.badRequest "Jenis cuti tidak tersedia.")
  require (leaveType.requiresDocument = true → dto.documentObjectKey.any (· ≠ "") = true)
    (.badRequest "Jenis cuti ini mewajibkan dokumen pendukung.")
  require (db.leaveRequests.rows.any (fun r => r.overlaps employee startDate endDate) = false)
    (.conflict "Rentang cuti bertumpang tindih dengan pengajuan aktif lain.")
  checkQuota employee leaveType startDate totalDays
  leaveRequest.create
    { id := requestId, companyId := employee.companyId, employeeId := employee.id, leaveTypeId := leaveType.id,
      startDate, endDate, totalDays, reason := dto.reason, documentObjectKey := dto.documentObjectKey }
    .uniqueViolation
  openApproval approvalId "LEAVE_REQUEST" "LeaveRequest" requestId employee user
  let _ ← leaveRequest.update requestId (fun r => { r with approvalRequestId := some approvalId })
    .recordNotFound

structure CreateOvertimeRequestDto where
  (requestedStart requestedEnd : Option ℤ)
  reason : Option String := none

def OvertimeRequest.overlaps (r : OvertimeRequest) (employee : Employee) (requestedStart requestedEnd : ℤ) :
    Bool :=
  r.companyId = employee.companyId && r.employeeId = employee.id &&
    (r.status = .submitted || r.status = .approved) && r.requestedStart < requestedEnd &&
    requestedStart < r.requestedEnd

def roundedMinutes (start finish : ℤ) : ℤ := (finish - start + 30000) / 60000

def submitOvertime (requestId approvalId : ℕ) (dto : CreateOvertimeRequestDto) (user : AuthUser) :
    HrTx Unit := do
  let employee ← byUserId user
  let requestedStart ← parseBusinessDate dto.requestedStart "Waktu mulai lembur"
  let requestedEnd ← parseBusinessDate dto.requestedEnd "Waktu selesai lembur"
  let durationMinutes := roundedMinutes requestedStart requestedEnd
  require (0 < durationMinutes ∧ durationMinutes ≤ 1440)
    (.badRequest "Durasi lembur harus lebih dari 0 dan maksimal 24 jam.")
  let db ← get
  require (db.overtimeRequests.rows.any (fun r => r.overlaps employee requestedStart requestedEnd) = false)
    (.conflict "Rentang lembur bertumpang tindih dengan pengajuan aktif lain.")
  overtimeRequest.create
    { id := requestId, companyId := employee.companyId, employeeId := employee.id, branchId := employee.branchId,
      requestedStart, requestedEnd, reason := dto.reason }
    .uniqueViolation
  openApproval approvalId "OVERTIME_REQUEST" "OvertimeRequest" requestId employee user
  let _ ← overtimeRequest.update requestId (fun r => { r with approvalRequestId := some approvalId })
    .recordNotFound

/-! ### Reviews -/

inductive Verdict
  | approved
  | rejected
  deriving DecidableEq

def Verdict.requestStatus : Verdict → ApprovalRequestStatus
  | approved => .approved
  | rejected => .rejected

def Verdict.approvalStatus : Verdict → ApprovalStatus
  | approved => .approved
  | rejected => .rejected

structure ReviewDto where
  status : Verdict
  notes : Option String := none
  approvedMinutes : Option ℤ := none

/-- The verdict on a request is also that on its approval, if that is pending in the scope. -/
def settleApproval (approvalRequestId : Option ℕ) (scope : TenantScope) (dto : ReviewDto) (user : AuthUser)
    (now : ℤ) : HrTx Unit := do
  let db ← get
  match (approvalRequestId.bind db.approvals.find?).filter fun a =>
      a.companyId = scope.companyId && a.branchId = some scope.branchId && a.status = .pending with
  | none => pure ()
  | some approval => do
    createDecision
      { requestId := approval.id, step := approval.currentStep, approverId := user.sub,
        status := dto.status.approvalStatus, notes := dto.notes }
    let _ ← approvalRequest.update approval.id
      (fun a => { a with status := dto.status.approvalStatus, decidedAt := some now }) .recordNotFound

def HrDb.branchEmployeeIds (db : HrDb) (scope : TenantScope) : List ℕ :=
  (db.employees.findMany fun e =>
    e.companyId = scope.companyId && e.branchId = some scope.branchId).map Employee.id

def reviewLeave (id : ℕ) (dto : ReviewDto) (user : AuthUser) (now : ℤ) : HrTx Unit := do
  let scope ← requireTenantScope user
  let db ← get
  let request ← orThrow ((db.leaveRequests.find? id).filter fun r =>
    r.companyId = scope.companyId && r.employeeId ∈ db.branchEmployeeIds scope)
    (tenantAccessDenied "LeaveRequest")
  require (request.status = .submitted)
    (.badRequest s!"Pengajuan cuti sudah berstatus {request.status.text}.")
  let _ ← leaveRequest.update id (fun r => { r with status := dto.status.requestStatus }) .recordNotFound
  settleApproval request.approvalRequestId scope dto user now

/-- The minutes that are approved: those of the request unless others are given. -/
def approvedMinutesOf (request : OvertimeRequest) (dto : ReviewDto) : Option ℤ :=
  match dto.status with
  | .approved => some (dto.approvedMinutes.getD (roundedMinutes request.requestedStart request.requestedEnd))
  | .rejected => none

def reviewOvertime (id : ℕ) (dto : ReviewDto) (user : AuthUser) (now : ℤ) : HrTx Unit := do
  let scope ← requireTenantScope user
  let db ← get
  let request ← orThrow ((db.overtimeRequests.find? id).filter fun r =>
    r.companyId = scope.companyId && r.branchId = some scope.branchId) (tenantAccessDenied "OvertimeRequest")
  require (request.status = .submitted)
    (.badRequest s!"Pengajuan lembur sudah berstatus {request.status.text}.")
  let approvedMinutes := approvedMinutesOf request dto
  require (approvedMinutes.all (fun m =>
      0 ≤ m && m ≤ roundedMinutes request.requestedStart request.requestedEnd) = true)
    (.badRequest "Menit lembur yang disetujui tidak boleh melebihi durasi pengajuan.")
  let _ ← overtimeRequest.update id (fun r =>
    { r with status := dto.status.requestStatus, approvedMinutes }) .recordNotFound
  settleApproval request.approvalRequestId scope dto user now

/-! ### The approval engine -/

def approvalSteps (policy : Option ApprovalPolicy) : List ApprovalStep :=
  (policy.bind ApprovalPolicy.steps).getD [{}]

/-- When a step expires: never without a positive number of minutes, and after 30 days at the latest. -/
def approvalExpiry (step : ApprovalStep) (now : ℤ) : Option ℤ :=
  (step.expiresInMinutes.filter fun minutes => 0 < minutes).map fun minutes =>
    now + min minutes.floor (30 * 24 * 60) * 60000

def HrDb.activePolicy (db : HrDb) (request : ApprovalRequest) (scope : TenantScope) : Option ApprovalPolicy :=
  (request.policyId.bind db.policies.find?).filter fun p => p.companyId = scope.companyId && p.isActive

def stepAt (steps : List ApprovalStep) (currentStep : ℕ) : ApprovalStep := steps.getD (currentStep - 1) {}

/-- Whether someone has one of the roles of a step, if it names any, and all of its permissions. -/
def hasRole (roles : List String) (of : List String) : Prop := roles ≠ [] → roles.any (· ∈ of) = true

def hasPermissions (permissions : List String) (of : List String) : Prop :=
  permissions.all (· ∈ of) = true

instance (roles of : List String) : Decidable (hasRole roles of) :=
  inferInstanceAs (Decidable (_ → _))

instance (permissions of : List String) : Decidable (hasPermissions permissions of) :=
  inferInstanceAs (Decidable (_ = _))

structure DecideApprovalDto where
  status : Verdict
  notes : Option String := none

def HrDb.branchRequesterIds (db : HrDb) (scope : TenantScope) : List ℕ :=
  (db.users.findMany fun u => u.branchId = some scope.branchId && u.companyId = some scope.companyId).map User.id

/-- What a decision makes of an approval: it rejects it, approves it at the last step, or goes on to the next
step. -/
def decidedWith (status : Verdict) (steps : List ApprovalStep) (now : ℤ) (a : ApprovalRequest) :
    ApprovalRequest :=
  match status with
  | .rejected => { a with
      status := .rejected, decidedAt := some now, expiresAt := none, delegatedToId := none,
      delegatedById := none, delegatedAt := none }
  | .approved =>
    if steps.length ≤ a.currentStep then { a with
      status := .approved, decidedAt := some now, expiresAt := none, delegatedToId := none,
      delegatedById := none, delegatedAt := none }
    else { a with
      status := .pending, currentStep := a.currentStep + 1, decidedAt := none,
      expiresAt := approvalExpiry (steps.getD a.currentStep {}) now, escalatedAt := none,
      delegatedToId := none, delegatedById := none, delegatedAt := none }

lemma decidedWith_id (status : Verdict) (steps : List ApprovalStep) (now : ℤ) (a : ApprovalRequest) :
    (decidedWith status steps now a).id = a.id := by
  cases status with
  | rejected => rfl
  | approved =>
    rw [decidedWith]
    split_ifs
    · rfl
    · rfl

def decidingRoles (request : ApprovalRequest) (step : ApprovalStep) : List String :=
  step.roles ++ if request.escalatedAt.isSome then request.escalationRoles else []

def decideApproval (id : ℕ) (dto : DecideApprovalDto) (user : AuthUser) (now : ℤ) : HrTx Unit := do
  let scope ← requireTenantScope user
  let db ← get
  let request ← orThrow ((db.approvals.find? id).filter fun a => a.companyId = scope.companyId &&
      (a.branchId = some scope.branchId ||
        a.branchId = none && a.requesterId.any (· ∈ db.branchRequesterIds scope)))
    (tenantAccessDenied "ApprovalRequest")
  require (request.status = .pending) (.badRequest "Permintaan approval sudah diputuskan.")
  require (request.expiresAt.all (now < ·) = true)
    (.badRequest "Masa berlaku approval sudah habis. Muat ulang status approval.")
  require (request.requesterId ≠ some user.sub)
    (.forbidden "Pembuat permintaan tidak boleh menyetujui permintaannya sendiri.")
  require (request.delegatedToId.all (· = user.sub) = true)
    (.forbidden "Langkah approval ini sedang didelegasikan kepada pengguna lain.")
  let steps := approvalSteps (db.activePolicy request scope)
  let step := stepAt steps request.currentStep
  require (request.delegatedToId = none → hasRole (decidingRoles request step) user.roles)
    (.forbidden "Role pengguna tidak berhak memutuskan langkah approval ini.")
  require (request.delegatedToId = none → hasPermissions step.permissions user.permissions)
    (.forbidden "Permission pengguna tidak memenuhi langkah approval ini.")
  require (db.decisions.any (fun d =>
      d.requestId = id && d.step = request.currentStep && d.approverId = user.sub) = false)
    (.badRequest "Pengguna sudah memberikan keputusan pada langkah approval ini.")
  createDecision
    { requestId := id, step := request.currentStep, approverId := user.sub,
      status := dto.status.approvalStatus, notes := dto.notes }
  approvalRequest.updateOne
    (fun a => a.id = id && a.status = .pending && a.currentStep = request.currentStep)
    (decidedWith dto.status steps now)
    (.badRequest "Approval berubah oleh proses lain. Muat ulang dan coba lagi.")
    (decidedWith_id dto.status steps now)

def delegateApproval (id targetUserId : ℕ) (user : AuthUser) (now : ℤ) : HrTx Unit := do
  let scope ← requireTenantScope user
  let db ← get
  let request ← orThrow ((db.approvals.find? id).filter fun a => a.companyId = scope.companyId &&
    a.branchId = some scope.branchId && a.status = .pending) (tenantAccessDenied "ApprovalRequest")
  require (request.requesterId ≠ some targetUserId)
    (.badRequest "Approval tidak boleh didelegasikan kembali kepada requester.")
  let target ← orThrow ((db.users.find? targetUserId).filter fun u => u.branchId = some scope.branchId &&
    u.isActive && u.companyId = some scope.companyId && u.branchIsActive)
    (.badRequest "Target delegasi tidak aktif pada branch yang sama.")
  let step := stepAt (approvalSteps (db.activePolicy request scope)) request.currentStep
  require (hasRole step.roles target.roles)
    (.badRequest "Target delegasi tidak memenuhi role langkah approval.")
  require (hasPermissions step.permissions target.permissions)
    (.badRequest "Target delegasi tidak memenuhi permission langkah approval.")
  let privileged := user.roles.any (· ∈ ["SUPER_ADMIN", "OWNER", "ADMIN"])
  require (privileged = false → request.delegatedToId.all (· = user.sub) = true)
    (.forbidden "Approval ini sudah didelegasikan kepada pengguna lain.")
  require (privileged = false → hasRole step.roles user.roles)
    (.forbidden "Role pengguna tidak berhak mendelegasikan langkah approval ini.")
  require (privileged = false → hasPermissions step.permissions user.permissions)
    (.forbidden "Permission pengguna tidak memenuhi langkah approval ini.")
  let _ ← approvalRequest.update id (fun a =>
    { a with delegatedToId := some target.id, delegatedById := some user.sub, delegatedAt := some now })
    .recordNotFound

/-- For how long an escalation extends a step: an hour by default, and at most 30 days. -/
def escalationMs (step : ApprovalStep) : ℤ :=
  let minutes := (step.escalationMinutes.or step.expiresInMinutes).getD 60
  Rat.floor (max 1 (min (if minutes = 0 then 60 else minutes) (30 * 24 * 60)) * 60000)

/-- The transaction of `processApprovalExpiries` for one approval. -/
def expireApproval (id : ℕ) (now : ℤ) : HrTx Unit := do
  let db ← get
  match (db.approvals.find? id).filter fun a => a.status = .pending && a.expiresAt.any (· ≤ now) with
  | none => pure ()
  | some current => do
    let steps := ((current.policyId.bind db.policies.find?).bind ApprovalPolicy.steps).getD []
    let step := stepAt steps current.currentStep
    if current.escalatedAt = none ∧ step.escalationRoles ≠ [] then do
      let _ ← approvalRequest.update current.id (fun a => { a with
        escalatedAt := some now, expiresAt := some (now + escalationMs step),
        escalationRoles := step.escalationRoles }) .recordNotFound
    else do
      let _ ← approvalRequest.updateMany
        (fun a => a.id = current.id && a.status = .pending && a.currentStep = current.currentStep)
        (fun a => { a with status := .expired, decidedAt := some now })

end Mayatoko.Hr
