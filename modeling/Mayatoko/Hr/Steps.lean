import Mayatoko.Core.Frame
import Mayatoko.Hr.Requests

/-!
# What the operations on requests and approvals write

One alternative for each operation: a request is opened together with an approval, a review writes a verdict
on the request and on the approval that it finds, and the approval engine writes an approval only.
-/

namespace Mayatoko.Hr

open Core TableOf HrDb
open Auth (AuthUser)

variable {db db' : HrDb} {user : AuthUser} {now : ℤ}

variable {scope : TenantScope}

lemma commits_requireTenantScope : Commits (requireTenantScope user) db scope db' ↔
    user.companyId = some scope.companyId ∧ user.branchId = some scope.branchId ∧ db = db' := by
  obtain ⟨companyId, branchId⟩ := scope
  unfold requireTenantScope
  split
  next c b hc hb => simp [hc, hb, and_assoc]
  next hnone =>
    constructor
    · intro h
      cases h
    · rintro ⟨hc, hb, _⟩
      exact (hnone companyId branchId hc hb).elim

variable {employee : Employee}

lemma byUserId_commits (h : Commits (byUserId user) db employee db') :
    db = db' ∧ db.employees.find? employee.id = some employee := by
  simp only [byUserId, commits_steps, commits_requireTenantScope] at h
  obtain ⟨_, _, ⟨_, _, rfl⟩, hfirst, rfl⟩ := h
  exact ⟨rfl, find?_of_mem (mem_findMany.mp (List.mem_of_mem_head? hfirst)).1⟩

lemma commits_requireTenantScope_bind {α : Type} {f : TenantScope → HrTx α} {a : α} :
    Commits (requireTenantScope user >>= f) db a db' ↔
      ∃ scope, user.companyId = some scope.companyId ∧ user.branchId = some scope.branchId ∧
        Commits (f scope) db a db' := by
  simp only [commits_bind, commits_requireTenantScope]
  constructor
  · rintro ⟨scope, _, ⟨hcompany, hbranch, rfl⟩, h⟩
    exact ⟨scope, hcompany, hbranch, h⟩
  · rintro ⟨scope, hcompany, hbranch, h⟩
    exact ⟨scope, db, ⟨hcompany, hbranch, rfl⟩, h⟩

@[simp] lemma commits_parseBusinessDate {value : Option ℤ} {label : String} {t : ℤ} :
    Commits (parseBusinessDate value label) db t db' ↔ value = some t ∧ db = db' := by
  simp [parseBusinessDate]

lemma checkQuota_commits {leaveType : LeaveType} {startDate totalDays : ℤ}
    (h : Commits (checkQuota employee leaveType startDate totalDays) db () db') : db = db' := by
  unfold checkQuota at h
  split at h
  · exact (commits_pure.mp h).2
  · simp only [commits_steps] at h
    obtain ⟨_, rfl⟩ := h
    rfl

structure Opened (entityType : String) (entityId : ℕ) (employee : Employee) (a : ApprovalRequest) : Prop where
  entityType : a.entityType = entityType
  entityId : a.entityId = entityId
  companyId : a.companyId = employee.companyId
  branchId : a.branchId = employee.branchId
  status : a.status = .pending

variable {approvalId : ℕ}

lemma openApproval_commits {entityId : ℕ} {policyCode entityType : String}
    (h : Commits (openApproval approvalId policyCode entityType entityId employee user) db () db') :
    ∃ a, a.id = approvalId ∧ Opened entityType entityId employee a ∧ db.approvals.find? approvalId = none ∧
      db' = approvalRequest.write db a := by
  simp only [openApproval, commits_steps, commits_create] at h
  obtain ⟨hnew, rfl⟩ := h
  refine ⟨_, rfl, ?_, hnew, rfl⟩
  constructor
  all_goals rfl

/-- A request for leave and its approval are new, and the request names the approval. -/
lemma submitLeave_commits {requestId : ℕ} {dto : CreateLeaveRequestDto}
    (h : Commits (submitLeave requestId approvalId dto user) db () db') :
    ∃ employee r a, db.employees.find? employee.id = some employee ∧ r.id = requestId ∧
      r.employeeId = employee.id ∧ r.companyId = employee.companyId ∧ r.status = .submitted ∧
      r.approvalRequestId = some approvalId ∧ a.id = approvalId ∧ Opened "LeaveRequest" requestId employee a ∧
      db.leaveRequests.find? requestId = none ∧ db.approvals.find? approvalId = none ∧
      db' = { db with leaveRequests := db.leaveRequests.put r, approvals := db.approvals.put a } := by
  obtain ⟨employee, _, hemployee, h⟩ := commits_bind.mp h
  obtain ⟨rfl, hfind⟩ := byUserId_commits hemployee
  obtain ⟨startDate, _, hparse, h⟩ := commits_bind.mp h
  obtain ⟨_, rfl⟩ := commits_parseBusinessDate.mp hparse
  obtain ⟨endDate, _, hparse, h⟩ := commits_bind.mp h
  obtain ⟨_, rfl⟩ := commits_parseBusinessDate.mp hparse
  obtain ⟨_, h⟩ := commits_require_bind.mp h
  obtain ⟨_, h⟩ := commits_require_bind.mp h
  obtain ⟨leaveType, _, h⟩ := commits_orThrow_bind.mp (commits_get_bind.mp h)
  obtain ⟨_, h⟩ := commits_require_bind.mp h
  obtain ⟨_, h⟩ := commits_require_bind.mp h
  obtain ⟨_, _, hquota, h⟩ := commits_bind.mp h
  obtain rfl := checkQuota_commits hquota
  obtain ⟨_, _, hcreate, h⟩ := commits_bind.mp h
  obtain ⟨hnew, rfl⟩ := commits_create.mp hcreate
  obtain ⟨_, _, happroval, h⟩ := commits_bind.mp h
  obtain ⟨a, hid, hopened, hnone, rfl⟩ := openApproval_commits happroval
  obtain ⟨_, _, hupdate, h⟩ := commits_bind.mp h
  obtain ⟨r, hr, rfl, rfl⟩ := commits_update.mp hupdate
  obtain ⟨_, rfl⟩ := commits_pure.mp h
  obtain rfl := mem_unique (find?_put_self _ _) hr
  let request : LeaveRequest :=
    { id := requestId, companyId := employee.companyId, employeeId := employee.id, leaveTypeId := leaveType.id,
      startDate, endDate, totalDays := inclusiveCalendarDays startDate endDate, reason := dto.reason,
      documentObjectKey := dto.documentObjectKey, approvalRequestId := some approvalId }
  refine ⟨employee, request, a, hfind, rfl, rfl, rfl, rfl, rfl, hid, hopened, hnew, hnone, ?_⟩
  simp only [TableOf.write, leaveRequest, approvalRequest, HrDb.mk.injEq, true_and, and_true]
  exact Table.put_put _ rfl

/-- The same for a request for overtime, which has the branch of the employee. -/
lemma submitOvertime_commits {requestId : ℕ} {dto : CreateOvertimeRequestDto}
    (h : Commits (submitOvertime requestId approvalId dto user) db () db') :
    ∃ employee r a, r.id = requestId ∧ r.companyId = employee.companyId ∧ r.branchId = employee.branchId ∧
      r.status = .submitted ∧ r.approvalRequestId = some approvalId ∧ a.id = approvalId ∧
      Opened "OvertimeRequest" requestId employee a ∧
      db.overtimeRequests.find? requestId = none ∧ db.approvals.find? approvalId = none ∧
      db' = { db with overtimeRequests := db.overtimeRequests.put r, approvals := db.approvals.put a } := by
  obtain ⟨employee, _, hemployee, h⟩ := commits_bind.mp h
  obtain ⟨rfl, _⟩ := byUserId_commits hemployee
  obtain ⟨requestedStart, _, hparse, h⟩ := commits_bind.mp h
  obtain ⟨_, rfl⟩ := commits_parseBusinessDate.mp hparse
  obtain ⟨requestedEnd, _, hparse, h⟩ := commits_bind.mp h
  obtain ⟨_, rfl⟩ := commits_parseBusinessDate.mp hparse
  obtain ⟨_, h⟩ := commits_require_bind.mp h
  obtain ⟨_, h⟩ := commits_require_bind.mp (commits_get_bind.mp h)
  obtain ⟨_, _, hcreate, h⟩ := commits_bind.mp h
  obtain ⟨hnew, rfl⟩ := commits_create.mp hcreate
  obtain ⟨_, _, happroval, h⟩ := commits_bind.mp h
  obtain ⟨a, hid, hopened, hnone, rfl⟩ := openApproval_commits happroval
  obtain ⟨_, _, hupdate, h⟩ := commits_bind.mp h
  obtain ⟨r, hr, rfl, rfl⟩ := commits_update.mp hupdate
  obtain ⟨_, rfl⟩ := commits_pure.mp h
  obtain rfl := mem_unique (find?_put_self _ _) hr
  let request : OvertimeRequest :=
    { id := requestId, companyId := employee.companyId, employeeId := employee.id, branchId := employee.branchId,
      requestedStart, requestedEnd, reason := dto.reason, approvalRequestId := some approvalId }
  refine ⟨employee, request, a, rfl, rfl, rfl, rfl, rfl, hid, hopened, hnew, hnone, ?_⟩
  simp only [TableOf.write, overtimeRequest, approvalRequest, HrDb.mk.injEq, true_and, and_true]
  exact Table.put_put _ rfl

/-! ### Reviews -/

def settled (status : Verdict) (now : ℤ) (a : ApprovalRequest) : ApprovalRequest :=
  { a with status := status.approvalStatus, decidedAt := some now }

def HrDb.pendingIn (db : HrDb) (approvalRequestId : Option ℕ) (scope : TenantScope) : Option ApprovalRequest :=
  (approvalRequestId.bind db.approvals.find?).filter fun a =>
    a.companyId = scope.companyId && a.branchId = some scope.branchId && a.status = .pending

def HrDb.settledApprovals (db : HrDb) (approvalRequestId : Option ℕ) (scope : TenantScope) (status : Verdict)
    (now : ℤ) : Table ApprovalRequest.id :=
  match db.pendingIn approvalRequestId scope with
  | none => db.approvals
  | some a => db.approvals.put (settled status now a)

variable {approvalRequestId : Option ℕ}

lemma pendingIn_find {a : ApprovalRequest} (h : db.pendingIn approvalRequestId scope = some a) :
    approvalRequestId = some a.id ∧ db.approvals.find? a.id = some a ∧ a.status = .pending := by
  obtain ⟨hbind, hcond⟩ := Option.filter_eq_some_iff.mp h
  obtain ⟨k, rfl, hfind⟩ := Option.bind_eq_some_iff.mp hbind
  have hkey := (find?_eq_some.mp hfind).2
  simp only [cond_iff] at hcond
  exact ⟨congrArg some hkey.symm, hkey ▸ hfind, hcond.2⟩

variable {dto : ReviewDto}

lemma settleApproval_commits
    (h : Commits (settleApproval approvalRequestId scope dto user now) db () db') :
    ∃ decisions, db' = { db with
      approvals := db.settledApprovals approvalRequestId scope dto.status now, decisions } := by
  simp only [settleApproval, commits_steps] at h
  obtain h := h
  change Commits (match db.pendingIn approvalRequestId scope with | none => _ | some approval => _) _ _ _ at h
  rw [HrDb.settledApprovals]
  cases hpending : db.pendingIn approvalRequestId scope with
  | none =>
    rw [hpending] at h
    obtain ⟨_, rfl⟩ := commits_pure.mp h
    exact ⟨_, rfl⟩
  | some approval =>
    rw [hpending] at h
    simp only [createDecision, commits_steps, commits_modify, commits_update] at h
    obtain ⟨_, _, rfl, _, _, ⟨a, ha, rfl, rfl⟩, _, rfl⟩ := h
    obtain rfl := Option.some.inj ((pendingIn_find hpending).2.1.symm.trans ha)
    exact ⟨_, rfl⟩

variable {id : ℕ}

lemma reviewLeave_commits (h : Commits (reviewLeave id dto user now) db () db') :
    ∃ r scope decisions, db.leaveRequests.find? id = some r ∧ r.companyId = scope.companyId ∧
      r.employeeId ∈ db.branchEmployeeIds scope ∧ r.status = .submitted ∧
      db' = { db with
        leaveRequests := db.leaveRequests.put { r with status := dto.status.requestStatus }
        approvals := db.settledApprovals r.approvalRequestId scope dto.status now
        decisions } := by
  simp only [reviewLeave, commits_steps, commits_requireTenantScope, commits_update] at h
  obtain ⟨scope, _, ⟨_, _, rfl⟩, r, hr, hstatus, _, _, ⟨r', hr', rfl, rfl⟩, hsettle⟩ := h
  obtain ⟨hfind, hcond⟩ := Option.filter_eq_some_iff.mp hr
  simp only [cond_iff] at hcond
  obtain rfl := mem_unique hfind hr'
  obtain ⟨decisions, rfl⟩ := settleApproval_commits hsettle
  exact ⟨r, scope, decisions, hfind, hcond.1, hcond.2, hstatus, rfl⟩

lemma reviewOvertime_commits
    (h : Commits (reviewOvertime id dto user now) db () db') :
    ∃ r approvedMinutes scope decisions, db.overtimeRequests.find? id = some r ∧ r.companyId = scope.companyId ∧
      r.branchId = some scope.branchId ∧ r.status = .submitted ∧
      db' = { db with
        overtimeRequests :=
          db.overtimeRequests.put { r with status := dto.status.requestStatus, approvedMinutes }
        approvals := db.settledApprovals r.approvalRequestId scope dto.status now
        decisions } := by
  simp only [reviewOvertime, commits_steps, commits_requireTenantScope, commits_update] at h
  obtain ⟨scope, _, ⟨_, _, rfl⟩, r, hr, hstatus, _, _, _, ⟨r', hr', rfl, rfl⟩, hsettle⟩ := h
  obtain ⟨hfind, hcond⟩ := Option.filter_eq_some_iff.mp hr
  simp only [cond_iff] at hcond
  obtain rfl := mem_unique hfind hr'
  obtain ⟨decisions, rfl⟩ := settleApproval_commits hsettle
  exact ⟨r, _, scope, decisions, hfind, hcond.1, hcond.2, hstatus, rfl⟩

/-! ### The approval engine -/

lemma decideApproval_commits {dto : DecideApprovalDto}
    (h : Commits (decideApproval id dto user now) db () db') :
    ∃ a scope decisions, user.companyId = some scope.companyId ∧ user.branchId = some scope.branchId ∧
      db.approvals.find? id = some a ∧ a.status = .pending ∧
      db' = { db with
        approvals :=
          db.approvals.put (decidedWith dto.status (approvalSteps (db.activePolicy a scope)) now a)
        decisions } := by
  obtain ⟨scope, hcompany, hbranch, h⟩ := commits_requireTenantScope_bind.mp h
  obtain ⟨a, ha, h⟩ := commits_orThrow_bind.mp (commits_get_bind.mp h)
  obtain ⟨hstatus, h⟩ := commits_require_bind.mp h
  obtain ⟨_, h⟩ := commits_require_bind.mp h
  obtain ⟨_, h⟩ := commits_require_bind.mp h
  obtain ⟨_, h⟩ := commits_require_bind.mp h
  obtain ⟨_, h⟩ := commits_require_bind.mp h
  obtain ⟨_, h⟩ := commits_require_bind.mp h
  obtain ⟨_, h⟩ := commits_require_bind.mp h
  obtain ⟨_, _, hdecision, hupdate⟩ := commits_bind.mp h
  obtain rfl := commits_modify.mp hdecision
  have hfind := (Option.filter_eq_some_iff.mp ha).1
  obtain ⟨a', ha', hcond, rfl⟩ := updateOne_commits hupdate
  simp only [cond_iff] at hcond
  obtain rfl : a' = a := by
    obtain ⟨hmem, hkey⟩ := find?_eq_some.mp hfind
    exact eq_of_key_eq ha' hmem (hcond.1.1.trans hkey.symm)
  exact ⟨a', scope, _, hcompany, hbranch, hfind, hstatus, rfl⟩

lemma delegateApproval_commits {targetUserId : ℕ}
    (h : Commits (delegateApproval id targetUserId user now) db () db') :
    ∃ a delegatedToId delegatedById delegatedAt, db.approvals.find? id = some a ∧
      db' = { db with
        approvals := db.approvals.put { a with delegatedToId, delegatedById, delegatedAt } } := by
  obtain ⟨_, _, _, h⟩ := commits_requireTenantScope_bind.mp h
  obtain ⟨_, _, h⟩ := commits_orThrow_bind.mp (commits_get_bind.mp h)
  obtain ⟨_, h⟩ := commits_require_bind.mp h
  obtain ⟨_, _, h⟩ := commits_orThrow_bind.mp h
  obtain ⟨_, h⟩ := commits_require_bind.mp h
  obtain ⟨_, h⟩ := commits_require_bind.mp h
  obtain ⟨_, h⟩ := commits_require_bind.mp h
  obtain ⟨_, h⟩ := commits_require_bind.mp h
  obtain ⟨_, h⟩ := commits_require_bind.mp h
  obtain ⟨_, _, hupdate, h⟩ := commits_bind.mp h
  obtain ⟨a, ha, rfl, rfl⟩ := commits_update.mp hupdate
  obtain ⟨_, rfl⟩ := commits_pure.mp h
  exact ⟨a, _, _, _, ha, rfl⟩

/-- Where an approval is escalated and not expired. -/
def Escalates (db : HrDb) (a : ApprovalRequest) : Prop :=
  a.escalatedAt = none ∧
    (stepAt (((a.policyId.bind db.policies.find?).bind ApprovalPolicy.steps).getD []) a.currentStep).escalationRoles
      ≠ []

instance (a : ApprovalRequest) : Decidable (Escalates db a) := inferInstanceAs (Decidable (_ ∧ _))

/-- The worker leaves an approval alone that is not pending or not due; otherwise it escalates it or lets it
expire. -/
lemma expireApproval_commits (h : Commits (expireApproval id now) db () db') :
    (db' = db ∧ ∀ a, db.approvals.find? id = some a → a.status = .pending → a.expiresAt.any (· ≤ now) = false) ∨
      ∃ a, db.approvals.find? id = some a ∧ a.status = .pending ∧ a.expiresAt.any (· ≤ now) = true ∧
        ((Escalates db a ∧ ∃ escalatedAt expiresAt escalationRoles, db' = { db with
            approvals := db.approvals.put { a with escalatedAt, expiresAt, escalationRoles } }) ∨
          (¬ Escalates db a ∧ db' = { db with
            approvals := db.approvals.put { a with status := .expired, decidedAt := some now } })) := by
  simp only [expireApproval, commits_steps] at h
  obtain h := h
  split at h
  next hnone =>
    obtain ⟨_, rfl⟩ := commits_pure.mp h
    refine .inl ⟨rfl, fun a ha hpending => ?_⟩
    have := Option.filter_eq_none_iff.mp hnone a ha
    simpa [hpending] using this
  next a ha =>
    obtain ⟨hfind, hcond⟩ := Option.filter_eq_some_iff.mp ha
    simp only [cond_iff] at hcond
    obtain ⟨hmem, hkey⟩ := find?_eq_some.mp hfind
    subst hkey
    refine .inr ⟨a, hfind, hcond.1, hcond.2, ?_⟩
    simp only [commits_ite, commits_steps, commits_update] at h
    obtain ⟨hesc, _, _, ⟨a', ha', rfl, rfl⟩, _, rfl⟩ | ⟨hesc, n, _, hupdate, _, rfl⟩ := h
    · obtain rfl := mem_unique hfind ha'
      exact .inl ⟨hesc, _, _, _, rfl⟩
    · refine .inr ⟨hesc, ?_⟩
      have hkeys (r : ApprovalRequest)
          (hr : (r.id = a.id && r.status = .pending && r.currentStep = a.currentStep) = true) :
          r.id = a.id := by
        simp only [cond_iff] at hr
        exact hr.1.1
      obtain ⟨rfl, _⟩ | ⟨_, r, hr, hmatch, rfl⟩ := updateKey_commits (fun _ => rfl) hkeys hupdate
      · have hcount := (commits_updateMany.mp hupdate).1
        have hself : a ∈ db.approvals.findMany fun r =>
            r.id = a.id && r.status = .pending && r.currentStep = a.currentStep :=
          mem_findMany.mpr ⟨hmem, by simp [hcond.1]⟩
        exact absurd (List.length_eq_zero_iff.mp hcount.symm) (List.ne_nil_of_mem hself)
      · obtain rfl := eq_of_key_eq hr hmem (hkeys r hmatch)
        rfl

inductive HrEvent
  | submitLeave (requestId approvalId : ℕ) (dto : CreateLeaveRequestDto) (user : AuthUser)
  | submitOvertime (requestId approvalId : ℕ) (dto : CreateOvertimeRequestDto) (user : AuthUser)
  | reviewLeave (id : ℕ) (dto : ReviewDto) (user : AuthUser) (now : ℤ)
  | reviewOvertime (id : ℕ) (dto : ReviewDto) (user : AuthUser) (now : ℤ)
  | decideApproval (id : ℕ) (dto : DecideApprovalDto) (user : AuthUser) (now : ℤ)
  | delegateApproval (id targetUserId : ℕ) (user : AuthUser) (now : ℤ)
  | expireApproval (id : ℕ) (now : ℤ)
  | elsewhere

/-- Any other operation: it may open approvals that no request names, and change policies, users, and
employees apart from their branch. -/
structure Outside (db db' : HrDb) : Prop where
  leaveRequests : db'.leaveRequests = db.leaveRequests
  overtimeRequests : db'.overtimeRequests = db.overtimeRequests
  leaveTypes : db'.leaveTypes = db.leaveTypes
  approvals : ∀ id a, db.approvals.find? id = some a → db'.approvals.find? id = some a
  employees : ∀ id e, db.employees.find? id = some e →
    ∃ e', db'.employees.find? id = some e' ∧ e'.branchId = e.branchId

def HrStep (db : HrDb) (e : HrEvent) (db' : HrDb) : Prop :=
  match e with
  | .submitLeave requestId approvalId dto user => Commits (submitLeave requestId approvalId dto user) db () db'
  | .submitOvertime requestId approvalId dto user =>
    Commits (submitOvertime requestId approvalId dto user) db () db'
  | .reviewLeave id dto user now => Commits (reviewLeave id dto user now) db () db'
  | .reviewOvertime id dto user now => Commits (reviewOvertime id dto user now) db () db'
  | .decideApproval id dto user now => Commits (decideApproval id dto user now) db () db'
  | .delegateApproval id targetUserId user now => Commits (delegateApproval id targetUserId user now) db () db'
  | .expireApproval id now => Commits (expireApproval id now) db () db'
  | .elsewhere => Outside db db'

end Mayatoko.Hr
