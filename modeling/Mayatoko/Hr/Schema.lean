import Mayatoko.Auth.Schema
import Mayatoko.Common.UtcDate

/-!
# Requests of employees and approvals

The tables of `HrService` and of the approval engine of `PlatformService` and the worker. Instants are
milliseconds since the start of 1970, also before it. What only the audit log and the notifications are
written from is left out.
-/

namespace Mayatoko.Hr

open Core
open Auth (AuthUser)

structure TenantScope where
  (companyId branchId : ℕ)

structure Employee where
  (id companyId : ℕ)
  (branchId userId : Option ℕ)
  isActive : Bool := true

structure LeaveType where
  (id companyId : ℕ)
  name : String
  annualQuota : Option ℚ := none
  requiresDocument : Bool := false
  isActive : Bool := true
  deriving DecidableEq

inductive ApprovalRequestStatus
  | draft
  | submitted
  | approved
  | rejected
  | cancelled
  deriving DecidableEq

def ApprovalRequestStatus.text : ApprovalRequestStatus → String
  | draft => "DRAFT"
  | submitted => "SUBMITTED"
  | approved => "APPROVED"
  | rejected => "REJECTED"
  | cancelled => "CANCELLED"

structure LeaveRequest where
  (id companyId employeeId leaveTypeId : ℕ)
  (startDate endDate totalDays : ℤ)
  reason : Option String := none
  documentObjectKey : Option String := none
  status : ApprovalRequestStatus := .submitted
  approvalRequestId : Option ℕ := none
  deriving DecidableEq

structure OvertimeRequest where
  (id companyId employeeId : ℕ)
  branchId : Option ℕ
  (requestedStart requestedEnd : ℤ)
  approvedMinutes : Option ℤ := none
  reason : Option String := none
  status : ApprovalRequestStatus := .submitted
  approvalRequestId : Option ℕ := none

inductive ApprovalStatus
  | draft
  | pending
  | approved
  | rejected
  | cancelled
  | expired
  deriving DecidableEq

structure ApprovalStep where
  roles : List String := []
  permissions : List String := []
  expiresInMinutes : Option ℚ := none
  escalationRoles : List String := []
  escalationMinutes : Option ℚ := none

structure ApprovalPolicy where
  (id companyId : ℕ)
  code : String
  /-- None when the configuration is not a list. -/
  steps : Option (List ApprovalStep)
  isActive : Bool := true

structure ApprovalRequest where
  id : ℕ
  policyId : Option ℕ := none
  companyId : ℕ
  branchId : Option ℕ
  entityType : String
  entityId : ℕ
  requesterId : Option ℕ
  status : ApprovalStatus := .pending
  currentStep : ℕ := 1
  /-- The roles that an escalation has added to the context. -/
  escalationRoles : List String := []
  expiresAt : Option ℤ := none
  escalatedAt : Option ℤ := none
  delegatedToId : Option ℕ := none
  delegatedById : Option ℕ := none
  delegatedAt : Option ℤ := none
  decidedAt : Option ℤ := none

structure ApprovalDecision where
  (requestId step approverId : ℕ)
  status : ApprovalStatus
  notes : Option String

structure User where
  id : ℕ
  (branchId companyId : Option ℕ)
  isActive : Bool := true
  branchIsActive : Bool := true
  roles : List String := []
  permissions : List String := []

structure HrDb where
  employees : Table Employee.id
  users : Table User.id
  leaveTypes : Table LeaveType.id
  leaveRequests : Table LeaveRequest.id
  overtimeRequests : Table OvertimeRequest.id
  policies : Table ApprovalPolicy.id
  approvals : Table ApprovalRequest.id
  /-- In the order of creation. -/
  decisions : List ApprovalDecision

abbrev HrTx := Tx HrDb Failure

namespace HrDb

def leaveRequest : TableOf HrDb LeaveRequest.id :=
  ⟨leaveRequests, fun db t => { db with leaveRequests := t }⟩

def overtimeRequest : TableOf HrDb OvertimeRequest.id :=
  ⟨overtimeRequests, fun db t => { db with overtimeRequests := t }⟩

def approvalRequest : TableOf HrDb ApprovalRequest.id :=
  ⟨approvals, fun db t => { db with approvals := t }⟩

end HrDb

def createDecision (d : ApprovalDecision) : HrTx Unit :=
  modify fun db => { db with decisions := db.decisions ++ [d] }

def requireTenantScope (user : AuthUser) : HrTx TenantScope :=
  match user.companyId, user.branchId with
  | some companyId, some branchId => pure ⟨companyId, branchId⟩
  | _, _ => throw (.forbidden "Pengguna belum memiliki company dan branch yang valid.")

/-! ### Dates -/

/-- The length of the 400 years after which the calendar repeats. -/
def eraMs : ℤ := 146097 * 86400000

def utcFullYear (t : ℤ) : ℤ := 400 * (t / eraMs) + Common.getUTCFullYear (t % eraMs).toNat

/-- The first instant of a year. -/
def yearStart (year : ℤ) : ℤ :=
  let y := year - 1
  (365 * y + y / 4 - y / 100 + y / 400 - 719162) * 86400000

example : yearStart 1970 = 0 ∧ utcFullYear (yearStart 2025 - 1) = 2024 ∧ utcFullYear (yearStart 2025) = 2025 ∧
    utcFullYear (yearStart 1900 - 1) = 1899 := by decide +kernel

/-- The days from the one of `start` to the one of `finish`, both included. -/
def inclusiveCalendarDays (start finish : ℤ) : ℤ := finish / 86400000 - start / 86400000 + 1

/-- A number as a text: up to 30 decimal places, as many as it has. -/
def numberText (x : ℚ) : String :=
  let places := ((List.range 31).find? fun k => (x * 10 ^ k).den = 1).getD 30
  let digits := (padStart (toString (x.num.natAbs * 10 ^ places / x.den)) (places + 1) '0').toList
  let whole := digits.take (digits.length - places)
  let decimals := digits.drop (digits.length - places)
  String.ofList ((if x < 0 then ['-'] else []) ++ whole ++ if decimals = [] then [] else '.' :: decimals)

example : numberText 12 = "12" ∧ numberText (21 / 2) = "10.5" ∧ numberText (1 / 20) = "0.05" := by
  decide +kernel

end Mayatoko.Hr
