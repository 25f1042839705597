import Mayatoko.Hr.Steps

/-!
# Requests and their approvals

A request for leave or overtime and its approval are two rows for one decision. A review writes both, while the
approval engine writes the approval only. They agree along a history exactly if the engine neither decides nor
lets expire the approval of a request that waits.
-/

namespace Mayatoko.Hr

open Core TableOf HrDb
open Auth (AuthUser)

variable {db db' : HrDb}

/-! ### What an approval is about -/

structure Subject where
  entityType : String
  (entityId companyId : ℕ)
  branchId : Option ℕ
  status : ApprovalRequestStatus
  approvalRequestId : Option ℕ
  deriving DecidableEq

def Subject.entity (s : Subject) : String × ℕ := (s.entityType, s.entityId)

def ApprovalRequest.entity (a : ApprovalRequest) : String × ℕ := (a.entityType, a.entityId)

def LeaveRequest.subject (employees : Table Employee.id) (r : LeaveRequest) : Subject where
  entityType := "LeaveRequest"
  entityId := r.id
  companyId := r.companyId
  branchId := (employees.find? r.employeeId).bind Employee.branchId
  status := r.status
  approvalRequestId := r.approvalRequestId

def OvertimeRequest.subject (r : OvertimeRequest) : Subject where
  entityType := "OvertimeRequest"
  entityId := r.id
  companyId := r.companyId
  branchId := r.branchId
  status := r.status
  approvalRequestId := r.approvalRequestId

def HrDb.subjects (db : HrDb) : List Subject :=
  db.leaveRequests.rows.map (LeaveRequest.subject db.employees) ++
    db.overtimeRequests.rows.map OvertimeRequest.subject

/-- The two rows do not contradict each other. -/
structure Agree (status : ApprovalRequestStatus) (a : ApprovalRequest) : Prop where
  approved : status = .approved → a.status = .approved
  rejected : status = .rejected → a.status = .rejected
  submitted : status = .submitted → a.status = .pending

def InSync (subjects : List Subject) (approvals : Table ApprovalRequest.id) : Prop :=
  ∀ s ∈ subjects, ∃ a, s.approvalRequestId.bind approvals.find? = some a ∧ Agree s.status a

def HrDb.InSync (db : HrDb) : Prop := Hr.InSync db.subjects db.approvals

structure AboutSubject (s : Subject) (a : ApprovalRequest) : Prop where
  entity : a.entity = s.entity
  companyId : a.companyId = s.companyId
  branchId : a.branchId = s.branchId

def Linked (subjects : List Subject) (approvals : Table ApprovalRequest.id) : Prop :=
  ∀ s ∈ subjects, ∃ a, s.approvalRequestId.bind approvals.find? = some a ∧ AboutSubject s a

def KeepsSubjects (approvals approvals' : Table ApprovalRequest.id) : Prop :=
  ∀ id a, approvals.find? id = some a → ∃ a', approvals'.find? id = some a' ∧ a'.entity = a.entity ∧
    a'.companyId = a.companyId ∧ a'.branchId = a.branchId

def Written (s : Subject) (subjects subjects' : List Subject) : Prop :=
  ∀ x, x ∈ subjects' ↔ x = s ∨ x ∈ subjects ∧ x.entity ≠ s.entity

variable {s : Subject} {subjects subjects' : List Subject} {approvals approvals' : Table ApprovalRequest.id}
  {a a' : ApprovalRequest}

lemma keepsSubjects_put (h : approvals.find? a'.id = some a) (hentity : a'.entity = a.entity)
    (hcompany : a'.companyId = a.companyId) (hbranch : a'.branchId = a.branchId) :
    KeepsSubjects approvals (approvals.put a') := by
  intro id x hx
  by_cases hid : id = a'.id
  · subst hid
    obtain rfl := mem_unique h hx
    exact ⟨a', find?_put_self _ _, hentity, hcompany, hbranch⟩
  · exact ⟨x, (find?_put_of_ne _ hid).trans hx, rfl, rfl, rfl⟩

lemma keepsSubjects_put_new (h : approvals.find? a'.id = none) :
    KeepsSubjects approvals (approvals.put a') := by
  intro id x hx
  have hid : id ≠ a'.id := by
    rintro rfl
    rw [h] at hx
    cases hx
  exact ⟨x, (find?_put_of_ne _ hid).trans hx, rfl, rfl, rfl⟩

lemma KeepsSubjects.about (hkeeps : KeepsSubjects approvals approvals')
    (h : s.approvalRequestId.bind approvals.find? = some a) (ha : AboutSubject s a) :
    ∃ a', s.approvalRequestId.bind approvals'.find? = some a' ∧ AboutSubject s a' := by
  obtain ⟨id, hid, hfind⟩ := Option.bind_eq_some_iff.mp h
  obtain ⟨a', hfind', hentity, hcompany, hbranch⟩ := hkeeps id a hfind
  refine ⟨a', by rw [hid]; exact hfind', ?_⟩
  exact ⟨hentity.trans ha.entity, hcompany.trans ha.companyId, hbranch.trans ha.branchId⟩

lemma Linked.keeps (h : Linked subjects approvals) (hkeeps : KeepsSubjects approvals approvals') :
    Linked subjects approvals' := by
  intro s hs
  obtain ⟨a, hfind, habout⟩ := h s hs
  exact hkeeps.about hfind habout

lemma Linked.written (h : Linked subjects approvals) (hkeeps : KeepsSubjects approvals approvals')
    (hw : Written s subjects subjects')
    (hs : ∃ a, s.approvalRequestId.bind approvals'.find? = some a ∧ AboutSubject s a) :
    Linked subjects' approvals' := by
  intro x hx
  obtain rfl | ⟨hold, _⟩ := (hw x).mp hx
  · exact hs
  · exact h.keeps hkeeps x hold

lemma InSync.written (hlinked : Linked subjects approvals) (h : InSync subjects approvals)
    (hw : Written s subjects subjects')
    (hown : ∀ a, s.approvalRequestId.bind approvals.find? = some a → a.entity = s.entity)
    (hothers : ∀ id, s.approvalRequestId ≠ some id → approvals'.find? id = approvals.find? id)
    (hs : ∃ a, s.approvalRequestId.bind approvals'.find? = some a ∧ Agree s.status a) :
    InSync subjects' approvals' := by
  intro x hx
  obtain rfl | ⟨hold, hne⟩ := (hw x).mp hx
  · exact hs
  · obtain ⟨a, hfind, hagree⟩ := h x hold
    obtain ⟨a', hfind', habout⟩ := hlinked x hold
    obtain rfl := mem_unique hfind hfind'
    obtain ⟨id, hid, hrow⟩ := Option.bind_eq_some_iff.mp hfind
    -- two requests do not share an approval
    have hdistinct : s.approvalRequestId ≠ some id := by
      intro hsame
      have hentity := hown a (by rw [hsame]; exact hrow)
      exact hne (habout.entity.symm.trans hentity)
    refine ⟨a, ?_, hagree⟩
    rw [hid]
    exact (hothers id hdistinct).trans hrow

lemma inSync_put (h : InSync subjects approvals) : InSync subjects (approvals.put a') ↔
    ∀ s ∈ subjects, s.approvalRequestId = some a'.id → Agree s.status a' := by
  constructor
  · intro h' s hs hid
    obtain ⟨a, hfind, hagree⟩ := h' s hs
    rw [hid] at hfind
    obtain rfl := mem_unique (find?_put_self _ _) hfind
    exact hagree
  · intro hagree s hs
    obtain ⟨a, hfind, ha⟩ := h s hs
    obtain ⟨id, hid, hrow⟩ := Option.bind_eq_some_iff.mp hfind
    by_cases hsame : id = a'.id
    · subst hsame
      exact ⟨a', by rw [hid]; exact find?_put_self _ _, hagree s hs hid⟩
    · exact ⟨a, by rw [hid]; exact (find?_put_of_ne _ hsame).trans hrow, ha⟩

lemma InSync.agree_of_find (h : InSync subjects approvals) (hs : s ∈ subjects)
    (hid : s.approvalRequestId = some a.id) (ha : approvals.find? a.id = some a) : Agree s.status a := by
  obtain ⟨b, hfind, hagree⟩ := h s hs
  rw [hid] at hfind
  obtain rfl := mem_unique ha hfind
  exact hagree

lemma written_leave (r : LeaveRequest) {db' : HrDb} (hleave : db'.leaveRequests = db.leaveRequests.put r)
    (hovertime : db'.overtimeRequests = db.overtimeRequests) (hemployees : db'.employees = db.employees) :
    Written (r.subject db.employees) db.subjects db'.subjects := by
  intro x
  simp only [subjects, hleave, hovertime, hemployees, mem_append, mem_map]
  constructor
  · rintro (⟨r', hr', rfl⟩ | ⟨o, ho, rfl⟩)
    · obtain rfl | ⟨hold, hne⟩ := mem_put.mp hr'
      · exact .inl rfl
      · refine .inr ⟨.inl ⟨r', hold, rfl⟩, ?_⟩
        intro he
        exact hne (Prod.mk.inj he).2
    · refine .inr ⟨.inr ⟨o, ho, rfl⟩, ?_⟩
      intro he
      have := (Prod.mk.inj he).1
      simp [OvertimeRequest.subject, LeaveRequest.subject] at this
  · rintro (rfl | ⟨⟨r', hr', rfl⟩ | ho, hne⟩)
    · exact .inl ⟨r, mem_put_self _ _, rfl⟩
    · refine .inl ⟨r', mem_put.mpr (Or.inr ⟨hr', ?_⟩), rfl⟩
      intro hid
      exact hne (congrArg (Prod.mk "LeaveRequest") hid)
    · exact .inr ho

lemma written_overtime (r : OvertimeRequest) {db' : HrDb} (hleave : db'.leaveRequests = db.leaveRequests)
    (hovertime : db'.overtimeRequests = db.overtimeRequests.put r) (hemployees : db'.employees = db.employees) :
    Written r.subject db.subjects db'.subjects := by
  intro x
  simp only [subjects, hleave, hovertime, hemployees, mem_append, mem_map]
  constructor
  · rintro (⟨l, hl, rfl⟩ | ⟨r', hr', rfl⟩)
    · refine .inr ⟨.inl ⟨l, hl, rfl⟩, ?_⟩
      intro he
      have := (Prod.mk.inj he).1
      simp [OvertimeRequest.subject, LeaveRequest.subject] at this
    · obtain rfl | ⟨hold, hne⟩ := mem_put.mp hr'
      · exact .inl rfl
      · refine .inr ⟨.inr ⟨r', hold, rfl⟩, ?_⟩
        intro he
        exact hne (Prod.mk.inj he).2
  · rintro (rfl | ⟨hl | ⟨r', hr', rfl⟩, hne⟩)
    · exact .inr ⟨r, mem_put_self _ _, rfl⟩
    · exact .inl hl
    · refine .inr ⟨r', mem_put.mpr (Or.inr ⟨hr', ?_⟩), rfl⟩
      intro hid
      exact hne (congrArg (Prod.mk "OvertimeRequest") hid)

structure Connected (db : HrDb) : Prop where
  linked : Linked db.subjects db.approvals
  employees : ∀ r ∈ db.leaveRequests, ∃ e, db.employees.find? r.employeeId = some e

lemma Connected.of_approvals (h : Connected db) (hleave : db'.leaveRequests = db.leaveRequests)
    (hovertime : db'.overtimeRequests = db.overtimeRequests) (hemployees : db'.employees = db.employees)
    (hkeeps : KeepsSubjects db.approvals db'.approvals) : Connected db' := by
  have hsubjects : db'.subjects = db.subjects := by rw [subjects, subjects, hleave, hovertime, hemployees]
  constructor
  case linked =>
    rw [hsubjects]
    exact h.linked.keeps hkeeps
  case employees =>
    rw [hleave, hemployees]
    exact h.employees

lemma Opened.about {entityType : String} {entityId : ℕ} {employee : Employee}
    (h : Opened entityType entityId employee a)
    (htype : s.entityType = entityType) (hid : s.entityId = entityId)
    (hcompany : s.companyId = employee.companyId)
    (hbranch : s.branchId = employee.branchId) : AboutSubject s a := by
  constructor
  · rw [ApprovalRequest.entity, Subject.entity, h.entityType, h.entityId, htype, hid]
  · exact h.companyId.trans hcompany.symm
  · exact h.branchId.trans hbranch.symm

lemma InSync.opened (hlinked : Linked subjects approvals) (hw : Written s subjects subjects')
    (hnew : approvals.find? a.id = none) (hid : s.approvalRequestId = some a.id) (habout : AboutSubject s a)
    (hstatus : s.status = .submitted) (hpending : a.status = .pending) :
    Linked subjects' (approvals.put a) ∧ (InSync subjects approvals → InSync subjects' (approvals.put a)) := by
  have hfind : s.approvalRequestId.bind (approvals.put a).find? = some a := by
    rw [hid]
    exact find?_put_self _ _
  refine ⟨hlinked.written (keepsSubjects_put_new hnew) hw ⟨a, hfind, habout⟩, fun h => ?_⟩
  apply h.written hlinked hw
  · intro b hb
    rw [hid] at hb
    rw [show (some a.id).bind approvals.find? = none from hnew] at hb
    cases hb
  · intro id hne
    apply find?_put_of_ne
    rintro rfl
    exact hne hid
  · refine ⟨a, hfind, ?_⟩
    constructor
    all_goals simp [hstatus, hpending]

variable {user : AuthUser}

lemma submitLeave_step {requestId approvalId : ℕ} {dto : CreateLeaveRequestDto}
    (hc : Connected db) (h : Commits (submitLeave requestId approvalId dto user) db () db') :
    Connected db' ∧ (db.InSync → db'.InSync) := by
  obtain ⟨employee, r, a, hemployee, rfl, hby, hcompany, hstatus, hlink, rfl, hopened, _, hnew, hdb⟩ :=
    submitLeave_commits h
  have hw : Written (r.subject db.employees) db.subjects db'.subjects :=
    written_leave r (by rw [hdb]) (by rw [hdb]) (by rw [hdb])
  subst hdb
  have hbranch : (r.subject db.employees).branchId = employee.branchId := by
    rw [LeaveRequest.subject, hby, hemployee]
    rfl
  have hopen := InSync.opened hc.linked hw hnew hlink
    (hopened.about rfl rfl hcompany hbranch) hstatus hopened.status
  refine ⟨⟨hopen.1, ?_⟩, hopen.2⟩
  intro r' hr'
  obtain rfl | ⟨hold, _⟩ := mem_put.mp hr'
  · exact ⟨employee, hby ▸ hemployee⟩
  · exact hc.employees r' hold

lemma submitOvertime_step {requestId approvalId : ℕ} {dto : CreateOvertimeRequestDto}
    (hc : Connected db) (h : Commits (submitOvertime requestId approvalId dto user) db () db') :
    Connected db' ∧ (db.InSync → db'.InSync) := by
  obtain ⟨employee, r, a, rfl, hcompany, hbranch, hstatus, hlink, rfl, hopened, _, hnew, hdb⟩ :=
    submitOvertime_commits h
  have hw : Written r.subject db.subjects db'.subjects :=
    written_overtime r (by rw [hdb]) (by rw [hdb]) (by rw [hdb])
  subst hdb
  have hopen := InSync.opened hc.linked hw hnew hlink
    (hopened.about rfl rfl hcompany hbranch) hstatus hopened.status
  exact ⟨⟨hopen.1, hc.employees⟩, hopen.2⟩

/-! ### Reviews -/

variable {now : ℤ}

lemma keepsSubjects_settled {approvalRequestId : Option ℕ} {scope : TenantScope} {status : Verdict} :
    KeepsSubjects db.approvals (db.settledApprovals approvalRequestId scope status now) := by
  rw [settledApprovals]
  cases hpending : db.pendingIn approvalRequestId scope with
  | none => exact fun id a ha => ⟨a, ha, rfl, rfl, rfl⟩
  | some a => exact keepsSubjects_put (pendingIn_find hpending).2.1 rfl rfl rfl

lemma pendingIn_of_inSync {scope : TenantScope} (hlinked : Linked db.subjects db.approvals) (h : db.InSync)
    (hs : s ∈ db.subjects) (hstatus : s.status = .submitted) (hcompany : s.companyId = scope.companyId)
    (hbranch : s.branchId = some scope.branchId) : ∃ a, db.pendingIn s.approvalRequestId scope = some a := by
  obtain ⟨a, hfind, hagree⟩ := h s hs
  obtain ⟨b, hfind', habout⟩ := hlinked s hs
  obtain rfl := mem_unique hfind hfind'
  refine ⟨a, Option.filter_eq_some_iff.mpr ⟨hfind, ?_⟩⟩
  simp [habout.companyId, habout.branchId, hcompany, hbranch, hagree.submitted hstatus]

/-- A review of a request that waits writes the same verdict twice. -/
lemma InSync.reviewed (now : ℤ) {scope : TenantScope} {status : Verdict} {s₀ : Subject}
    (hc : Linked db.subjects db.approvals) (hs₀ : s₀ ∈ db.subjects) (hwaits : s₀.status = .submitted)
    (hcompany : s₀.companyId = scope.companyId) (hbranch : s₀.branchId = some scope.branchId)
    (hsame : s = { s₀ with status := status.requestStatus }) (hw : Written s db.subjects subjects') :
    Linked subjects' (db.settledApprovals s₀.approvalRequestId scope status now) ∧
      (db.InSync → InSync subjects' (db.settledApprovals s₀.approvalRequestId scope status now)) := by
  subst hsame
  obtain ⟨b, hfind, habout⟩ := hc s₀ hs₀
  have hkeeps : KeepsSubjects db.approvals (db.settledApprovals s₀.approvalRequestId scope status now) :=
    keepsSubjects_settled
  obtain ⟨b', hfind', habout'⟩ := hkeeps.about hfind habout
  refine ⟨hc.written hkeeps hw ⟨b', hfind', habout'.entity, habout'.companyId, habout'.branchId⟩, fun h => ?_⟩
  obtain ⟨a, hpending⟩ := pendingIn_of_inSync hc h hs₀ hwaits hcompany hbranch
  obtain ⟨hid, hrow, _⟩ := pendingIn_find hpending
  have hput : db.settledApprovals s₀.approvalRequestId scope status now =
      db.approvals.put (settled status now a) := by
    rw [settledApprovals, hpending]
  rw [hput]
  apply InSync.written hc h hw
  · intro c hcfind
    obtain rfl := mem_unique hfind hcfind
    exact habout.entity
  · intro id hne
    apply find?_put_of_ne
    rintro rfl
    exact hne hid
  · refine ⟨settled status now a, ?_, ?_⟩
    · change s₀.approvalRequestId.bind (db.approvals.put (settled status now a)).find? = _
      rw [hid]
      exact find?_put_self db.approvals (settled status now a)
    · constructor
      all_goals cases status <;> simp [Verdict.requestStatus, settled, Verdict.approvalStatus]

variable {id : ℕ}

lemma reviewLeave_step {dto : ReviewDto} (hc : Connected db)
    (h : Commits (reviewLeave id dto user now) db () db') : Connected db' ∧ (db.InSync → db'.InSync) := by
  obtain ⟨r, scope, decisions, hfind, hcompany, hmember, hstatus, hdb⟩ := reviewLeave_commits h
  have hw : Written (LeaveRequest.subject db.employees { r with status := dto.status.requestStatus }) db.subjects
      db'.subjects := written_leave _ (by rw [hdb]) (by rw [hdb]) (by rw [hdb])
  subst hdb
  have hr := (find?_eq_some.mp hfind).1
  have hs : r.subject db.employees ∈ db.subjects := List.mem_append_left _ (mem_map_of_mem hr)
  have hbranch : (r.subject db.employees).branchId = some scope.branchId := by
    obtain ⟨e, he, hid⟩ := mem_map.mp hmember
    obtain ⟨hmem, hcond⟩ := mem_findMany.mp he
    simp only [cond_iff] at hcond
    rw [LeaveRequest.subject, ← hid, find?_of_mem hmem]
    exact hcond.2
  have hreviewed := InSync.reviewed now hc.linked hs hstatus hcompany hbranch rfl hw
  refine ⟨⟨hreviewed.1, ?_⟩, hreviewed.2⟩
  intro r' hr'
  obtain rfl | ⟨hold, _⟩ := mem_put.mp hr'
  · exact hc.employees r hr
  · exact hc.employees r' hold

lemma reviewOvertime_step {dto : ReviewDto} (hc : Connected db)
    (h : Commits (reviewOvertime id dto user now) db () db') : Connected db' ∧ (db.InSync → db'.InSync) := by
  obtain ⟨r, approvedMinutes, scope, decisions, hfind, hcompany, hbranch, hstatus, hdb⟩ :=
    reviewOvertime_commits h
  have hw : Written (OvertimeRequest.subject { r with status := dto.status.requestStatus, approvedMinutes })
      db.subjects db'.subjects := written_overtime _ (by rw [hdb]) (by rw [hdb]) (by rw [hdb])
  subst hdb
  have hr := (find?_eq_some.mp hfind).1
  have hs : r.subject ∈ db.subjects := mem_append_right _ (mem_map_of_mem hr)
  have hreviewed := InSync.reviewed now hc.linked hs hstatus hcompany hbranch rfl hw
  exact ⟨⟨hreviewed.1, hc.employees⟩, hreviewed.2⟩

/-! ### The approval engine -/

def HrDb.Awaited (db : HrDb) (id : ℕ) : Prop :=
  ∃ s ∈ db.subjects, s.approvalRequestId = some id ∧ s.status = .submitted

lemma inSync_put_pending (h : db.InSync) (ha : db.approvals.find? a.id = some a)
    (hpending : a.status = .pending)
    (hid : a'.id = a.id) (hstatus : a'.status = .pending) : InSync db.subjects (db.approvals.put a') := by
  refine (inSync_put h).mpr fun s hs hlink => ?_
  have hagree := h.agree_of_find hs (hid ▸ hlink) ha
  constructor
  · intro happroved
    exact hstatus.trans (hpending.symm.trans (hagree.approved happroved))
  · intro hrejected
    exact hstatus.trans (hpending.symm.trans (hagree.rejected hrejected))
  · exact fun _ => hstatus

lemma inSync_put_final (h : db.InSync) (ha : db.approvals.find? a.id = some a) (hpending : a.status = .pending)
    (hid : a'.id = a.id) (hstatus : a'.status ≠ .pending) :
    InSync db.subjects (db.approvals.put a') ↔ ¬ db.Awaited a.id := by
  rw [inSync_put h, hid]
  constructor
  · rintro hagree ⟨s, hs, hlink, hwaits⟩
    exact hstatus ((hagree s hs hlink).submitted hwaits)
  · intro hnone s hs hlink
    have hagree := h.agree_of_find hs hlink ha
    constructor
    · intro happroved
      have := hpending.symm.trans (hagree.approved happroved)
      cases this
    · intro hrejected
      have := hpending.symm.trans (hagree.rejected hrejected)
      cases this
    · intro hwaits
      exact absurd ⟨s, hs, hlink, hwaits⟩ hnone

lemma decidedWith_entity (status : Verdict) (steps : List ApprovalStep) (now : ℤ) (a : ApprovalRequest) :
    (decidedWith status steps now a).entity = a.entity ∧
      (decidedWith status steps now a).companyId = a.companyId ∧
      (decidedWith status steps now a).branchId = a.branchId := by
  cases status with
  | rejected => exact ⟨rfl, rfl, rfl⟩
  | approved =>
    rw [decidedWith]
    split_ifs
    · exact ⟨rfl, rfl, rfl⟩
    · exact ⟨rfl, rfl, rfl⟩

lemma decidedWith_pending_iff {status : Verdict} {steps : List ApprovalStep} :
    (decidedWith status steps now a).status = .pending ↔ status = .approved ∧ a.currentStep < steps.length := by
  cases status with
  | rejected => simp [decidedWith]
  | approved =>
    rw [decidedWith]
    split_ifs with hlast
    · simp [hlast]
    · simp [not_le.mp hlast]

/-- The engine does not settle an approval that a request waits for: a decision approves a step that is not the
last, and the worker escalates it instead of letting it expire. -/
def LeavesOpen (db : HrDb) : HrEvent → Prop
  | .decideApproval id dto user _ => ∀ a scope, db.approvals.find? id = some a →
      user.companyId = some scope.companyId → user.branchId = some scope.branchId → db.Awaited id →
      dto.status = .approved ∧ a.currentStep < (approvalSteps (db.activePolicy a scope)).length
  | .expireApproval id now => ∀ a, db.approvals.find? id = some a → a.status = .pending →
      a.expiresAt.any (· ≤ now) = true → db.Awaited id → Escalates db a
  | .submitLeave .. | .submitOvertime .. | .reviewLeave .. | .reviewOvertime .. | .delegateApproval ..
  | .elsewhere => True

lemma decideApproval_step {dto : DecideApprovalDto} (hc : Connected db)
    (h : Commits (decideApproval id dto user now) db () db') :
    Connected db' ∧ (db.InSync → (db'.InSync ↔ LeavesOpen db (.decideApproval id dto user now))) := by
  obtain ⟨a, scope, decisions, hcompany, hbranch, hfind, hpending, rfl⟩ := decideApproval_commits h
  have hkey : a.id = id := (find?_eq_some.mp hfind).2
  subst hkey
  have hid := decidedWith_id dto.status (approvalSteps (db.activePolicy a scope)) now a
  obtain ⟨hentity, hcompany', hbranch'⟩ :=
    decidedWith_entity dto.status (approvalSteps (db.activePolicy a scope)) now a
  refine ⟨hc.of_approvals rfl rfl rfl (keepsSubjects_put (hid ▸ hfind) hentity hcompany' hbranch'),
    fun hsync => ?_⟩
  change InSync db.subjects _ ↔ _
  have hguard : LeavesOpen db (.decideApproval a.id dto user now) ↔ (db.Awaited a.id →
      dto.status = .approved ∧ a.currentStep < (approvalSteps (db.activePolicy a scope)).length) := by
    constructor
    · intro hopen
      exact hopen a scope hfind hcompany hbranch
    · intro hopen a' scope' hfind' hcompany'' hbranch''
      obtain rfl := mem_unique hfind hfind'
      obtain rfl : scope = scope' := by
        obtain ⟨c, b⟩ := scope
        obtain ⟨c', b'⟩ := scope'
        obtain rfl := mem_unique hcompany hcompany''
        obtain rfl := mem_unique hbranch hbranch''
        rfl
      exact hopen
  rw [hguard, ← decidedWith_pending_iff]
  by_cases hstatus : (decidedWith dto.status (approvalSteps (db.activePolicy a scope)) now a).status = .pending
  · exact iff_of_true (inSync_put_pending hsync hfind hpending hid hstatus) fun _ => hstatus
  · rw [inSync_put_final hsync hfind hpending hid hstatus]
    exact ⟨fun hnone hwaits => absurd hwaits hnone, fun hopen hwaits => hstatus (hopen hwaits)⟩

lemma delegateApproval_step {targetUserId : ℕ} (hc : Connected db)
    (h : Commits (delegateApproval id targetUserId user now) db () db') :
    Connected db' ∧ (db.InSync → db'.InSync) := by
  obtain ⟨a, delegatedToId, delegatedById, delegatedAt, hfind, rfl⟩ := delegateApproval_commits h
  have hkey : a.id = id := (find?_eq_some.mp hfind).2
  subst hkey
  refine ⟨hc.of_approvals rfl rfl rfl (keepsSubjects_put hfind rfl rfl rfl), fun hsync => ?_⟩
  refine (inSync_put hsync).mpr fun s hs hlink => ?_
  have hagree : Agree s.status a := hsync.agree_of_find hs hlink hfind
  exact ⟨hagree.approved, hagree.rejected, hagree.submitted⟩

lemma expireApproval_step (hc : Connected db) (h : Commits (expireApproval id now) db () db') :
    Connected db' ∧ (db.InSync → (db'.InSync ↔ LeavesOpen db (.expireApproval id now))) := by
  rcases expireApproval_commits h with ⟨rfl, hidle⟩ | ⟨a, hfind, hpending, hdue, hmove⟩
  · refine ⟨hc, fun hsync => iff_of_true hsync ?_⟩
    intro a ha hpending hdue
    rw [hidle a ha hpending] at hdue
    cases hdue
  · have hkey : a.id = id := (find?_eq_some.mp hfind).2
    subst hkey
    have hguard : LeavesOpen db (.expireApproval a.id now) ↔ (db.Awaited a.id → Escalates db a) := by
      constructor
      · intro hopen
        exact hopen a hfind hpending hdue
      · intro hopen a' hfind' _ _
        obtain rfl := mem_unique hfind hfind'
        exact hopen
    rw [hguard]
    obtain ⟨hesc, escalatedAt, expiresAt, escalationRoles, rfl⟩ | ⟨hesc, rfl⟩ := hmove
    · refine ⟨hc.of_approvals rfl rfl rfl (keepsSubjects_put hfind rfl rfl rfl), fun hsync => ?_⟩
      exact iff_of_true (inSync_put_pending hsync hfind hpending rfl hpending) fun _ => hesc
    · refine ⟨hc.of_approvals rfl rfl rfl (keepsSubjects_put hfind rfl rfl rfl), fun hsync => ?_⟩
      have hfinal : InSync db.subjects (db.approvals.put { a with status := .expired, decidedAt := some now }) ↔
          ¬ db.Awaited a.id := inSync_put_final hsync hfind hpending rfl (by simp)
      refine hfinal.trans ?_
      exact ⟨fun hnone hwaits => absurd hwaits hnone, fun hopen hwaits => hesc (hopen hwaits)⟩

lemma Outside.step (hc : Connected db) (h : Outside db db') : Connected db' ∧ (db.InSync → db'.InSync) := by
  have hsubjects : db'.subjects = db.subjects := by
    rw [subjects, subjects, h.leaveRequests, h.overtimeRequests]
    congr 1
    apply map_congr_left
    intro r hr
    obtain ⟨e, he⟩ := hc.employees r hr
    obtain ⟨e', he', hbranch⟩ := h.employees _ e he
    simp [LeaveRequest.subject, he, he', hbranch]
  refine ⟨⟨?_, ?_⟩, ?_⟩
  · rw [hsubjects]
    exact hc.linked.keeps fun id a ha => ⟨a, h.approvals id a ha, rfl, rfl, rfl⟩
  · intro r hr
    rw [h.leaveRequests] at hr
    obtain ⟨e, he⟩ := hc.employees r hr
    obtain ⟨e', he', _⟩ := h.employees _ e he
    exact ⟨e', he'⟩
  · intro hsync s hs
    rw [hsubjects] at hs
    obtain ⟨a, hfind, hagree⟩ := hsync s hs
    obtain ⟨id, hid, hrow⟩ := Option.bind_eq_some_iff.mp hfind
    exact ⟨a, by rw [hid]; exact h.approvals id a hrow, hagree⟩

lemma hr_step {e : HrEvent} (hc : Connected db) (h : HrStep db e db') :
    Connected db' ∧ (db.InSync → (db'.InSync ↔ LeavesOpen db e)) := by
  have hkept (hboth : Connected db' ∧ (db.InSync → db'.InSync)) (hopen : LeavesOpen db e) :
      Connected db' ∧ (db.InSync → (db'.InSync ↔ LeavesOpen db e)) :=
    ⟨hboth.1, fun hsync => iff_of_true (hboth.2 hsync) hopen⟩
  cases e with
  | submitLeave requestId approvalId dto user => exact hkept (submitLeave_step hc h) trivial
  | submitOvertime requestId approvalId dto user => exact hkept (submitOvertime_step hc h) trivial
  | reviewLeave id dto user now => exact hkept (reviewLeave_step hc h) trivial
  | reviewOvertime id dto user now => exact hkept (reviewOvertime_step hc h) trivial
  | decideApproval id dto user now => exact decideApproval_step hc h
  | delegateApproval id targetUserId user now => exact hkept (delegateApproval_step hc h) trivial
  | expireApproval id now => exact expireApproval_step hc h
  | elsewhere => exact hkept (Outside.step hc h) trivial

/-- Along a history, requests and approvals agree if and only if the engine settles no approval that a request
waits for. -/
theorem inSync_iff {db₀ : HrDb} {events : List HrEvent} (hc : Connected db₀) (hsync : db₀.InSync) :
    Run (Landing HrDb.InSync HrStep) db₀ events db ↔ Run (Guarded LeavesOpen HrStep) db₀ events db := by
  refine Run.landing_iff_guarded_of_invariant (J := Connected) ?_ ?_ hc hsync
  · intro s e s' hs hstep
    exact (hr_step hs hstep).1
  · intro s e s' hs hw hstep
    exact (hr_step hs hstep).2 hw

/-! ### One request for leave -/

def oneEmployee : HrDb where
  employees := Table.empty.put { id := 3, companyId := 1, branchId := some 2, userId := some 4 }
  users := Table.empty
  leaveTypes := Table.empty.put { id := 6, companyId := 1, name := "Cuti Tahunan", annualQuota := some 12 }
  leaveRequests := Table.empty
  overtimeRequests := Table.empty
  policies := Table.empty
  approvals := Table.empty
  decisions := []

def employeeUser : AuthUser := { sub := 4, sid := none, companyId := some 1, branchId := some 2 }

def managerUser : AuthUser := { sub := 5, sid := none, companyId := some 1, branchId := some 2 }

def fiveDays : CreateLeaveRequestDto :=
  { leaveTypeId := 6, startDate := some (yearStart 2025), endDate := some (yearStart 2025 + 4 * 86400000) }

def afterRequest : HrDb := (execute (submitLeave 1 10 fiveDays employeeUser) oneEmployee).2

def afterReview : HrDb := (execute (reviewLeave 1 { status := .approved } managerUser 0) afterRequest).2

def afterDecision : HrDb := (execute (decideApproval 10 { status := .approved } managerUser 0) afterRequest).2

lemma step_request : HrStep oneEmployee (.submitLeave 1 10 fiveDays employeeUser) afterRequest :=
  commits_of_execute (by decide +kernel)

lemma connected_oneEmployee : Connected oneEmployee :=
  ⟨by simp [Linked, HrDb.subjects, oneEmployee, Table.empty], by simp [oneEmployee]⟩

lemma inSync_oneEmployee : oneEmployee.InSync := by
  simp [HrDb.InSync, InSync, HrDb.subjects, oneEmployee, Table.empty]

theorem inSync_review : Run (Landing HrDb.InSync HrStep) oneEmployee
    [.submitLeave 1 10 fiveDays employeeUser, .reviewLeave 1 { status := .approved } managerUser 0]
    afterReview := by
  have hreview : HrStep afterRequest (.reviewLeave 1 { status := .approved } managerUser 0) afterReview :=
    commits_of_execute (by decide +kernel)
  refine (inSync_iff connected_oneEmployee inSync_oneEmployee).mpr ?_
  exact Run.cons ⟨trivial, step_request⟩ (Run.cons ⟨trivial, hreview⟩ (Run.nil _))

/-- A decision on the approval leaves the request waiting. -/
theorem not_inSync_decision : ∃ db, Run HrStep oneEmployee
    [.submitLeave 1 10 fiveDays employeeUser, .decideApproval 10 { status := .approved } managerUser 0] db ∧
      db.leaveRequests.rows.map LeaveRequest.status = [.submitted] ∧
      db.approvals.rows.map ApprovalRequest.status = [.approved] ∧ ¬ db.InSync := by
  have hdecide : HrStep afterRequest (.decideApproval 10 { status := .approved } managerUser 0) afterDecision :=
    commits_of_execute (by decide +kernel)
  refine ⟨afterDecision, Run.cons step_request (Run.cons hdecide (Run.nil _)), by decide +kernel,
    by decide +kernel, fun hsync => ?_⟩
  have hsubjects : afterDecision.subjects = [⟨"LeaveRequest", 1, 1, some 2, .submitted, some 10⟩] := by
    decide +kernel
  have hstatus : (afterDecision.approvals.find? 10).map ApprovalRequest.status = some .approved := by
    decide +kernel
  obtain ⟨a, ha, hagree⟩ := hsync _ (hsubjects ▸ List.mem_singleton_self _)
  change afterDecision.approvals.find? 10 = some a at ha
  rw [ha] at hstatus
  have := hagree.submitted rfl
  simp [this] at hstatus

end Mayatoko.Hr
