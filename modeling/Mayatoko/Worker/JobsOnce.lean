import Mayatoko.Worker.AutomationJobs

/-!
# The action of a job is committed once

The action of a job and the status `SUCCEEDED` are one transaction, which wants the job to be `PROCESSING`.
A worker whose transaction throws writes the status by the id of the job, whatever it is by then. The jobs
of a run are acted on once and stay `SUCCEEDED` exactly if that is never done to one that is.
-/

namespace Mayatoko.Worker

open Core WorkerDb TableOf

def KeepsSucceeded (s s' : WorkerDb) : Prop :=
  ∀ j ∈ s.jobs, j.status = .succeeded → ∃ j' ∈ s'.jobs, j'.id = j.id ∧ j'.status = .succeeded

def ActedOnce (labels : List (Option JobLabel)) : Prop :=
  ∀ jobId : ℕ, labels.count (some (.acted jobId)) ≤ 1

/-- The status of a job whose action threw is written while it has not succeeded. -/
def FailsOpen (s : WorkerDb) : Option JobLabel → Prop
  | some (.failed jobId) => ∀ j ∈ s.jobs.rows, j.id = jobId → j.status ≠ .succeeded
  | some (.looked) | some (.claimed _) | some (.acted _) | none => True

inductive JobMove (s : WorkerDb) : JobLabel → WorkerDb → Prop
  | looks : JobMove s .looked s
  | claims {j : AutomationJob} {s' : WorkerDb} (j' : AutomationJob)
      (hj : j ∈ s.jobs) (hid : j'.id = j.id) (hopen : j.status ≠ .succeeded)
      (hjobs : s'.jobs = s.jobs.put j') : JobMove s (.claimed j.id) s'
  | acts {j : AutomationJob} {s' : WorkerDb} (j' : AutomationJob)
      (hj : j ∈ s.jobs) (hid : j'.id = j.id) (hopen : j.status ≠ .succeeded)
      (hdone : j'.status = .succeeded) (hjobs : s'.jobs = s.jobs.put j') : JobMove s (.acted j.id) s'
  | fails {j : AutomationJob} {s' : WorkerDb} (j' : AutomationJob)
      (hj : j ∈ s.jobs) (hid : j'.id = j.id) (hopen : j'.status ≠ .succeeded)
      (hjobs : s'.jobs = s.jobs.put j') : JobMove s (.failed j.id) s'

variable {s s' : WorkerDb} {cfg : JobConfig} {current : AutomationJob}

/-! ### Actions leave the jobs alone -/

lemma leaves_freshId : Leaves jobs freshId := by
  intro s id s' h
  obtain ⟨_, rfl⟩ := freshId_commits h
  rfl

lemma apart_eventOutbox : eventOutbox.Apart jobs := ⟨fun _ _ => rfl⟩

lemma apart_notification : notification.Apart jobs := ⟨fun _ _ => rfl⟩

lemma apart_approvalRequest : approvalRequest.Apart jobs := ⟨fun _ _ => rfl⟩

lemma apart_reportJob : reportJob.Apart jobs := ⟨fun _ _ => rfl⟩

lemma apart_assetMaintenancePlan : assetMaintenancePlan.Apart jobs := ⟨fun _ _ => rfl⟩

lemma apart_maintenanceWorkOrder : maintenanceWorkOrder.Apart jobs := ⟨fun _ _ => rfl⟩

lemma apart_forecastRun : forecastRun.Apart jobs := ⟨fun _ _ => rfl⟩

lemma apart_reorderSuggestion : reorderSuggestion.Apart jobs := ⟨fun _ _ => rfl⟩

section

variable {payload eventPayload : List (String × Json)}

lemma leaves_emitOutboxEvent : Leaves jobs (emitOutboxEvent current payload eventPayload) :=
  leaves_freshId.bind fun _ => leaves_get.bind fun _ => apart_eventOutbox.create

lemma leaves_enqueueNotification : Leaves jobs (enqueueNotification current payload eventPayload) :=
  leaves_freshId.bind fun _ => apart_notification.create

lemma leaves_findPolicy {companyId : ℕ} {policyCode : Option String} :
    Leaves jobs (findPolicy companyId policyCode) := by
  cases policyCode with
  | none => exact leaves_pure
  | some code => exact leaves_get.bind fun _ => leaves_orThrow.bind fun _ => leaves_pure

lemma leaves_createApprovalRequest : Leaves jobs (createApprovalRequest current payload) := by
  refine leaves_findPolicy.bind fun _ => leaves_get.bind fun _ => Leaves.ite leaves_pure ?_
  exact leaves_freshId.bind fun _ => apart_approvalRequest.create

lemma leaves_createReportJob : Leaves jobs (createReportJob cfg current payload) := by
  refine leaves_require.bind fun _ => leaves_require.bind fun _ => ?_
  exact leaves_freshId.bind fun _ => apart_reportJob.create

lemma leaves_createMaintenanceWorkOrder : Leaves jobs (createMaintenanceWorkOrder cfg current payload) := by
  refine leaves_require.bind fun _ => leaves_get.bind fun _ => leaves_orThrow.bind fun _ =>
    leaves_orThrow.bind fun _ => Leaves.ite leaves_pure ?_
  refine leaves_freshId.bind fun _ => apart_maintenanceWorkOrder.create.bind fun _ => ?_
  exact apart_assetMaintenancePlan.update.bind fun _ => leaves_pure

lemma leaves_createReorderSuggestion : Leaves jobs (createReorderSuggestion current payload) := by
  refine leaves_require.bind fun _ => leaves_get.bind fun _ => leaves_orThrow.bind fun _ =>
    Leaves.ite leaves_pure ?_
  refine leaves_freshId.bind fun _ => apart_forecastRun.create.bind fun _ => ?_
  exact leaves_freshId.bind fun _ => apart_reorderSuggestion.create

end

lemma leaves_runAction : Leaves jobs (runAction cfg current) := by
  unfold runAction
  refine Leaves.ite leaves_emitOutboxEvent ?_
  refine Leaves.ite leaves_enqueueNotification ?_
  refine Leaves.ite leaves_createApprovalRequest ?_
  refine Leaves.ite leaves_createReportJob ?_
  refine Leaves.ite leaves_createMaintenanceWorkOrder ?_
  exact Leaves.ite leaves_createReorderSuggestion leaves_throw

/-! ### The worker makes no other steps -/

variable {j : AutomationJob} {staleLock : ℕ}

lemma AutomationJob.open_of_due {now : ℕ} (h : j.due now staleLock = true) : j.status ≠ .succeeded := by
  intro hstatus
  simp [AutomationJob.due, hstatus] at h

variable {pid jobId : ℕ}

lemma claimJob_commits {n : ℕ} (h : Commits (claimJob pid staleLock jobId) s n s') :
    JobMove s (if n = 0 then .looked else .claimed jobId) s' := by
  simp only [claimJob, commits_steps] at h
  obtain h := h
  have hcase := updateKey_commits (T := automationJob) (k := jobId) (fun _ => rfl) (by simp +contextual) h
  obtain ⟨hn, rfl⟩ | ⟨hn, j, hj, hp, rfl⟩ := hcase
  · rw [if_pos hn]
    exact .looks
  · obtain ⟨hid, hdue⟩ := (Bool.and_eq_true _ _).mp hp
    rw [if_neg (by omega), ← of_decide_eq_true hid]
    exact .claims (j.claim pid s.now) hj rfl (AutomationJob.open_of_due hdue) rfl

lemma executeJob_commits {done : Bool} (h : Commits (executeJob cfg jobId) s done s') :
    JobMove s (if done = true then .acted jobId else .looked) s' := by
  simp only [executeJob, commits_steps] at h
  obtain h := h
  split at h
  · obtain ⟨rfl, rfl⟩ := commits_pure.mp h
    exact .looks
  · next current hcurrent =>
    obtain ⟨hfind, hstatus⟩ := Option.filter_eq_some_iff.mp hcurrent
    obtain ⟨hmem, rfl⟩ := find?_eq_some.mp hfind
    simp only [commits_steps, commits_update] at h
    obtain ⟨_, t, haction, _, _, ⟨j, hj, rfl, rfl⟩, rfl, rfl⟩ := h
    have hjobs : t.jobs = s.jobs := leaves_runAction _ _ _ haction
    change t.jobs.find? current.id = some j at hj
    rw [hjobs, hfind] at hj
    obtain rfl := Option.some.inj hj
    refine .acts (current.succeed s.now) hmem rfl ?_ rfl ?_
    · rw [of_decide_eq_true hstatus]
      decide
    · rw [automationJob_write, hjobs]

variable {message : String}

lemma AutomationJob.fail_status {now : ℕ} : (AutomationJob.fail now current message j).status ≠ .succeeded := by
  dsimp only [AutomationJob.fail]
  split <;> decide

lemma markJob_commits {u : Unit}
    (h : Commits (markJob jobId current message) s u s') : JobMove s (.failed jobId) s' := by
  simp only [markJob, commits_steps, commits_update] at h
  obtain ⟨_, _, ⟨j, hj, rfl, rfl⟩, _, rfl⟩ := h
  obtain ⟨hmem, rfl⟩ := find?_eq_some.mp hj
  exact .fails (AutomationJob.fail s.now current message j) hmem rfl AutomationJob.fail_status rfl

lemma performJob_does : Does JobMove (performJob cfg jobId) := by
  refine Does.bind (does_statement (fun s done s' h => ?_) fun _ => .looks) fun _ => does_pure
  simp only [serializable, commits_steps] at h
  obtain ⟨_, h⟩ := h
  exact executeJob_commits h

lemma failJob_does : Does JobMove (failJob jobId message) := by
  refine (does_query fun _ => .looks).bind fun current => ?_
  cases current with
  | none => exact does_pure
  | some current => exact does_statement (fun _ _ _ h => markJob_commits h) fun _ => .looks

lemma processAutomationJob_does : Does JobMove (processAutomationJob cfg pid staleLock current) := by
  refine (does_statement (fun _ _ _ h => claimJob_commits h) fun _ => .looks).bind fun _ => ?_
  exact Does.ite does_pure (performJob_does.attempt fun _ => failJob_does)

lemma processAutomationJobs_does : Does JobMove (processAutomationJobs cfg pid) := by
  refine (does_lookup fun _ => .looks).bind fun _ => (does_query fun _ => .looks).bind fun _ => ?_
  exact Does.forM fun _ => processAutomationJob_does

/-! ### Runs -/

variable {l : Option JobLabel} {past : List (Option JobLabel)}

abbrev JobStateStep := StateStep JobMove KeepsSucceeded

lemma KeepsSucceeded.put {j' : AutomationJob} (hj : j ∈ s.jobs) (hid : j'.id = j.id)
    (hstatus : j.status = .succeeded → j'.status = .succeeded) (hjobs : s'.jobs = s.jobs.put j') :
    KeepsSucceeded s s' := by
  intro x hx hdone
  rw [hjobs]
  by_cases hkey : x.id = j.id
  · obtain rfl := eq_of_key_eq hx hj hkey
    exact ⟨j', mem_put.mpr (Or.inl rfl), hid, hstatus hdone⟩
  · exact ⟨x, mem_put.mpr (Or.inr ⟨hx, hid ▸ hkey⟩), rfl, hdone⟩

lemma keepsSucceeded_iff (hstep : JobStateStep s l s') : KeepsSucceeded s s' ↔ FailsOpen s l := by
  cases hstep with
  | idle => exact ⟨fun _ => trivial, fun _ j hj hdone => ⟨j, hj, rfl, hdone⟩⟩
  | outside henv => exact ⟨fun _ => trivial, fun _ => henv⟩
  | step hmove =>
    cases hmove with
    | looks => exact ⟨fun _ => trivial, fun _ j hj hdone => ⟨j, hj, rfl, hdone⟩⟩
    | claims j' hj hid hopen hjobs | acts j' hj hid hopen _ hjobs =>
      exact ⟨fun _ => trivial, fun _ => .put hj hid (fun hdone => absurd hdone hopen) hjobs⟩
    | @fails j _ j' hj hid hopen hjobs =>
      constructor
      · rintro hkeeps x hx hkey hdone
        obtain ⟨y, hy, hyid, hydone⟩ := hkeeps x hx hdone
        rw [hjobs] at hy
        obtain rfl | ⟨_, hne⟩ := mem_put.mp hy
        · exact hopen hydone
        · exact hne (hyid.trans (hkey.trans hid.symm))
      · exact fun h => .put hj hid (fun hdone => absurd hdone (h j hj rfl)) hjobs

structure ActedRight (past : List (Option JobLabel)) (s : WorkerDb) : Prop where
  once : ActedOnce past
  succeeded : ∀ jobId, some (.acted jobId) ∈ past → ∃ j ∈ s.jobs, j.id = jobId ∧ j.status = .succeeded

lemma ActedRight.succeeded_append (h : ActedRight past s) (hkeeps : KeepsSucceeded s s') {jobId : ℕ}
    (hmem : some (.acted jobId) ∈ past) : ∃ j ∈ s'.jobs, j.id = jobId ∧ j.status = .succeeded := by
  obtain ⟨j, hj, rfl, hdone⟩ := h.succeeded jobId hmem
  exact hkeeps j hj hdone

lemma ActedRight.unacted (h : ActedRight past s) (hkeeps : KeepsSucceeded s s')
    (hl : ∀ jobId, l ≠ some (.acted jobId)) : ActedRight (past ++ [l]) s' := by
  constructor
  case once =>
    intro jobId
    have hzero : [l].count (some (.acted jobId)) = 0 := by
      rw [List.count_eq_zero, mem_singleton]
      exact fun heq => hl jobId heq.symm
    rw [List.count_append, hzero]
    exact h.once jobId
  case succeeded =>
    intro jobId hmem
    obtain hmem | hmem := mem_append.mp hmem
    · exact h.succeeded_append hkeeps hmem
    · exact absurd (mem_singleton.mp hmem).symm (hl jobId)

lemma ActedRight.acted {j' : AutomationJob} (h : ActedRight past s) (hkeeps : KeepsSucceeded s s')
    (hj : j ∈ s.jobs) (hid : j'.id = j.id) (hopen : j.status ≠ .succeeded)
    (hdone : j'.status = .succeeded) (hjobs : s'.jobs = s.jobs.put j') :
    ActedRight (past ++ [some (.acted j.id)]) s' := by
  have hnew : some (.acted j.id) ∉ past := by
    intro hmem
    obtain ⟨x, hx, hxid, hxdone⟩ := h.succeeded j.id hmem
    obtain rfl := eq_of_key_eq hx hj hxid
    exact hopen hxdone
  constructor
  case once => exact fun jobId => count_append_le_one (h.once jobId) hnew
  case succeeded =>
    intro jobId hmem
    obtain hmem | hmem := mem_append.mp hmem
    · exact h.succeeded_append hkeeps hmem
    · obtain ⟨⟩ := mem_singleton.mp hmem
      rw [hjobs]
      exact ⟨j', mem_put.mpr (Or.inl rfl), hid, hdone⟩

lemma ActedRight.step (h : ActedRight past s) (hfails : FailsOpen s l) (hstep : JobStateStep s l s') :
    ActedRight (past ++ [l]) s' := by
  have hkeeps : KeepsSucceeded s s' := (keepsSucceeded_iff hstep).mpr hfails
  cases hstep with
  | idle | outside _ => exact h.unacted hkeeps (by simp)
  | step hmove =>
    cases hmove with
    | looks | claims _ _ _ _ _ | fails _ _ _ _ _ => exact h.unacted hkeeps (by simp)
    | acts j' hj hid hopen hdone hjobs => exact h.acted hkeeps hj hid hopen hdone hjobs

/-- One call of `processAutomationJobs` by the process `pid`. -/
def serveJobs (cfg : JobConfig) (pid : ℕ) : Process JobLabel WorkerDb (Except String Unit) :=
  (processAutomationJobs cfg pid).run

abbrev JobStep (cfg : JobConfig) := PoolStep (serveJobs cfg) KeepsSucceeded

abbrev JobPool := Pool JobLabel WorkerDb (Except String Unit)

abbrev JobAction := PoolAction ℕ JobLabel (Except String Unit)

/-- In a run of any workers no job is acted on twice and those that have succeeded stay so, exactly if the
status of a job whose action threw is never written when the job has succeeded meanwhile. -/
theorem jobs_once_iff {p q : JobPool} {as : List JobAction} (hidle : p.Idle) :
    (ActedOnce (as.map PoolAction.label) ∧
      Run (fun p a p' => JobStep cfg p a p' ∧ KeepsSucceeded p.state p'.state) p as q) ↔
      Run (Guarded (fun p a => FailsOpen p.state a.label) (JobStep cfg)) p as q := by
  have hserve (pid : ℕ) : (serveJobs cfg pid).Steps JobMove := processAutomationJobs_does
  have hiff : Run (fun p a p' => JobStep cfg p a p' ∧ KeepsSucceeded p.state p'.state) p as q ↔
      Run (Guarded (fun p a => FailsOpen p.state a.label) (JobStep cfg)) p as q := by
    refine Run.and_iff_guarded_of_invariant (J := Pool.Steps JobMove) ?_ ?_ hidle.steps
    · exact fun _ _ _ hs hstep => hs.step hserve hstep
    · exact fun _ _ _ hs hstep => keepsSucceeded_iff (hs.state hstep)
  refine ⟨fun h => hiff.mp h.2, fun h => ⟨?_, hiff.mpr h⟩⟩
  have hright : ActedRight [] p.state := ⟨fun _ => Nat.zero_le _, by simp⟩
  exact ((Pool.run_state hserve hidle.steps h).invariant_past
    (fun _ _ _ _ hI hg => hI.step hg.1 hg.2) hright).once

/-! A job that notifies. -/

def plainConfig : JobConfig where
  shortId jobId := toString jobId
  upper text := text
  trim text := text

def notifyDb : WorkerDb where
  now := 1000000
  nextId := 10
  jobs := Table.empty.put
    { id := 1, companyId := 1, branchId := none, eventType := "order.paid", sourceType := "Order",
      sourceId := "o-1", ruleCode := some "PAID", actionType := "ENQUEUE_NOTIFICATION",
      payload := .obj [("recipient", .str "OWNER")], scheduledAt := 1000000,
      idempotencyKey := "rule:2:event:1:action:0" }

def notifyPool : JobPool := ⟨notifyDb, fun _ => none⟩

inductive Contention
  | later (ms : ℕ)
  | conflict (message : Option String)

def Contention.move : Contention → WorkerDb → WorkerDb
  | later ms, s => { s with now := s.now + ms }
  | conflict message, s => { s with conflict := message }

lemma contention_keeps (m : Contention) (s : WorkerDb) : KeepsSucceeded s (m.move s) := by
  cases m <;> exact fun j hj hdone => ⟨j, hj, rfl, hdone⟩

instance (s : WorkerDb) (l : Option JobLabel) : Decidable (FailsOpen s l) := by
  unfold FailsOpen
  split <;> infer_instance

theorem jobs_once_notify : ∃ as q, Run (JobStep plainConfig) notifyPool as q ∧
      q.state.jobs.rows.map AutomationJob.status = [.succeeded] ∧ q.state.notifications.rows.length = 1 ∧
      ActedOnce (as.map PoolAction.label) ∧
      Run (fun p a p' => JobStep plainConfig p a p' ∧ KeepsSucceeded p.state p'.state) notifyPool as q := by
  obtain ⟨as, q, hrun, hstatus, hnotified⟩ := Pool.exists_run_of_play
    (serveJobs plainConfig) notifyPool contention_keeps FailsOpen
    ([.start 0 7] ++ List.replicate 3 (.step 0) ++ [.outside (.later 600001), .start 1 8] ++
      List.replicate 4 (.step 1))
    (fun _ s => s.jobs.rows.map AutomationJob.status = [.succeeded] ∧ s.notifications.rows.length = 1)
    (by decide +kernel)
  exact ⟨as, q, hrun.of_guarded, hstatus, hnotified, (jobs_once_iff fun _ => rfl).mpr hrun⟩

/-- A slow worker is taken over, and the other one notifies. Then the transaction of the slow one is
aborted, so that it puts the job to `RETRYING`, and the job is run again. -/
theorem jobs_twice_notify :
    ∃ as q bs r, Run (JobStep plainConfig) notifyPool as q ∧ Run (JobStep plainConfig) q bs r ∧
      q.state.jobs.rows.map AutomationJob.status = [.retrying] ∧ q.state.notifications.rows.length = 1 ∧
      r.state.jobs.rows.map AutomationJob.status = [.succeeded] ∧
      r.state.notifications.rows.length = 2 ∧ ¬ ActedOnce ((as ++ bs).map PoolAction.label) := by
  obtain ⟨as, q, bs, r, hrun, hrun', hretrying, hone, hsucceeded, htwo, hacted⟩ :=
    Pool.exists_runs_of_play (serveJobs plainConfig) notifyPool contention_keeps (fun _ _ => True)
      ([.start 0 7] ++ List.replicate 3 (.step 0) ++ [.outside (.later 600001), .start 1 8] ++
        List.replicate 4 (.step 1) ++ [.outside (.conflict (some "could not serialize access"))] ++
        List.replicate 3 (.step 0))
      ([.outside (.conflict none), .outside (.later 3600000), .start 2 9] ++ List.replicate 4 (.step 2))
      (fun ls s t => s.jobs.rows.map AutomationJob.status = [.retrying] ∧
        s.notifications.rows.length = 1 ∧ t.jobs.rows.map AutomationJob.status = [.succeeded] ∧
        t.notifications.rows.length = 2 ∧ ls.count (some (.acted 1)) = 2) (by decide +kernel)
  refine ⟨as, q, bs, r, hrun.of_guarded, hrun'.of_guarded, hretrying, hone, hsucceeded, htwo, fun honce => ?_⟩
  have hle := honce 1
  rw [hacted] at hle
  omega

end Mayatoko.Worker
