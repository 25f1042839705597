import Mayatoko.Core.Json
import Mayatoko.Core.Protocol
import Mayatoko.Core.Store

/-!
# The report jobs of the worker

`processReportJobs` of the worker. A job is claimed by a statement of its own, its report is built and written to a
file, and a transaction puts the job to `DONE`; when any of this throws, another one puts it to `FAILED`. How a
report is built from the tables, and its form as a workbook or a page, are parameters: building a report reads and
writes nothing.

`outage` is the error with which the database answers a statement at the moment, and `disk` the one with which the
file system answers a write; both change as they like between two steps.

A worker holds the job that it has claimed until it has written how it ended. A job is claimed from `PENDING`
only, so no two workers hold one. A job that is `RUNNING` is never claimed again: it is lost where its worker
crashes, or cannot write that the report has failed. As long as neither happens, every job that has not ended is
held by a worker or can be claimed.
-/

namespace Mayatoko.Reports

open Core

/-! ### Tables -/

inductive ReportStatus
  | pending
  | running
  | done
  | failed
  deriving DecidableEq

structure ReportJob where
  (id companyId : ℕ)
  branchId : Option ℕ := none
  scheduleId : Option ℕ := none
  reportType : String
  format : String := "CSV"
  filters : Option Json := none
  status : ReportStatus := .pending
  progress : ℕ := 0
  outputUrl : Option String := none
  errorMessage : Option String := none
  startedAt : Option ℕ := none
  finishedAt : Option ℕ := none
  createdAt : ℕ

structure ReportSchedule where
  id : ℕ
  lastJobId : Option ℕ := none
  lastError : Option String := none

structure ReportFile where
  (name data : String)

structure ReportDb where
  now : ℕ
  outage : Option String := none
  disk : Option String := none
  jobs : Table ReportJob.id := .empty
  schedules : Table ReportSchedule.id := .empty
  files : Table ReportFile.name := .empty

abbrev ReportTx := Tx ReportDb String

namespace ReportDb

def reportJob : TableOf ReportDb ReportJob.id := ⟨jobs, fun db t => { db with jobs := t }⟩

def reportSchedule : TableOf ReportDb ReportSchedule.id := ⟨schedules, fun db t => { db with schedules := t }⟩

end ReportDb

open ReportDb

/-- Prisma's error for a row that is not there. -/
def recordNotFound : String := "An operation failed because it depends on one or more records"

/-! ### Steps of a worker -/

inductive ReportLabel
  | looked
  | claimed (jobId : ℕ)
  | rendering (jobId : ℕ)
  | finished (jobId : ℕ)
  | recorded (jobId : ℕ)
  | lost (jobId : ℕ)

abbrev ReportService := Service ReportLabel ReportDb String

def Renders (jobId : ℕ) (db : ReportDb) (l : ReportLabel) (db' : ReportDb) : Prop :=
  l = .rendering jobId ∧ db' = db

structure ReportConfig where
  buildReportCsv : ReportJob → ReportService String
  renders : ∀ job, Does (Renders job.id) (buildReportCsv job)
  toUpperCase : String → String
  renderXlsx : String → String
  renderPdf : String → String → String

variable {α : Type}

def upTx (x : ReportTx α) : ReportTx α := do
  let db ← get
  refuse db.outage id
  x

/-- A statement of the worker, as one step; `failed` labels it where it throws. -/
def statement (label : α → ReportLabel) (failed : ReportLabel) (x : ReportTx α) : ReportService α :=
  atomically (fun r => match r with
    | .ok a => label a
    | .error _ => failed) (upTx x)

/-! What the worker writes in the row of a job. -/

def ReportJob.claim (now : ℕ) (row : ReportJob) : ReportJob :=
  { row with status := .running, startedAt := some now }

def ReportJob.finish (now : ℕ) (filename : String) (row : ReportJob) : ReportJob :=
  { row with
    status := .done
    progress := 100
    outputUrl := some filename
    finishedAt := some now
    errorMessage := none }

def ReportJob.fail (now : ℕ) (message : String) (row : ReportJob) : ReportJob :=
  { row with status := .failed, errorMessage := some message, finishedAt := some now }

def claimJob (jobId : ℕ) : ReportTx ℕ := do
  let db ← get
  reportJob.updateMany (fun job => job.id = jobId && job.status = .pending) (ReportJob.claim db.now)

def renderReportOutput (cfg : ReportConfig) (csv format reportType : String) :
    Except String (String × String) :=
  let normalized := cfg.toUpperCase format
  if normalized = "CSV" then pure ("csv", csv)
  else if normalized = "XLSX" then pure ("xlsx", cfg.renderXlsx csv)
  else if normalized = "PDF" then pure ("pdf", cfg.renderPdf csv s!"Toko360 {reportType}")
  else throw s!"Format report tidak didukung worker: {format}"

def writeFile (jobId : ℕ) (file : ReportFile) : ReportService Unit :=
  atomically (fun _ => .rendering jobId) (do
    let db ← get
    refuse db.disk id
    set { db with files := db.files.put file })

def updateSchedule (job : ReportJob) (lastError : Option String) : ReportTx Unit :=
  match job.scheduleId with
  | none => pure ()
  | some scheduleId => do
    let _ ← reportSchedule.updateMany (fun schedule => schedule.id = scheduleId) fun schedule =>
      { schedule with lastJobId := some job.id, lastError }

def finishJob (job : ReportJob) (filename : String) : ReportTx Unit := do
  let db ← get
  let _ ← reportJob.update job.id (ReportJob.finish db.now filename) recordNotFound
  updateSchedule job none

def recordFailure (job : ReportJob) (message : String) : ReportTx Unit := do
  let db ← get
  let _ ← reportJob.update job.id (ReportJob.fail db.now message) recordNotFound
  updateSchedule job (some message)

def renderJob (cfg : ReportConfig) (job : ReportJob) : ReportService Unit := do
  let csv ← cfg.buildReportCsv job
  let output ← ofExcept (renderReportOutput cfg csv job.format job.reportType)
  let filename := s!"{job.id}.{output.1}"
  writeFile job.id ⟨filename, output.2⟩
  statement (fun _ => .finished job.id) (.rendering job.id) (finishJob job filename)

def processReportJob (cfg : ReportConfig) (job : ReportJob) : ReportService Unit := do
  let claimed ← statement (fun n => if n = 0 then .looked else .claimed job.id) .looked (claimJob job.id)
  if claimed = 0 then pure () else
    attempt (renderJob cfg job) fun message =>
      statement (fun _ => .recorded job.id) (.lost job.id) (recordFailure job message)

def processReportJobs (cfg : ReportConfig) : ReportService Unit := do
  let jobs ← statement (fun _ => .looked) .looked (do
    let db ← get
    pure ((db.jobs.findSorted (fun job => job.status = .pending) fun a b => a.createdAt ≤ b.createdAt).take 5))
  jobs.forM (processReportJob cfg)

open TableOf

inductive ReportMove : Option ℕ → ReportDb → ReportLabel → ReportDb → Option ℕ → Prop
  | looks {s : ReportDb} : ReportMove none s .looked s none
  | claims {s s' : ReportDb} {job job' : ReportJob} (hjob : job ∈ s.jobs) (hpending : job.status = .pending)
      (hid : job'.id = job.id) (hrunning : job'.status = .running) (hjobs : s'.jobs = s.jobs.put job') :
      ReportMove none s (.claimed job.id) s' (some job.id)
  | renders {s s' : ReportDb} {jobId : ℕ} (hjobs : s'.jobs = s.jobs) :
      ReportMove (some jobId) s (.rendering jobId) s' (some jobId)
  | finishes {s s' : ReportDb} {job job' : ReportJob} (hjob : job ∈ s.jobs) (hid : job'.id = job.id)
      (hdone : job'.status = .done) (hjobs : s'.jobs = s.jobs.put job') :
      ReportMove (some job.id) s (.finished job.id) s' none
  | records {s s' : ReportDb} {job job' : ReportJob} (hjob : job ∈ s.jobs) (hid : job'.id = job.id)
      (hfailed : job'.status = .failed) (hjobs : s'.jobs = s.jobs.put job') :
      ReportMove (some job.id) s (.recorded job.id) s' none
  | loses {s : ReportDb} {jobId : ℕ} : ReportMove (some jobId) s (.lost jobId) s none

variable {s s' : ReportDb} {cfg : ReportConfig} {job : ReportJob}

/-! ### The worker follows it -/

lemma upTx_commits {x : ReportTx α} {a : α} (h : Commits (upTx x) s a s') : Commits x s a s' := by
  simp only [upTx, commits_steps] at h
  obtain ⟨_, hx⟩ := h
  exact hx

lemma obeys_statement {R : α → Option ℕ → Prop} {E : Option ℕ → Prop} {q : Option ℕ} {label : α → ReportLabel}
    {failed : ReportLabel} {x : ReportTx α}
    (hcommits : ∀ s a s', Commits x s a s' → ∃ q', ReportMove q s (label a) s' q' ∧ R a q')
    (hfailed : ∀ s, ∃ q', ReportMove q s failed s q' ∧ E q') :
    Obeys ReportMove R E q (statement label failed x) :=
  obeys_atomically (fun s a s' h => hcommits s a s' (upTx_commits h)) fun s _ _ => hfailed s

lemma claimJob_commits {jobId n : ℕ} (h : Commits (claimJob jobId) s n s') :
    n = 0 ∧ s' = s ∨ n = 1 ∧ ∃ job ∈ s.jobs, job.id = jobId ∧ job.status = .pending ∧
      ∃ job', job'.id = job.id ∧ job'.status = .running ∧ s'.jobs = s.jobs.put job' := by
  simp only [claimJob, commits_steps] at h
  obtain h := h
  have hcase := updateKey_commits (T := reportJob) (k := jobId) (fun _ => rfl) (by simp +contextual) h
  obtain hnone | ⟨hn, job, hjob, hp, rfl⟩ := hcase
  · exact .inl hnone
  · obtain ⟨hid, hpending⟩ := (Bool.and_eq_true _ _).mp hp
    exact .inr ⟨hn, job, hjob, of_decide_eq_true hid, of_decide_eq_true hpending, job.claim s.now, rfl,
      rfl, rfl⟩

lemma updateSchedule_jobs {lastError : Option String} {u : Unit}
    (h : Commits (updateSchedule job lastError) s u s') : s'.jobs = s.jobs := by
  rw [updateSchedule] at h
  split at h
  · rw [(commits_pure.mp h).2]
  · simp only [commits_bind, commits_updateMany, commits_pure] at h
    obtain ⟨_, _, ⟨_, rfl⟩, _, rfl⟩ := h
    rfl

lemma finishJob_commits {filename : String} {u : Unit} (h : Commits (finishJob job filename) s u s') :
    ∃ row ∈ s.jobs, row.id = job.id ∧ ∃ row', row'.id = row.id ∧ row'.status = .done ∧
      s'.jobs = s.jobs.put row' := by
  simp only [finishJob, commits_steps, commits_update] at h
  obtain ⟨_, _, ⟨row, hrow, rfl, rfl⟩, hschedule⟩ := h
  obtain ⟨hmem, hid⟩ := find?_eq_some.mp hrow
  exact ⟨row, hmem, hid, row.finish s.now filename, rfl, rfl, updateSchedule_jobs hschedule⟩

lemma recordFailure_commits {message : String} {u : Unit} (h : Commits (recordFailure job message) s u s') :
    ∃ row ∈ s.jobs, row.id = job.id ∧ ∃ row', row'.id = row.id ∧ row'.status = .failed ∧
      s'.jobs = s.jobs.put row' := by
  simp only [recordFailure, commits_steps, commits_update] at h
  obtain ⟨_, _, ⟨row, hrow, rfl, rfl⟩, hschedule⟩ := h
  obtain ⟨hmem, hid⟩ := find?_eq_some.mp hrow
  exact ⟨row, hmem, hid, row.fail s.now message, rfl, rfl, updateSchedule_jobs hschedule⟩

lemma renderJob_obeys :
    Obeys ReportMove (fun _ q => q = none) (fun q => q = some job.id) (some job.id) (renderJob cfg job) := by
  have hbuild := (cfg.renders job).obeys (P := ReportMove) (q := some job.id) (by
    rintro s _ _ ⟨rfl, rfl⟩
    exact .renders rfl)
  unfold renderJob
  refine hbuild.bind ?_
  rintro csv _ rfl
  refine obeys_ofExcept.bind ?_
  rintro output _ rfl
  refine Obeys.bind (R := fun _ q => q = some job.id) ?_ ?_
  · refine obeys_atomically (fun s _ s' h => ⟨_, ?_, rfl⟩) fun s _ _ => ⟨_, .renders rfl, rfl⟩
    simp only [commits_steps, commits_set] at h
    obtain ⟨_, rfl⟩ := h
    exact .renders rfl
  · rintro _ _ rfl
    refine obeys_statement (fun s _ s' h => ⟨none, ?_, rfl⟩) fun s => ⟨_, .renders rfl, rfl⟩
    obtain ⟨row, hrow, hid, row', hid', hdone, hjobs⟩ := finishJob_commits h
    rw [← hid]
    exact .finishes hrow hid' hdone hjobs

lemma processReportJob_obeys :
    Obeys ReportMove (fun _ q => q = none) (fun q => q = none) none (processReportJob cfg job) := by
  unfold processReportJob
  refine Obeys.bind (R := fun n q => q = if n = 0 then none else some job.id) ?_ ?_
  · refine obeys_statement (fun s n s' h => ⟨_, ?_, rfl⟩) fun s => ⟨_, .looks, rfl⟩
    obtain ⟨rfl, rfl⟩ | ⟨rfl, row, hrow, hid, hpending, row', hid', hrunning, hjobs⟩ := claimJob_commits h
    · exact .looks
    · rw [if_neg one_ne_zero, if_neg one_ne_zero, ← hid]
      exact .claims hrow hpending hid' hrunning hjobs
  · rintro n _ rfl
    refine Obeys.ite (fun hn => ?_) fun hn => ?_
    · rw [if_pos hn]
      exact obeys_pure rfl
    · rw [if_neg hn]
      refine Obeys.attempt renderJob_obeys ?_
      rintro message _ rfl
      refine obeys_statement (fun s _ s' h => ⟨none, ?_, rfl⟩) fun s => ⟨_, .loses, rfl⟩
      obtain ⟨row, hrow, hid, row', hid', hfailed, hjobs⟩ := recordFailure_commits h
      rw [← hid]
      exact .records hrow hid' hfailed hjobs

lemma processReportJobs_obeys :
    Obeys ReportMove (fun _ q => q = none) (fun q => q = none) none (processReportJobs cfg) := by
  unfold processReportJobs
  refine Obeys.bind (R := fun _ q => q = none) ?_ ?_
  · refine obeys_statement (fun s _ s' h => ⟨_, ?_, rfl⟩) fun s => ⟨_, .looks, rfl⟩
    simp only [commits_steps] at h
    obtain ⟨_, rfl⟩ := h
    exact .looks
  · rintro jobs _ rfl
    refine Obeys.forM (S := fun q => q = none) rfl ?_
    rintro job _ rfl
    exact processReportJob_obeys

/-! ### Who holds what -/

abbrev Holdings := ℕ → Option ℕ

structure HeldBy (jobs : Table ReportJob.id) (g : Holdings) : Prop where
  running : ∀ i jobId, g i = some jobId → ∃ job ∈ jobs, job.id = jobId ∧ job.status = .running
  alone : ∀ i j jobId, g i = some jobId → g j = some jobId → i = j

def RunningHeld (jobs : Table ReportJob.id) (g : Holdings) : Prop :=
  ∀ job ∈ jobs, job.status = .running → ∃ i, g i = some job.id

variable {jobs jobs' : Table ReportJob.id} {g : Holdings} {job' : ReportJob} {i jobId : ℕ}

lemma update_eq_some {x : Option ℕ} {j : ℕ} (h : Function.update g i x j = some jobId) :
    j = i ∧ x = some jobId ∨ j ≠ i ∧ g j = some jobId := by
  by_cases hj : j = i
  · subst hj
    rw [Function.update_self] at h
    exact .inl ⟨rfl, h⟩
  · rw [Function.update_of_ne hj] at h
    exact .inr ⟨hj, h⟩

lemma HeldBy.drop (h : HeldBy jobs g) (i : ℕ) : HeldBy jobs (Function.update g i none) := by
  have hold {j k : ℕ} (hj : Function.update g i none j = some k) : g j = some k := by
    obtain ⟨_, hnone⟩ | ⟨_, hj⟩ := update_eq_some hj
    · cases hnone
    · exact hj
  exact ⟨fun j k hj => h.running j k (hold hj), fun j j' k hj hj' => h.alone j j' k (hold hj) (hold hj')⟩

lemma HeldBy.not_runningHeld (h : HeldBy jobs g) (hi : g i = some jobId) :
    ¬ RunningHeld jobs (Function.update g i none) := by
  intro hheld
  obtain ⟨job, hjob, rfl, hrunning⟩ := h.running i jobId hi
  obtain ⟨j, hj⟩ := hheld job hjob hrunning
  obtain ⟨_, hnone⟩ | ⟨hne, hj⟩ := update_eq_some hj
  · cases hnone
  · exact hne (h.alone j i job.id hj hi)

lemma HeldBy.claim (h : HeldBy jobs g) (hjob : job ∈ jobs) (hpending : job.status = .pending)
    (hid : job'.id = job.id) (hrunning : job'.status = .running) :
    HeldBy (jobs.put job') (Function.update g i (some job.id)) := by
  have hfree {j : ℕ} : g j ≠ some job.id := by
    intro hj
    obtain ⟨x, hx, hxid, hxrunning⟩ := h.running j job.id hj
    rw [eq_of_key_eq hx hjob hxid, hpending] at hxrunning
    cases hxrunning
  constructor
  · intro j k hj
    obtain ⟨_, hk⟩ | ⟨_, hj⟩ := update_eq_some hj
    · exact ⟨job', mem_put_self jobs job', hid.trans (Option.some.inj hk), hrunning⟩
    · obtain ⟨x, hx, rfl, hxrunning⟩ := h.running j k hj
      refine ⟨x, mem_put.mpr (Or.inr ⟨hx, fun hkey => ?_⟩), rfl, hxrunning⟩
      exact hfree (j := j) (by rw [hj, hkey, hid])
  · intro j j' k hj hj'
    obtain ⟨rfl, hk⟩ | ⟨_, hj⟩ := update_eq_some hj
    · obtain ⟨rfl, _⟩ | ⟨_, hj'⟩ := update_eq_some hj'
      · rfl
      · exact absurd (hj'.trans hk.symm) hfree
    · obtain ⟨_, hk⟩ | ⟨_, hj'⟩ := update_eq_some hj'
      · exact absurd (hj.trans hk.symm) hfree
      · exact h.alone j j' k hj hj'

lemma RunningHeld.claim (h : RunningHeld jobs g) (hi : g i = none) (hid : job'.id = job.id) :
    RunningHeld (jobs.put job') (Function.update g i (some job.id)) := by
  intro x hx hrunning
  obtain rfl | ⟨hx, _⟩ := mem_put.mp hx
  · exact ⟨i, by rw [Function.update_self, hid]⟩
  · obtain ⟨j, hj⟩ := h x hx hrunning
    refine ⟨j, ?_⟩
    rw [Function.update_of_ne]
    · exact hj
    · rintro rfl
      cases hi.symm.trans hj

lemma HeldBy.close (h : HeldBy jobs g) (hi : g i = some job.id) (hid : job'.id = job.id) :
    HeldBy (jobs.put job') (Function.update g i none) := by
  have hdrop := h.drop i
  refine ⟨fun j k hj => ?_, hdrop.alone⟩
  obtain ⟨x, hx, rfl, hrunning⟩ := hdrop.running j k hj
  refine ⟨x, mem_put.mpr (Or.inr ⟨hx, fun hkey => ?_⟩), rfl, hrunning⟩
  obtain ⟨_, hnone⟩ | ⟨hne, hj⟩ := update_eq_some hj
  · cases hnone
  · rw [hkey, hid] at hj
    exact hne (h.alone j i job.id hj hi)

lemma RunningHeld.close (h : RunningHeld jobs g) (hi : g i = some job.id) (hid : job'.id = job.id)
    (hended : job'.status ≠ .running) : RunningHeld (jobs.put job') (Function.update g i none) := by
  intro x hx hrunning
  obtain rfl | ⟨hx, hne⟩ := mem_put.mp hx
  · exact absurd hrunning hended
  · obtain ⟨j, hj⟩ := h x hx hrunning
    refine ⟨j, ?_⟩
    rw [Function.update_of_ne]
    · exact hj
    · rintro rfl
      exact hne ((mem_unique hj hi).trans hid.symm)

structure NewJobs (s s' : ReportDb) : Prop where
  kept : ∀ job ∈ s.jobs, job ∈ s'.jobs
  pending : ∀ job ∈ s'.jobs, job ∈ s.jobs ∨ job.status = .pending

lemma HeldBy.outside (h : HeldBy s.jobs g) (hnew : NewJobs s s') : HeldBy s'.jobs g := by
  refine ⟨fun j k hj => ?_, h.alone⟩
  obtain ⟨x, hx, hid, hrunning⟩ := h.running j k hj
  exact ⟨x, hnew.kept x hx, hid, hrunning⟩

lemma RunningHeld.outside (h : RunningHeld s.jobs g) (hnew : NewJobs s s') : RunningHeld s'.jobs g := by
  intro x hx hrunning
  obtain hx | hpending := hnew.pending x hx
  · exact h x hx hrunning
  · rw [hpending] at hrunning
    cases hrunning

/-! ### Runs -/

abbrev ReportPool := Pool ReportLabel ReportDb (Except String Unit)

abbrev ReportAction := PoolAction ℕ ReportLabel (Except String Unit)

/-- One call of `processReportJobs`, by whatever worker. -/
def serveReports (cfg : ReportConfig) (_ : ℕ) : Process ReportLabel ReportDb (Except String Unit) :=
  (processReportJobs cfg).run

abbrev ReportStep (cfg : ReportConfig) := PoolStep (serveReports cfg) NewJobs

def holdings (g : Holdings) (a : ReportAction) (_ : ReportPool) : Holdings :=
  match a with
  | .steps i (.claimed jobId) => Function.update g i (some jobId)
  | .steps i (.finished _) | .steps i (.recorded _) | .steps i (.lost _) | .crashes i => Function.update g i none
  | .steps _ .looked | .steps _ (.rendering _) | .starts _ _ | .answers _ _ | .outside => g

def HoldingStep (cfg : ReportConfig) : ReportPool × Holdings → ReportAction → ReportPool × Holdings → Prop :=
  Observed holdings (ReportStep cfg)

def Claimable (db : ReportDb) (jobId : ℕ) : Prop := ∃ db', Commits (claimJob jobId) db 1 db'

/-- One worker at most renders a job, and every job that has not ended is held by a worker that runs or can be
claimed. -/
structure JobsRight (w : ReportPool × Holdings) : Prop where
  alone : ∀ i j jobId, w.2 i = some jobId → w.2 j = some jobId → i = j
  kept : ∀ job ∈ w.1.state.jobs, job.status = .done ∨ job.status = .failed ∨
    (∃ i, (w.1.running i).isSome = true ∧ w.2 i = some job.id) ∨ Claimable w.1.state job.id

def KeepsHold (w : ReportPool × Holdings) : ReportAction → Prop
  | .crashes i => w.2 i = none
  | .steps _ (.lost _) => False
  | .steps _ .looked | .steps _ (.claimed _) | .steps _ (.rendering _) | .steps _ (.finished _)
  | .steps _ (.recorded _) | .starts _ _ | .answers _ _ | .outside => True

structure Holding (w : ReportPool × Holdings) : Prop where
  stages : ∃ stage, w.1.Along ReportMove (fun _ q => q = none) stage ∧ ∀ i, (stage i).join = w.2 i
  held : HeldBy w.1.state.jobs w.2

variable {w w' : ReportPool × Holdings} {a : ReportAction}

lemma claimable_iff (hjob : job ∈ s.jobs) : Claimable s job.id ↔ job.status = .pending := by
  constructor
  · rintro ⟨s', h⟩
    obtain ⟨hzero, _⟩ | ⟨_, row, hrow, hid, hpending, _⟩ := claimJob_commits h
    · cases hzero
    · rwa [← eq_of_key_eq hrow hjob hid]
  · intro hpending
    have hone : (s.jobs.updateMany (fun row => row.id = job.id && row.status = .pending)
        (ReportJob.claim s.now) (fun _ => rfl)).2 = 1 := by
      refine Table.updateMany_eq_one hjob fun row hrow => ?_
      simp only [cond_iff]
      exact ⟨fun h => eq_of_key_eq hrow hjob h.1, fun h => by rw [h]; exact ⟨rfl, hpending⟩⟩
    simp only [Claimable, claimJob, commits_bind, commits_get]
    exact ⟨_, s, s, ⟨rfl, rfl⟩, commits_updateMany.mpr ⟨hone.symm, rfl⟩⟩

lemma Holding.isSome (h : Holding w) {i jobId : ℕ} (hi : w.2 i = some jobId) :
    (w.1.running i).isSome = true := by
  obtain ⟨stage, halong, hstage⟩ := h.stages
  rw [← hstage i] at hi
  exact halong.isSome (Option.join_eq_some_iff.mp hi)

lemma Holding.jobsRight_iff (h : Holding w) : JobsRight w ↔ RunningHeld w.1.state.jobs w.2 := by
  constructor
  · intro hright job hjob hrunning
    obtain hdone | hfailed | ⟨i, _, hi⟩ | hclaim := hright.kept job hjob
    · cases hrunning.symm.trans hdone
    · cases hrunning.symm.trans hfailed
    · exact ⟨i, hi⟩
    · cases hrunning.symm.trans ((claimable_iff hjob).mp hclaim)
  · intro hheld
    refine ⟨h.held.alone, fun job hjob => ?_⟩
    cases hstatus : job.status with
    | done => exact .inl rfl
    | failed => exact .inr (Or.inl rfl)
    | pending => exact .inr (Or.inr (Or.inr ((claimable_iff hjob).mpr hstatus)))
    | running =>
      obtain ⟨i, hi⟩ := hheld job hjob hstatus
      exact .inr (Or.inr (Or.inl ⟨i, h.isSome hi, hi⟩))

lemma serveReports_follows (cfg : ReportConfig) (pid : ℕ) :
    (serveReports cfg pid).Follows ReportMove (fun _ q => q = none) none := by
  have hobeys : Obeys ReportMove (fun _ q => q = none) (fun q => q = none) none (processReportJobs cfg) :=
    processReportJobs_obeys
  refine Process.Follows.mono (fun r q hr => ?_) hobeys
  cases r with
  | ok _ => exact hr
  | error _ => exact hr

variable {stage : ℕ → Option (Option ℕ)} {x : Option (Option ℕ)}

lemma join_update {y : Option ℕ} (h : ∀ j, (stage j).join = g j) (hx : x.join = y) (j : ℕ) :
    (Function.update stage i x j).join = Function.update g i y j := by
  by_cases hj : j = i
  · subst hj
    rw [Function.update_self, Function.update_self, hx]
  · rw [Function.update_of_ne hj, Function.update_of_ne hj, h]

lemma join_update_self (h : ∀ j, (stage j).join = g j)
    (hx : x.join = g i) (j : ℕ) : (Function.update stage i x j).join = g j := by
  rw [join_update h hx, Function.update_eq_self]

/-- A step keeps the workers in their stages, and if nothing was lost it loses nothing exactly if it keeps hold. -/
lemma Holding.step (h : Holding w) (hstep : HoldingStep cfg w a w') :
    Holding w' ∧ (RunningHeld w.1.state.jobs w.2 → (RunningHeld w'.1.state.jobs w'.2 ↔ KeepsHold w a)) := by
  obtain ⟨⟨s, running⟩, g⟩ := w
  obtain ⟨⟨s', running'⟩, g'⟩ := w'
  obtain ⟨⟨stage, halong, hstage⟩, hheld⟩ := h
  obtain ⟨hpool, hg⟩ := hstep
  have hg : g' = holdings g a ⟨s', running'⟩ := hg
  subst hg
  obtain ⟨stage', halong', hmove⟩ := halong.move (serveReports_follows cfg) hpool
  dsimp only at hstage hheld hmove ⊢
  cases hmove with
  | starts hfree =>
    refine ⟨⟨⟨_, halong', join_update_self hstage ?_⟩, hheld⟩, fun hnone => iff_of_true hnone trivial⟩
    exact (congrArg Option.join hfree).symm.trans (hstage _)
  | answers hq hend =>
    subst hend
    refine ⟨⟨⟨_, halong', join_update_self hstage ?_⟩, hheld⟩, fun hnone => iff_of_true hnone trivial⟩
    exact (congrArg Option.join hq).symm.trans (hstage _)
  | @crashes i =>
    refine ⟨⟨⟨_, halong', join_update hstage rfl⟩, hheld.drop i⟩, fun hnone => ?_⟩
    change RunningHeld s.jobs (Function.update g i none) ↔ g i = none
    constructor
    · intro hkept
      by_contra hi
      obtain ⟨jobId, hi⟩ := Option.ne_none_iff_exists'.mp hi
      exact hheld.not_runningHeld hi hkept
    · intro hi
      rwa [← hi, Function.update_eq_self]
  | outside hnew =>
    exact ⟨⟨⟨_, halong', hstage⟩, hheld.outside hnew⟩, fun hnone => iff_of_true (hnone.outside hnew) trivial⟩
  | @steps i _ _ _ _ hq hmove =>
    have hi := (congrArg Option.join hq).symm.trans (hstage i)
    cases hmove with
    | looks =>
      exact ⟨⟨⟨_, halong', join_update_self hstage hi⟩, hheld⟩, fun hnone => iff_of_true hnone trivial⟩
    | renders hjobs =>
      refine ⟨⟨⟨_, halong', join_update_self hstage hi⟩, ?_⟩, fun hnone => iff_of_true ?_ trivial⟩
      · exact hjobs ▸ hheld
      · exact hjobs ▸ hnone
    | claims hjob hpending hid hrunning hjobs =>
      refine ⟨⟨⟨_, halong', join_update hstage rfl⟩, ?_⟩, fun hnone => iff_of_true ?_ trivial⟩
      · exact hjobs ▸ hheld.claim hjob hpending hid hrunning
      · exact hjobs ▸ hnone.claim hi.symm hid
    | finishes hjob hid hended hjobs | records hjob hid hended hjobs =>
      refine ⟨⟨⟨_, halong', join_update hstage rfl⟩, ?_⟩, fun hnone => iff_of_true ?_ trivial⟩
      · exact hjobs ▸ hheld.close hi.symm hid
      · exact hjobs ▸ hnone.close hi.symm hid (by rw [hended]; decide)
    | loses =>
      refine ⟨⟨⟨_, halong', join_update hstage rfl⟩, hheld.drop i⟩, fun _ => iff_of_false ?_ id⟩
      exact hheld.not_runningHeld hi.symm

lemma holding_idle {p : ReportPool} (hidle : p.Idle) : Holding (p, fun _ => none) := by
  refine ⟨⟨_, hidle.along, fun _ => rfl⟩, ?_, ?_⟩
  · rintro i jobId ⟨⟩
  · rintro i j jobId ⟨⟩

/-- In a run of any workers that starts where no job is running, one worker at most renders a job and no job is
lost, exactly if no worker crashes while it holds a job or fails to write that a report has failed. -/
theorem jobsRight_iff_keepsHold {p : ReportPool} (hidle : p.Idle)
    (hrest : ∀ job ∈ p.state.jobs, job.status ≠ .running) {as : List ReportAction} :
    Run (Landing JobsRight (HoldingStep cfg)) (p, fun _ => none) as w ↔
      Run (Guarded KeepsHold (HoldingStep cfg)) (p, fun _ => none) as w := by
  have hholding := holding_idle hidle
  refine Run.landing_iff_guarded_of_invariant (J := Holding) ?_ ?_ hholding ?_
  · exact fun _ _ _ hs hstep => (hs.step hstep).1
  · intro s a s' hs hright hstep
    obtain ⟨hs', hiff⟩ := hs.step hstep
    rw [hs'.jobsRight_iff]
    exact hiff (hs.jobsRight_iff.mp hright)
  · exact hholding.jobsRight_iff.mpr fun job hjob hrunning => absurd hrunning (hrest job hjob)

/-! A job with a report of one line. -/

def plainConfig : ReportConfig where
  buildReportCsv job := lookup (.rendering job.id) fun _ => "number,total"
  renders _ := does_lookup fun _ => ⟨rfl, rfl⟩
  toUpperCase text := text
  renderXlsx csv := csv
  renderPdf csv _ := csv

def requested : ReportPool where
  state :=
    { now := 1000
      jobs := Table.empty.put { id := 1, companyId := 1, reportType := "SALES", createdAt := 900 } }
  running := fun _ => none

def wait (ms : ℕ) (db : ReportDb) : ReportDb := { db with now := db.now + ms }

lemma newJobs_wait (ms : ℕ) (db : ReportDb) : NewJobs db (wait ms db) :=
  ⟨fun _ hjob => hjob, fun _ hjob => .inl hjob⟩

def isLost : Option ReportLabel → Bool
  | some (.lost _) => true
  | _ => false

lemma keepsHold_of_not_lost (hlost : isLost a.label = false) (hcrash : ∀ i, a ≠ .crashes i) :
    KeepsHold w a := by
  cases a with
  | crashes i => exact absurd rfl (hcrash i)
  | steps i l =>
    cases l with
    | lost jobId => cases hlost
    | looked | claimed _ | rendering _ | finished _ | recorded _ => trivial
  | starts _ _ | answers _ _ | outside => trivial

theorem jobsRight_requested : ∃ as w,
    Run (Landing JobsRight (HoldingStep plainConfig)) (requested, fun _ => none) as w ∧
    w.1.state.jobs.rows.map ReportJob.status = [.done] := by
  obtain ⟨as, w, hrun, hdone⟩ := Pool.exists_observed_of_watch (serveReports plainConfig) newJobs_wait
    (fun _ l => isLost l = false) holdings requested (fun _ => none)
    ([.start 0 0, .start 1 1, .step 0, .step 1, .step 0, .step 1, .outside 50] ++ List.replicate 3 (.step 0) ++
      [.answer 0, .answer 1])
    (fun s _ => s.jobs.rows.map ReportJob.status = [.done]) (by decide +kernel)
  refine ⟨as, w, (jobsRight_iff_keepsHold (fun _ => rfl) (by decide +kernel)).mpr ?_, hdone⟩
  refine hrun.mono fun _ _ _ h => ?_
  exact ⟨keepsHold_of_not_lost h.1.1 h.1.2, h.2⟩

/-- A worker crashes after it has claimed the job, which nobody holds or can claim then. -/
theorem not_jobsRight_crash : ∃ as w, Run (HoldingStep plainConfig) (requested, fun _ => none) as w ∧
    ¬ JobsRight w := by
  obtain ⟨as, w, hrun, hheld⟩ := Pool.exists_observed_of_watch (serveReports plainConfig) newJobs_wait
    (fun _ _ => True) holdings requested (fun _ => none) [.start 0 0, .step 0, .step 0]
    (fun _ g => g 0 = some 1) (by decide +kernel)
  have hrun : Run (HoldingStep plainConfig) (requested, fun _ => none) as w := hrun.of_guarded
  have hholding : Holding w := hrun.invariant (fun _ _ _ hs hstep => (hs.step hstep).1) (holding_idle fun _ => rfl)
  have hcrash : HoldingStep plainConfig w (.crashes 0) (_, holdings w.2 (.crashes 0) w.1) := ⟨.crashes, rfl⟩
  refine ⟨as ++ [.crashes 0], _, Run.append_iff.mpr ⟨w, hrun, Run.cons hcrash (Run.nil _)⟩, ?_⟩
  rw [(hholding.step hcrash).1.jobsRight_iff]
  exact hholding.held.not_runningHeld hheld

end Mayatoko.Reports
