import Mayatoko.Payroll.Run

/-!
# Recalculating a payroll run

A calculation writes the result of every employee it goes over and leaves the other results of
the run as they are. So its results are one for each employee gone over, and the count and the
totals of the run are theirs, when no older result is of another employee; such a run without
review reasons can be approved.
-/

namespace Mayatoko.Payroll

open Core PayrollDb TableOf

variable {db db' : PayrollDb} {scope : TenantScope} {i : RunInputs}

lemma writeLines_commits {id : ℕ} {lines : List PayrollLine} (h : Commits (writeLines id lines) db () db') :
    db'.results = db.results ∧ db'.runs = db.runs ∧ db'.employees = db.employees := by
  rw [← commits_modify.mp h]
  exact ⟨rfl, rfl, rfl⟩

structure RunInputs.IsResult (i : RunInputs) (employeeId : ℕ) (r : PayrollResult) : Prop where
  key : r.key = (i.run.id, employeeId)
  amounts : r.toPayAmounts = i.resultAmounts employeeId

def RunInputs.Owned (i : RunInputs) (db : PayrollDb) : Prop :=
  ∀ r ∈ db.results, r.payrollRunId = i.run.id → r.companyId = i.scope.companyId

lemma calculateEmployee_commits {e : Employee} (h : Commits (calculateEmployee i e) db () db') :
    (∃ r, i.IsResult e.id r ∧ (i.Owned db → r.companyId = i.scope.companyId) ∧
      db'.results = db.results.put r) ∧ db'.runs = db.runs ∧ db'.employees = db.employees := by
  simp only [calculateEmployee, commits_bind, commits_get, commits_set, commits_require, commits_upsert] at h
  obtain ⟨_, _, ⟨_, rfl⟩, _, _, ⟨rfl, rfl⟩, _, _, rfl, row, _, ⟨hrow, rfl⟩, hlines⟩ := h
  obtain ⟨hresults, hruns, hemployees⟩ := writeLines_commits hlines
  refine ⟨⟨row, ?_, ?_, hresults⟩, hruns, hemployees⟩
  · change row = (Table.find? db.results (i.run.id, e.id)).elim _ _ at hrow
    cases hold : db.results.find? (i.run.id, e.id) with
    | none =>
      rw [hold] at hrow
      exact hrow ▸ ⟨rfl, rfl⟩
    | some old =>
      rw [hold] at hrow
      exact hrow ▸ ⟨(find?_eq_some.mp hold).2, rfl⟩
  · intro hown
    change row = (Table.find? db.results (i.run.id, e.id)).elim _ _ at hrow
    cases hold : db.results.find? (i.run.id, e.id) with
    | none =>
      rw [hold] at hrow
      rw [hrow]
      rfl
    | some old =>
      rw [hold] at hrow
      obtain ⟨hmem, hkey⟩ := find?_eq_some.mp hold
      rw [hrow]
      exact hown old hmem (congrArg Prod.fst hkey)

/-! ### The loop -/

variable {l : List Employee} {totals totals' : PayrollTotals}

lemma calculateEmployees_commits (h : Commits (calculateEmployees i l totals) db totals' db') :
    totals' = l.foldl (fun t e => t.plus (i.resultAmounts e.id)) totals ∧
      db'.runs = db.runs ∧ db'.employees = db.employees := by
  induction l generalizing db totals with
  | nil =>
    obtain ⟨rfl, rfl⟩ := commits_pure.mp h
    exact ⟨rfl, rfl, rfl⟩
  | cons e l ih =>
    obtain ⟨_, t, hhead, hrest⟩ := commits_bind.mp h
    obtain ⟨_, hruns, hemployees⟩ := calculateEmployee_commits hhead
    obtain ⟨htotals, hruns', hemployees'⟩ := ih hrest
    exact ⟨htotals, hruns'.trans hruns, hemployees'.trans hemployees⟩

lemma calculateEmployees_nonneg (h : Commits (calculateEmployees i l totals) db totals' db') :
    ∀ e ∈ l, 0 ≤ (i.calculation e.id).tax.netAfterTax := by
  induction l generalizing db totals with
  | nil => exact fun _ he => absurd he not_mem_nil
  | cons e l ih =>
    obtain ⟨_, t, hhead, hrest⟩ := commits_bind.mp h
    simp only [calculateEmployee, commits_bind, commits_require] at hhead
    obtain ⟨_, _, ⟨hnonneg, _⟩, _⟩ := hhead
    exact forall_mem_cons.mpr ⟨hnonneg, ih hrest⟩

lemma find?_calculateEmployees_of_not_mem
    (h : Commits (calculateEmployees i l totals) db totals' db') {k : ℕ × ℕ}
    (hk : ∀ e ∈ l, k ≠ (i.run.id, e.id)) : db'.results.find? k = db.results.find? k := by
  induction l generalizing db totals with
  | nil => rw [(commits_pure.mp h).2]
  | cons e l ih =>
    obtain ⟨_, t, hhead, hrest⟩ := commits_bind.mp h
    obtain ⟨⟨r, hr, _, hput⟩, _⟩ := calculateEmployee_commits hhead
    rw [forall_mem_cons] at hk
    rw [ih hrest hk.2, hput, find?_put_of_ne]
    rw [hr.key]
    exact hk.1

lemma find?_calculateEmployees_of_mem
    (h : Commits (calculateEmployees i l totals) db totals' db') {e : Employee} (he : e ∈ l) :
    ∃ r, i.IsResult e.id r ∧ db'.results.find? (i.run.id, e.id) = some r := by
  induction l generalizing db totals e with
  | nil => cases he
  | cons e' l ih =>
    obtain ⟨_, t, hhead, hrest⟩ := commits_bind.mp h
    obtain ⟨⟨r, hr, _, hput⟩, _⟩ := calculateEmployee_commits hhead
    by_cases hlater : ∃ x ∈ l, x.id = e.id
    · obtain ⟨x, hx, hid⟩ := hlater
      rw [← hid]
      exact ih hrest hx
    · have he' : e = e' := by
        rcases mem_cons.mp he with rfl | hl
        · rfl
        · exact absurd ⟨e, hl, rfl⟩ hlater
      subst he'
      refine ⟨r, hr, ?_⟩
      rw [find?_calculateEmployees_of_not_mem hrest, hput, ← hr.key, find?_put_self]
      intro x hx hk
      exact hlater ⟨x, hx, (congrArg Prod.snd hk).symm⟩

lemma owned_calculateEmployees (h : Commits (calculateEmployees i l totals) db totals' db')
    (hown : i.Owned db) : i.Owned db' := by
  induction l generalizing db totals with
  | nil => rwa [← (commits_pure.mp h).2]
  | cons e l ih =>
    obtain ⟨_, t, hhead, hrest⟩ := commits_bind.mp h
    obtain ⟨⟨r, _, hcompany, hput⟩, _⟩ := calculateEmployee_commits hhead
    apply ih hrest
    intro x hx hrun
    rw [hput] at hx
    rcases mem_put.mp hx with rfl | ⟨hx, _⟩
    · exact hcompany hown
    · exact hown x hx hrun

def totalsOf (rows : List PayAmounts) : PayrollTotals where
  grossTotal := (rows.map fun a => a.grossPay).sum
  deductionTotal := (rows.map fun a => a.otherDeductions + a.employeeContribution).sum
  taxTotal := (rows.map fun a => a.incomeTax).sum
  employerContributionTotal := (rows.map fun a => a.employerContribution).sum
  netTotal := (rows.map fun a => a.netPay).sum

lemma totalsOf_perm {rows rows' : List PayAmounts} (h : rows.Perm rows') : totalsOf rows = totalsOf rows' := by
  simp only [totalsOf, (h.map _).sum_eq]

lemma foldl_plus (rows : List PayAmounts) (t : PayrollTotals) : rows.foldl PayrollTotals.plus t =
      { grossTotal := t.grossTotal + (totalsOf rows).grossTotal
        deductionTotal := t.deductionTotal + (totalsOf rows).deductionTotal
        taxTotal := t.taxTotal + (totalsOf rows).taxTotal
        employerContributionTotal :=
          t.employerContributionTotal + (totalsOf rows).employerContributionTotal
        netTotal := t.netTotal + (totalsOf rows).netTotal } := by
  induction rows generalizing t with
  | nil => simp [totalsOf]
  | cons a rows ih =>
    rw [List.foldl_cons, ih]
    simp [totalsOf, PayrollTotals.plus, add_assoc]

lemma foldl_plus_zero (rows : List PayAmounts) : rows.foldl PayrollTotals.plus {} = totalsOf rows := by
  rw [foldl_plus]
  simp

/-! ### The calculation of a run -/

variable {runId : ℕ} {run : PayrollRun}

lemma scopedRun_commits {s : PayrollDb} : Commits (db.scopedRun scope runId) s run db' ↔
      (db.runs.find? runId = some run ∧ run.companyId = scope.companyId ∧
        run.branchId = some scope.branchId) ∧ s = db' := by
  simp only [scopedRun, commits_bind, commits_orThrow, commits_require, commits_pure]
  constructor
  · rintro ⟨_, _, ⟨hfind, rfl⟩, _, _, ⟨hscope, rfl⟩, rfl, rfl⟩
    exact ⟨⟨hfind, hscope⟩, rfl⟩
  · rintro ⟨⟨hfind, hscope⟩, rfl⟩
    exact ⟨run, s, ⟨hfind, rfl⟩, (), s, ⟨hscope, rfl⟩, rfl, rfl⟩

def SourceRecognized (db : PayrollDb) (scope : TenantScope) (run : PayrollRun) : Prop :=
  ∀ sourceId ∈ run.adjustmentOfRunId, ∃ source, db.runs.find? sourceId = some source ∧
    (source.companyId = scope.companyId ∧ source.branchId = some scope.branchId) ∧
    source.adjustmentOfRunId = none ∧ source.status.recognized = true

lemma checkSource_commits (h : Commits (checkSource scope run) db () db') :
    SourceRecognized db scope run ∧ db = db' := by
  unfold checkSource at h
  split at h
  next hnone =>
    rw [SourceRecognized, hnone]
    exact ⟨by simp, (commits_pure.mp h).2⟩
  next sourceId hsome =>
    simp only [commits_steps, scopedRun_commits] at h
    obtain ⟨source, ⟨hfind, hscope⟩, ⟨hregular, _, hstatus⟩, rfl⟩ := h
    rw [SourceRecognized, hsome]
    refine ⟨?_, rfl⟩
    rintro _ ⟨⟩
    exact ⟨source, hfind, hscope, hregular, hstatus⟩

lemma writeSummary_commits (h : Commits (writeSummary i totals) db () db') :
    db'.results = db.results ∧ db'.runs = db.runs ∧ db'.employees = db.employees := by
  simp only [writeSummary, commits_ite, commits_steps, commits_upsert] at h
  rcases h with ⟨_, _, rfl⟩ | ⟨_, _, _, ⟨_, rfl⟩, _, rfl⟩ <;> exact ⟨rfl, rfl, rfl⟩

/-- What a calculation of a run reads in `db`, returns and leaves behind. -/
structure Calculated (i : RunInputs) (db : PayrollDb) (run' : PayrollRun) (db' : PayrollDb) :
    Prop where
  found : db.runs.find? i.run.id = some i.run
  inScope : i.run.companyId = i.scope.companyId ∧ i.run.branchId = some i.scope.branchId
  source : SourceRecognized db i.scope i.run
  employees : i.employees = db.payrollEmployees i.scope i.run
  nonempty : i.employees ≠ []
  updated : run' =
    { i.run with
      toPayrollTotals := totalsOf (i.employees.map fun e => i.resultAmounts e.id)
      status := .review
      employeeCount := i.employees.length }
  runs : db'.runs = (db.runs.put { i.run with status := .calculating }).put run'
  sameEmployees : db'.employees = db.employees
  others : ∀ k, (∀ e ∈ i.employees, k ≠ (i.run.id, e.id)) →
    db'.results.find? k = db.results.find? k
  written : ∀ e ∈ i.employees, ∃ r, i.IsResult e.id r ∧
    db'.results.find? (i.run.id, e.id) = some r
  owned : i.Owned db → i.Owned db'
  nonneg : ∀ e ∈ i.employees, 0 ≤ (i.calculation e.id).tax.netAfterTax

variable {calculation : ℕ → EmployeeCalculation}

lemma openRun_commits
    (h : Commits (openRun scope runId calculation) db i db') :
    (db.runs.find? i.run.id = some i.run ∧ i.run.companyId = i.scope.companyId ∧
      i.run.branchId = some i.scope.branchId) ∧ SourceRecognized db i.scope i.run ∧
      i.employees = db.payrollEmployees i.scope i.run ∧ i.employees ≠ [] ∧
      i.scope = scope ∧ i.run.id = runId ∧ db = db' := by
  simp only [openRun, commits_bind, commits_get, scopedRun_commits, commits_require,
    commits_pure, assertPeriod, assertRuleSet, commits_orThrow] at h
  obtain ⟨_, _, ⟨rfl, rfl⟩, run, _, ⟨⟨hfind, hscope⟩, rfl⟩, _, _, ⟨_, rfl⟩, period, _,
    ⟨_, _, ⟨_, rfl⟩, _, _, ⟨_, rfl⟩, _, rfl⟩, _, _, ⟨_, rfl⟩, _, _, hcheck, _, _, ⟨_, rfl⟩, _, _,
    ⟨_, rfl⟩, _, _, ⟨hnonempty, rfl⟩, rfl, rfl⟩ := h
  obtain ⟨hsource, rfl⟩ := checkSource_commits hcheck
  have hid : run.id = runId := (find?_eq_some.mp hfind).2
  subst hid
  exact ⟨⟨hfind, hscope⟩, hsource, rfl, hnonempty, rfl, rfl, rfl⟩

lemma calculateRun_commits {run' : PayrollRun}
    (h : Commits (calculateRun scope runId calculation) db run' db') :
    ∃ i, i.scope = scope ∧ i.run.id = runId ∧ Calculated i db run' db' := by
  obtain ⟨i, _, hopen, hstore⟩ := commits_bind.mp h
  obtain ⟨⟨hfind, hscope⟩, hsource, hemployees, hnonempty, hs, hid, rfl⟩ := openRun_commits hopen
  simp only [storeRun, commits_steps, commits_update] at hstore
  obtain ⟨_, _, ⟨run₁, hcalc, rfl, rfl⟩, totals, t, hloop, _, _, ⟨last, hlast, rfl, rfl⟩, _, _,
    hsummary, rfl, rfl⟩ := hstore
  obtain ⟨hresults, hruns, hsame⟩ := writeSummary_commits hsummary
  obtain rfl : i.run = run₁ := mem_unique hfind hcalc
  obtain ⟨htotals, hruns', hsame'⟩ := calculateEmployees_commits hloop
  -- The row that the last update reads is the one written before the loop.
  change t.runs.find? i.run.id = some last at hlast
  rw [hruns'] at hlast
  obtain rfl := mem_unique (find?_put_self _ _) hlast
  rw [← List.foldl_map, foldl_plus_zero] at htotals
  subst htotals
  refine ⟨i, hs, hid, ?_⟩
  constructor
  case found => exact hfind
  case inScope => exact hscope
  case source => exact hsource
  case employees => exact hemployees
  case nonempty => exact hnonempty
  case updated => rfl
  case runs =>
    rw [hruns]
    exact congrArg (fun runs => Table.put runs _) hruns'
  case sameEmployees => exact hsame.trans hsame'
  case others =>
    intro k hk
    rw [hresults]
    exact find?_calculateEmployees_of_not_mem hloop hk
  case written =>
    intro e he
    rw [hresults]
    exact find?_calculateEmployees_of_mem hloop he
  case owned =>
    intro hown
    have hown' := owned_calculateEmployees hloop hown
    rw [RunInputs.Owned, hresults]
    exact hown'
  case nonneg => exact calculateEmployees_nonneg hloop

/-! ### The results of a run -/

def resultsOf (db : PayrollDb) (runId : ℕ) : List PayrollResult :=
  db.results.findMany fun r => r.payrollRunId = runId

lemma mem_resultsOf {r : PayrollResult} : r ∈ resultsOf db runId ↔ r ∈ db.results ∧ r.payrollRunId = runId := by
  simp [resultsOf, mem_findMany]

lemma mem_resultEmployees {id : ℕ} : id ∈ (resultsOf db runId).map PayrollResult.employeeId ↔
      ∃ r, db.results.find? (runId, id) = some r := by
  simp only [mem_map, mem_resultsOf, find?_eq_some]
  constructor
  · rintro ⟨r, ⟨hr, rfl⟩, rfl⟩
    exact ⟨r, hr, rfl⟩
  · rintro ⟨r, hr, hkey⟩
    obtain ⟨rfl, rfl⟩ := Prod.ext_iff.mp hkey
    exact ⟨r, ⟨hr, rfl⟩, rfl⟩

lemma nodup_resultEmployees (db : PayrollDb) (runId : ℕ) :
    ((resultsOf db runId).map PayrollResult.employeeId).Nodup := by
  apply List.Nodup.of_map (Prod.mk runId)
  have hkeys : ((resultsOf db runId).map PayrollResult.employeeId).map (Prod.mk runId) =
      (resultsOf db runId).map PayrollResult.key := by
    rw [map_map]
    refine map_congr_left fun r hr => ?_
    rw [← (mem_resultsOf.mp hr).2]
    rfl
  rw [hkeys]
  exact Table.nodup_findMany _ _

lemma nodup_payrollEmployees (db : PayrollDb) (scope : TenantScope) (run : PayrollRun) :
    ((db.payrollEmployees scope run).map Employee.id).Nodup := by
  unfold payrollEmployees
  dsimp only
  split
  · exact Table.nodup_findSorted _ _ _
  · exact Table.nodup_findSorted _ _ _

def Covered (db : PayrollDb) (scope : TenantScope) (run : PayrollRun) : Prop :=
  ∀ r ∈ resultsOf db run.id, r.employeeId ∈ (db.payrollEmployees scope run).map Employee.id

namespace Calculated

variable {run' : PayrollRun}

lemma mem_resultEmployees (h : Calculated i db run' db') {id : ℕ} :
    id ∈ (resultsOf db' i.run.id).map PayrollResult.employeeId ↔
      id ∈ i.employees.map Employee.id ∨
        id ∈ (resultsOf db i.run.id).map PayrollResult.employeeId := by
  rw [Payroll.mem_resultEmployees, Payroll.mem_resultEmployees]
  by_cases hid : id ∈ i.employees.map Employee.id
  · obtain ⟨e, he, rfl⟩ := mem_map.mp hid
    obtain ⟨r, _, hr⟩ := h.written e he
    simp [hr, hid]
  · have hother : ∀ e ∈ i.employees, (i.run.id, id) ≠ (i.run.id, e.id) := by
      rintro e he hkey
      obtain rfl : id = e.id := congrArg Prod.snd hkey
      exact hid (mem_map_of_mem he)
    rw [h.others _ hother]
    simp [hid]

/-- The results are one for each employee gone over exactly when no older result is of another
employee. -/
theorem perm_iff_covered (h : Calculated i db run' db') :
    ((resultsOf db' i.run.id).map PayrollResult.employeeId).Perm
      (i.employees.map Employee.id) ↔ Covered db i.scope i.run := by
  have hnodup := nodup_payrollEmployees db i.scope i.run
  rw [List.perm_ext_iff_of_nodup (nodup_resultEmployees db' i.run.id) (h.employees ▸ hnodup)]
  simp only [h.mem_resultEmployees, Covered, ← h.employees]
  constructor
  · intro hids r hr
    exact (hids r.employeeId).mp (Or.inr (mem_map_of_mem hr))
  · intro hcovered id
    constructor
    · rintro (hid | hid)
      · exact hid
      · obtain ⟨r, hr, rfl⟩ := mem_map.mp hid
        exact hcovered r hr
    · exact .inl

lemma amounts_eq (h : Calculated i db run' db') (hcovered : Covered db i.scope i.run) :
    (resultsOf db' i.run.id).map PayrollResult.toPayAmounts =
      ((resultsOf db' i.run.id).map PayrollResult.employeeId).map i.resultAmounts := by
  rw [map_map]
  refine map_congr_left fun r hr => ?_
  have hid := (h.perm_iff_covered.mpr hcovered).mem_iff.mp (mem_map_of_mem hr)
  obtain ⟨e, he, hid⟩ := mem_map.mp hid
  obtain ⟨r', hr', hfind⟩ := h.written e he
  obtain ⟨hmem, hrun⟩ := mem_resultsOf.mp hr
  have hsame : db'.results.find? r.key = some r' := by
    rw [← hfind, hid, ← hrun]
    rfl
  obtain rfl := mem_unique (find?_of_mem hmem) hsame
  rw [hr'.amounts, hid]
  rfl

lemma totals_eq (h : Calculated i db run' db') (hcovered : Covered db i.scope i.run) : run'.toPayrollTotals =
      totalsOf ((resultsOf db' i.run.id).map PayrollResult.toPayAmounts) := by
  rw [h.amounts_eq hcovered, totalsOf_perm ((h.perm_iff_covered.mpr hcovered).map _), map_map, h.updated]
  rfl

lemma covered_of_count (h : Calculated i db run' db')
    (hcount : run'.employeeCount = (resultsOf db' i.run.id).length) : Covered db i.scope i.run := by
  refine h.perm_iff_covered.mp (List.Subperm.perm_of_length_le ?_ ?_).symm
  · refine List.subperm_of_subset (h.employees ▸ nodup_payrollEmployees db i.scope i.run) ?_
    exact fun id hid => h.mem_resultEmployees.mpr (Or.inl hid)
  · rw [length_map, length_map, ← hcount, h.updated]

lemma count_eq (h : Calculated i db run' db') (hcovered : Covered db i.scope i.run) :
    run'.employeeCount = (resultsOf db' i.run.id).length := by
  have hlength := (h.perm_iff_covered.mpr hcovered).length_eq
  rw [length_map, length_map] at hlength
  rw [hlength, h.updated]

lemma run'_id (h : Calculated i db run' db') : run'.id = i.run.id := by
  rw [h.updated]

lemma find?_run' (h : Calculated i db run' db') : db'.runs.find? i.run.id = some run' := by
  rw [h.runs, ← h.run'_id, find?_put_self]

lemma find?_of_ne (h : Calculated i db run' db') {id : ℕ} (hid : id ≠ i.run.id) :
    db'.runs.find? id = db.runs.find? id := by
  rw [h.runs, find?_put_of_ne, find?_put_of_ne]
  · exact hid
  · rwa [h.run'_id]

end Calculated

/-! ### Approval -/

def AdjustmentReady (db : PayrollDb) (scope : TenantScope) (run : PayrollRun) : Prop :=
  ∀ sourceId ∈ run.adjustmentOfRunId,
    (∃ source, db.runs.find? sourceId = some source ∧
      (source.companyId = scope.companyId ∧ source.branchId = some scope.branchId) ∧
      source.adjustmentOfRunId = none ∧ source.status.recognized = true) ∧ run.hasDifference

lemma commits_checkAdjustment {u : Unit} :
    Commits (checkAdjustment scope run) db u db' ↔ AdjustmentReady db scope run ∧ db = db' := by
  unfold checkAdjustment AdjustmentReady
  cases hsource : run.adjustmentOfRunId with
  | none => simp
  | some sourceId =>
    simp only [commits_bind, commits_get, scopedRun_commits, commits_require, Option.mem_def, Option.some.injEq]
    constructor
    · rintro ⟨_, _, ⟨rfl, rfl⟩, source, _, ⟨⟨hfind, hscope⟩, rfl⟩, _, _, ⟨hstatus, rfl⟩, hdiff, rfl⟩
      refine ⟨?_, rfl⟩
      rintro _ rfl
      exact ⟨⟨source, hfind, hscope, hstatus⟩, hdiff⟩
    · rintro ⟨h, rfl⟩
      obtain ⟨⟨source, hfind, hscope, hstatus⟩, hdiff⟩ := h sourceId rfl
      exact ⟨db, db, ⟨rfl, rfl⟩, source, db, ⟨⟨hfind, hscope⟩, rfl⟩, (), db, ⟨hstatus, rfl⟩, hdiff, rfl⟩

/-- `approveRun` goes through for a run under review whose checks are met. -/
lemma exists_approveRun_iff {results : List PayrollResult} (hfind : db.runs.find? runId = some run)
    (hscope : run.companyId = scope.companyId ∧ run.branchId = some scope.branchId)
    (hresults : (db.results.findMany fun r =>
      r.payrollRunId = run.id && r.companyId = scope.companyId) = results) :
    (∃ approved db', Commits (approveRun scope runId) db approved db') ↔
      run.status = .review ∧ (results ≠ [] ∧ run.employeeCount = results.length) ∧
      (run.adjustmentOfRunId.isSome = true ∨
        results.length = (db.employees.findMany (isActiveIn scope)).length ∧
        run.employeeCount = (db.employees.findMany (isActiveIn scope)).length) ∧
      AdjustmentReady db scope run ∧ results.filter PayrollResult.needsReview = [] := by
  subst hresults
  simp only [approveRun, commits_bind, commits_get, scopedRun_commits, commits_require,
    commits_checkAdjustment, commits_update]
  constructor
  · rintro ⟨_, _, _, _, ⟨rfl, rfl⟩, run', _, ⟨⟨hfind', _⟩, rfl⟩, _, _, ⟨hstatus, rfl⟩, _, _,
      ⟨hcount, rfl⟩, _, _, ⟨hactive, rfl⟩, _, _, ⟨hadjustment, rfl⟩, _, _, ⟨hreview, rfl⟩, _⟩
    obtain rfl := mem_unique hfind hfind'
    exact ⟨hstatus, hcount, hactive, hadjustment, hreview⟩
  · rintro ⟨hstatus, hcount, hactive, hadjustment, hreview⟩
    exact ⟨_, _, db, db, ⟨rfl, rfl⟩, run, db, ⟨⟨hfind, hscope⟩, rfl⟩, (), db, ⟨hstatus, rfl⟩, (),
      db, ⟨hcount, rfl⟩, (), db, ⟨hactive, rfl⟩, (), db, ⟨hadjustment, rfl⟩, (), db,
      ⟨hreview, rfl⟩, run, hfind, rfl, rfl⟩

namespace Calculated

variable {run' : PayrollRun}

lemma adjustmentReady_iff (h : Calculated i db run' db') :
    AdjustmentReady db' i.scope run' ↔ run'.adjustmentOfRunId = none ∨ run'.hasDifference := by
  have hadjustment : run'.adjustmentOfRunId = i.run.adjustmentOfRunId := by rw [h.updated]
  unfold AdjustmentReady
  rw [hadjustment]
  cases hsome : i.run.adjustmentOfRunId with
  | none => simp
  | some sourceId =>
    obtain ⟨source, hfind, hscope, hregular, hstatus⟩ := h.source sourceId hsome
    have hne : sourceId ≠ i.run.id := by
      rintro rfl
      obtain rfl := mem_unique hfind h.found
      rw [hsome] at hregular
      cases hregular
    rw [← h.find?_of_ne hne] at hfind
    simp only [Option.mem_def, Option.some.injEq, reduceCtorEq, false_or]
    constructor
    · intro hready
      exact (hready sourceId rfl).2
    · rintro hdiff _ rfl
      exact ⟨⟨source, hfind, hscope, hregular, hstatus⟩, hdiff⟩

/-- Without review reasons, a run is approved after its calculation unless it is an adjustment
without any difference. -/
theorem approvable_iff (h : Calculated i db run' db') (hcovered : Covered db i.scope i.run) (hown : i.Owned db)
    (hreview : ∀ r ∈ resultsOf db' i.run.id, r.needsReview = false) :
    (∃ approved db'', Commits (approveRun i.scope i.run.id) db' approved db'') ↔
      run'.adjustmentOfRunId = none ∨ run'.hasDifference := by
  have hresults : (db'.results.findMany fun r =>
      r.payrollRunId = run'.id && r.companyId = i.scope.companyId) = resultsOf db' i.run.id := by
    rw [h.run'_id]
    refine filter_congr fun r hr => ?_
    by_cases hrun : r.payrollRunId = i.run.id
    · simp [hrun, h.owned hown r hr hrun]
    · simp [hrun]
  have hscope : run'.companyId = i.scope.companyId ∧ run'.branchId = some i.scope.branchId := by
    rw [h.updated]
    exact h.inScope
  have hstatus : run'.status = .review := by rw [h.updated]
  have hcount := h.count_eq hcovered
  have hlength : run'.employeeCount = i.employees.length := by rw [h.updated]
  have hne : resultsOf db' i.run.id ≠ [] := by
    intro hnil
    rw [hnil, List.length_nil, hlength, List.length_eq_zero_iff] at hcount
    exact h.nonempty hcount
  have hactive : run'.adjustmentOfRunId.isSome = true ∨
      run'.employeeCount = (db'.employees.findMany (isActiveIn i.scope)).length := by
    rw [hlength, h.sameEmployees, h.updated]
    cases hadjustment : i.run.adjustmentOfRunId with
    | some _ => exact .inl rfl
    | none =>
      right
      simp [h.employees, payrollEmployees, hadjustment, Table.length_findSorted]
  have hclean : (resultsOf db' i.run.id).filter PayrollResult.needsReview = [] :=
    filter_eq_nil_iff.mpr fun r hr => by simp [hreview r hr]
  rw [exists_approveRun_iff h.find?_run' hscope hresults, h.adjustmentReady_iff, ← hcount]
  simp only [hstatus, hclean, hne, ne_eq, not_false_eq_true, and_self, true_and, and_true,
    and_iff_right_iff_imp]
  exact fun _ => hactive

end Calculated

/-! ### Histories -/

inductive PayrollEvent
  | updateEmployee (id : ℕ) (isActive : Bool)
  | calculateRun (runId : ℕ) (calculation : ℕ → EmployeeCalculation)

def PayrollEvent.tx (scope : TenantScope) : PayrollEvent → PayrollTx Unit
  | updateEmployee id isActive => do let _ ← Payroll.updateEmployee scope id isActive
  | calculateRun runId calculation => do let _ ← Payroll.calculateRun scope runId calculation

def PayrollStep (scope : TenantScope) (db : PayrollDb) (e : PayrollEvent) (db' : PayrollDb) :
    Prop :=
  Commits (e.tx scope) db () db'

def OwnedResults (db : PayrollDb) : Prop :=
  ∀ r ∈ db.results, ∀ run, db.runs.find? r.payrollRunId = some run → r.companyId = run.companyId

/-- What holds of a run right after its calculation from `db`. -/
structure RecalculatedRight (db : PayrollDb) (scope : TenantScope) (run run' : PayrollRun)
    (db' : PayrollDb) : Prop where
  stored : db'.runs.find? run.id = some run'
  onePerEmployee : ((resultsOf db' run.id).map PayrollResult.employeeId).Perm
    ((db.payrollEmployees scope run).map Employee.id)
  count : run'.employeeCount = (resultsOf db' run.id).length
  totals : run'.toPayrollTotals =
    totalsOf ((resultsOf db' run.id).map PayrollResult.toPayAmounts)
  approvable : (∀ r ∈ resultsOf db' run.id, r.needsReview = false) →
    ((∃ approved db'', Commits (approveRun scope run.id) db' approved db'') ↔
      run'.adjustmentOfRunId = none ∨ run'.hasDifference)

def RightAfter (scope : TenantScope) (db : PayrollDb) (e : PayrollEvent) (db' : PayrollDb) :
    Prop :=
  ∀ runId calculation run, e = .calculateRun runId calculation →
    db.runs.find? runId = some run → Covered db scope run →
      ∃ run', RecalculatedRight db scope run run' db'

lemma Calculated.owned_of_results {run' : PayrollRun} (h : Calculated i db run' db')
    (hown : OwnedResults db) : i.Owned db := by
  intro r hr hrun
  rw [← h.inScope.1]
  exact hown r hr i.run (hrun ▸ h.found)

lemma Calculated.ownedResults {run' : PayrollRun} (h : Calculated i db run' db')
    (hown : OwnedResults db) : OwnedResults db' := by
  intro r hr run hrun
  by_cases hid : r.payrollRunId = i.run.id
  · rw [hid, h.find?_run'] at hrun
    obtain rfl := Option.some.inj hrun
    rw [h.owned (h.owned_of_results hown) r hr hid, h.updated]
    exact h.inScope.1.symm
  · have hother := h.others r.key fun e _ hkey => hid (congrArg Prod.fst hkey)
    rw [find?_of_mem hr] at hother
    rw [h.find?_of_ne hid] at hrun
    exact hown r (find?_eq_some.mp hother.symm).1 run hrun

lemma updateEmployee_commits {id : ℕ} {isActive : Bool} {e : Employee}
    (h : Commits (updateEmployee scope id isActive) db e db') :
    db'.results = db.results ∧ db'.runs = db.runs := by
  simp only [updateEmployee, commits_steps, commits_update] at h
  obtain ⟨_, _, _, _, _, _, rfl⟩ := h
  exact ⟨rfl, rfl⟩

lemma PayrollStep.ownedResults {e : PayrollEvent} (hown : OwnedResults db)
    (h : PayrollStep scope db e db') : OwnedResults db' := by
  cases e with
  | updateEmployee id isActive =>
    simp only [PayrollStep, PayrollEvent.tx, commits_steps] at h
    obtain ⟨_, _, hupdate, _, rfl⟩ := h
    obtain ⟨hresults, hruns⟩ := updateEmployee_commits hupdate
    rw [OwnedResults, hresults, hruns]
    exact hown
  | calculateRun runId calculation =>
    simp only [PayrollStep, PayrollEvent.tx, commits_steps] at h
    obtain ⟨_, _, hcalculate, _, rfl⟩ := h
    obtain ⟨i, _, _, hc⟩ := calculateRun_commits hcalculate
    exact hc.ownedResults hown

lemma PayrollStep.rightAfter {e : PayrollEvent} (hown : OwnedResults db)
    (h : PayrollStep scope db e db') : RightAfter scope db e db' := by
  rintro runId calculation run rfl hfind hcovered
  simp only [PayrollStep, PayrollEvent.tx, commits_steps] at h
  obtain ⟨run', _, hcalculate, _, rfl⟩ := h
  obtain ⟨i, rfl, rfl, hc⟩ := calculateRun_commits hcalculate
  obtain rfl : i.run = run := mem_unique hc.found hfind
  refine ⟨run', ?_⟩
  constructor
  case stored => exact hc.find?_run'
  case onePerEmployee => exact hc.employees ▸ hc.perm_iff_covered.mpr hcovered
  case count => exact hc.count_eq hcovered
  case totals => exact hc.totals_eq hcovered
  case approvable => exact hc.approvable_iff hcovered (hc.owned_of_results hown)

def salary (amount : ℚ) : EmployeeCalculation where
  components :=
    [⟨{ id := 1, code := "BASIC", name := "Gaji Pokok", componentType := .earning,
        calculationType := .fixed }, amount⟩]
  social := { trace := { status := .notApplicable } }
  tax :=
    { amount := 0, employerBorneTax := 0, grossAdjustment := 0, taxableAdjustment := 0,
      netAfterTax := amount, trace := { status := .calculated, segments := [.calculated] } }

def twoEmployees : PayrollDb where
  nextId := 100
  employees := (Table.empty.put
    { id := 1, companyId := 1, branchId := some 1, employeeNumber := "E1" }).put
    { id := 2, companyId := 1, branchId := some 1, employeeNumber := "E2" }
  periods := Table.empty.put { id := 1, companyId := 1, code := "2026-01" }
  taxRuleSets := Table.empty
  socialSecurityRuleSets := Table.empty
  runs := Table.empty.put { id := 10, companyId := 1, branchId := some 1, payrollPeriodId := 1 }
  results := Table.empty
  lines := []
  periodSummaries := Table.empty

def firstBranch : TenantScope := ⟨1, 1⟩

def deactivated : List PayrollEvent :=
  [.calculateRun 10 fun _ => salary 100, .updateEmployee 2 false,
    .calculateRun 10 fun _ => salary 100]

def postedWithAdjustment : PayrollDb :=
  let db := (execute (calculateRun firstBranch 10 fun _ => salary 100) twoEmployees).2
  { db with
    runs := (db.runs.updateMany (fun r => r.id = 10) fun r => { r with status := .posted }).1.put
      { id := 11, companyId := 1, branchId := some 1, payrollPeriodId := 1,
        adjustmentOfRunId := some 10, adjustmentSequence := 1 } }

lemma run_of_execute {db₀ : PayrollDb} {events : List PayrollEvent}
    (h : (execute (events.forM (PayrollEvent.tx scope)) db₀).1 = .ok ()) :
    Run (PayrollStep scope) db₀ events (execute (events.forM (PayrollEvent.tx scope)) db₀).2 :=
  commits_forM_iff_run.mp (commits_of_execute h)

def raised : List PayrollEvent :=
  [.calculateRun 10 fun _ => salary 100,
    .calculateRun 10 fun id => salary (if id = 2 then 120 else 100)]

end Mayatoko.Payroll
