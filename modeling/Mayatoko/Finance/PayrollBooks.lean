import Mathlib.Algebra.Group.Pi.Lemmas
import Mayatoko.Finance.PayrollPosting
import Mayatoko.Payroll.Recalculation

/-!
# The books of the payroll chains

A chain is a recognised regular run with its recognised adjustments. What is told of chains is told
from three tables: runs, results and payments. Most calls only move a run from one status to another,
which no chain notices; a chain changes when a run is posted.
-/

namespace Mayatoko.Finance

open Core Accounting Transit Procurement FinanceDb

structure PayrollBooks where
  runs : Table Payroll.PayrollRun.id
  results : Table Payroll.PayrollResult.key
  payments : Table PayrollPayment.payrollResultId

def FinanceDb.payrollBooks (db : FinanceDb) : PayrollBooks :=
  ⟨db.payroll.runs, db.payroll.results, db.payrollPayments⟩

def PayrollPayment.signed (p : PayrollPayment) : ℚ :=
  match p.direction with
  | .outbound => if p.status = .cancelled then 0 else p.amount
  | .recovery => -p.amount

/-- What the payments of the runs that meet `c` come to for each employee. -/
def paidOut (c : ℕ → Bool) (payments : Table PayrollPayment.payrollResultId) : ℕ → ℚ :=
  payments.sum fun p => if c p.payrollRunId then Pi.single p.employeeId p.signed else 0

/-- The net pay of the runs that meet `c` for each employee. -/
def netPayOf (c : ℕ → Bool) (results : Table Payroll.PayrollResult.key) : ℕ → ℚ :=
  ((results.findMany fun x => c x.payrollRunId).map fun x => Pi.single x.employeeId x.netPay).sum

namespace PayrollBooks

variable (b : PayrollBooks)

def inChain (rootId runId : ℕ) : Bool :=
  (b.runs.find? runId).any fun r =>
    r.status.recognized && (r.id = rootId || r.adjustmentOfRunId = some rootId)

def adjustmentsOf (sourceId : ℕ) : List Payroll.PayrollRun :=
  b.runs.findMany fun r => r.adjustmentOfRunId = some sourceId

def resultsOf (runId : ℕ) : List Payroll.PayrollResult :=
  b.results.findMany fun x => x.payrollRunId = runId

structure Booked : Prop where
  results : ∀ x ∈ b.results, ∃ run, b.runs.find? x.payrollRunId = some run ∧
    x.companyId = run.companyId ∧ (run.adjustmentOfRunId = none → 0 ≤ x.netPay)
  payments : ∀ p ∈ b.payments, ∃ run, b.runs.find? p.payrollRunId = some run ∧
    run.status.recognized = true
  sources : ∀ r ∈ b.runs, ∀ k, r.adjustmentOfRunId = some k → ∃ s, b.runs.find? k = some s ∧
    (s.companyId = r.companyId ∧ s.branchId = r.branchId) ∧ s.adjustmentOfRunId = none ∧
      s.status.recognized = true
  sequence : ∀ r ∈ b.runs, ∀ k, r.adjustmentOfRunId = some k →
    r.adjustmentSequence ≤ (b.adjustmentsOf k).length
  /-- An open adjustment is the last one of its source. -/
  last : ∀ r ∈ b.runs, ∀ x ∈ b.runs, ∀ k, r.adjustmentOfRunId = some k →
    x.adjustmentOfRunId = some k → adjustmentOpen r.status = true → x.id ≠ r.id →
      x.adjustmentSequence < r.adjustmentSequence
  totals : ∀ r ∈ b.runs, r.employeeCount = (b.resultsOf r.id).length →
    r.toPayrollTotals = Payroll.totalsOf ((b.resultsOf r.id).map fun x => x.toPayAmounts)

end PayrollBooks

variable {b b' : PayrollBooks} {rootId runId k : ℕ} {run : Payroll.PayrollRun}
  {c c' : ℕ → Bool}

lemma paidOut_congr {payments : Table PayrollPayment.payrollResultId}
    (h : ∀ p ∈ payments, c p.payrollRunId = c' p.payrollRunId) :
    paidOut c payments = paidOut c' payments :=
  Table.sum_congr fun p hp => by rw [h p hp]

lemma netPayOf_insert {results : Table Payroll.PayrollResult.key} (hc : c runId = false)
    (hc' : ∀ k, c' k = (decide (k = runId) || c k)) :
    netPayOf c' results = netPayOf c results +
      ((results.findMany fun x => x.payrollRunId = runId).map
        fun x => Pi.single x.employeeId x.netPay).sum := by
  simp only [netPayOf, Table.sum_findMany]
  unfold Table.sum
  rw [← List.sum_map_add]
  congr 1
  refine map_congr_left fun x _ => ?_
  rw [hc']
  by_cases hx : x.payrollRunId = runId
  · simp [hx, hc]
  · simp [hx]

lemma netPayOf_perm {results results' : Table Payroll.PayrollResult.key}
    (h : (results'.findMany fun x => c x.payrollRunId).Perm
      (results.findMany fun x => c x.payrollRunId)) : netPayOf c results' = netPayOf c results :=
  (h.map _).sum_eq

/-! ### Moves from one status to another -/

inductive StatusMove : Payroll.PayrollRunStatus → Payroll.PayrollRunStatus → Prop
  | same (s : Payroll.PayrollRunStatus) : StatusMove s s
  | approved : StatusMove .review .approved
  | cancelled {s : Payroll.PayrollRunStatus} : s ∈ [.draft, .review, .approved] →
      StatusMove s .cancelled
  | paid {s : Payroll.PayrollRunStatus} : s.recognized = true → StatusMove s .paid

namespace StatusMove

variable {s s' : Payroll.PayrollRunStatus}

lemma recognized (h : StatusMove s s') : s'.recognized = s.recognized := by
  cases h with
  | same => rfl
  | approved => rfl
  | cancelled h =>
    simp only [mem_cons, not_mem_nil, or_false] at h
    rcases h with rfl | rfl | rfl <;> rfl
  | paid h => rw [h]; rfl

lemma adjustmentOpen (h : StatusMove s s') (hopen : adjustmentOpen s' = true) :
    Finance.adjustmentOpen s = true := by
  cases h with
  | same => exact hopen
  | approved => rfl
  | cancelled => cases hopen
  | paid => cases hopen

end StatusMove

/-- A move after which a run is still recognised if it was, and no closed adjustment is open. -/
def Advance (s s' : Payroll.PayrollRunStatus) : Prop :=
  (s.recognized = true → s'.recognized = true) ∧ (adjustmentOpen s' = true → adjustmentOpen s = true)

lemma StatusMove.advance {s s' : Payroll.PayrollRunStatus} (h : StatusMove s s') : Advance s s' :=
  ⟨fun hs => h.recognized.trans hs, h.adjustmentOpen⟩

def RunsMoved (R : Payroll.PayrollRunStatus → Payroll.PayrollRunStatus → Prop)
    (t t' : Table Payroll.PayrollRun.id) : Prop :=
  ∃ f : Payroll.PayrollRun → Payroll.PayrollRunStatus,
    t'.rows = t.rows.map (fun r => { r with status := f r }) ∧ ∀ r ∈ t, R r.status (f r)

namespace RunsMoved

variable {t t' t'' : Table Payroll.PayrollRun.id}
  {R Q : Payroll.PayrollRunStatus → Payroll.PayrollRunStatus → Prop}

lemma refl (hR : ∀ s, R s s) (t : Table Payroll.PayrollRun.id) : RunsMoved R t t :=
  ⟨fun r => r.status, by simp, fun r _ => hR r.status⟩

lemma mono (hRQ : ∀ s s', R s s' → Q s s') (h : RunsMoved R t t') : RunsMoved Q t t' := by
  obtain ⟨f, hrows, hmove⟩ := h
  exact ⟨f, hrows, fun r hr => hRQ _ _ (hmove r hr)⟩

lemma trans (hR : ∀ s s' s'', R s s' → R s' s'' → R s s'') (h : RunsMoved R t t')
    (h' : RunsMoved R t' t'') : RunsMoved R t t'' := by
  obtain ⟨f, hrows, hmove⟩ := h
  obtain ⟨g, hrows', hmove'⟩ := h'
  refine ⟨fun r => g { r with status := f r }, ?_, fun r hr => ?_⟩
  · rw [hrows', hrows, map_map]
    rfl
  · refine hR _ _ _ (hmove r hr) (hmove' { r with status := f r } ?_)
    rw [mem_rows, hrows]
    exact mem_map_of_mem hr

lemma put {status : Payroll.PayrollRunStatus} (hR : ∀ s, R s s) (hrun : run ∈ t)
    (h : R run.status status) : RunsMoved R t (t.put { run with status }) := by
  have hmem : ({ run with status } : Payroll.PayrollRun).id ∈ t.rows.map Payroll.PayrollRun.id :=
    mem_map.mpr ⟨run, hrun, rfl⟩
  refine ⟨fun r => if r.id = run.id then status else r.status, ?_, fun r hr => ?_⟩
  · rw [Table.rows_put_of_mem hmem]
    refine map_congr_left fun r hr => ?_
    dsimp only
    split
    next hid => rw [eq_of_key_eq hr hrun hid]
    next => rfl
  · dsimp only
    split
    next hid =>
      obtain rfl := eq_of_key_eq hr hrun hid
      exact h
    next => exact hR _

lemma mem (h : RunsMoved R t t') {r' : Payroll.PayrollRun} (hr : r' ∈ t') :
    ∃ r ∈ t, ∃ status, r' = { r with status } ∧ R r.status status := by
  obtain ⟨f, hrows, hmove⟩ := h
  rw [mem_rows, hrows] at hr
  obtain ⟨r, hmem, rfl⟩ := mem_map.mp hr
  exact ⟨r, hmem, f r, rfl, hmove r hmem⟩

lemma find? (h : RunsMoved R t t') (hfind : t.find? k = some run) :
    ∃ status, t'.find? k = some { run with status } ∧ R run.status status := by
  obtain ⟨f, hrows, hmove⟩ := h
  obtain ⟨hrun, hid⟩ := find?_eq_some.mp hfind
  refine ⟨f run, find?_eq_some.mpr ⟨?_, hid⟩, hmove run hrun⟩
  rw [mem_rows, hrows]
  exact mem_map_of_mem hrun

lemma find?_none (h : RunsMoved R t t') (hfind : t.find? k = none) : t'.find? k = none := by
  rw [find?_eq_none] at hfind ⊢
  intro r' hr'
  obtain ⟨r, hr, _, rfl, _⟩ := h.mem hr'
  exact hfind r hr

lemma any_find? (h : RunsMoved R t t') {p : Payroll.PayrollRun → Bool}
    (hp : ∀ r ∈ t, ∀ status, R r.status status → p { r with status } = p r) :
    (t'.find? k).any p = (t.find? k).any p := by
  cases hfind : t.find? k with
  | none => rw [h.find?_none hfind]
  | some r =>
    obtain ⟨status, hfind', hmove⟩ := h.find? hfind
    rw [hfind', Option.any_some, Option.any_some, hp r (find?_eq_some.mp hfind).1 status hmove]

lemma sum {M : Type*} [AddCommMonoid M] (h : RunsMoved R t t') {g : Payroll.PayrollRun → M}
    (hg : ∀ r ∈ t, ∀ status, R r.status status → g { r with status } = g r) :
    t'.sum g = t.sum g := by
  obtain ⟨f, hrows, hmove⟩ := h
  unfold Table.sum
  rw [hrows, map_map]
  exact congrArg List.sum (map_congr_left fun r hr => hg r hr (f r) (hmove r hr))

lemma length_findMany (h : RunsMoved R t t') {p : Payroll.PayrollRun → Bool}
    (hp : ∀ r status, p { r with status } = p r) :
    (t'.findMany p).length = (t.findMany p).length := by
  obtain ⟨f, hrows, _⟩ := h
  rw [Table.findMany, hrows, List.filter_map, length_map, Table.findMany]
  exact congrArg List.length (filter_congr fun r _ => hp r (f r))

end RunsMoved

lemma inChain_moved (h : RunsMoved StatusMove b.runs b'.runs) : b'.inChain rootId = b.inChain rootId := by
  funext k
  refine h.any_find? fun r _ status hmove => ?_
  rw [hmove.recognized]

namespace PayrollBooks.Booked

/-- The payments are those of recognised runs after every advance of the runs. -/
lemma advanced (hb : b.Booked) (h : RunsMoved Advance b.runs b'.runs) (hresults : b'.results = b.results)
    (hpayments : ∀ p ∈ b'.payments, (∃ q ∈ b.payments, q.payrollRunId = p.payrollRunId) ∨
      ∃ r, b'.runs.find? p.payrollRunId = some r ∧ r.status.recognized = true) : b'.Booked := by
  have hadjustments (k : ℕ) : (b'.adjustmentsOf k).length = (b.adjustmentsOf k).length :=
    h.length_findMany fun _ _ => rfl
  constructor
  case results =>
    intro x hx
    rw [hresults] at hx
    obtain ⟨run, hfind, hcompany, hnonneg⟩ := hb.results x hx
    obtain ⟨status, hfind', _⟩ := h.find? hfind
    exact ⟨_, hfind', hcompany, hnonneg⟩
  case payments =>
    intro p hp
    rcases hpayments p hp with ⟨q, hq, hid⟩ | hnew
    · obtain ⟨run, hfind, hrecognized⟩ := hb.payments q hq
      obtain ⟨status, hfind', hmove⟩ := h.find? hfind
      exact ⟨_, hid ▸ hfind', hmove.1 hrecognized⟩
    · exact hnew
  case sources =>
    intro r' hr' k hk
    obtain ⟨r, hr, _, rfl, _⟩ := h.mem hr'
    obtain ⟨s, hfind, htenant, hregular, hrecognized⟩ := hb.sources r hr k hk
    obtain ⟨status, hfind', hmove⟩ := h.find? hfind
    exact ⟨_, hfind', htenant, hregular, hmove.1 hrecognized⟩
  case sequence =>
    intro r' hr' k hk
    obtain ⟨r, hr, _, rfl, _⟩ := h.mem hr'
    rw [hadjustments]
    exact hb.sequence r hr k hk
  case last =>
    intro r' hr' x' hx' k hk hk' hopen hne
    obtain ⟨r, hr, _, rfl, hmove⟩ := h.mem hr'
    obtain ⟨x, hx, _, rfl, _⟩ := h.mem hx'
    exact hb.last r hr x hx k hk hk' (hmove.2 hopen) hne
  case totals =>
    intro r' hr'
    obtain ⟨r, hr, _, rfl, _⟩ := h.mem hr'
    rw [PayrollBooks.resultsOf, hresults]
    exact hb.totals r hr

lemma moved (hb : b.Booked) (h : RunsMoved StatusMove b.runs b'.runs) (hresults : b'.results = b.results)
    (hpayments : ∀ p ∈ b'.payments, ∃ q ∈ b.payments, q.payrollRunId = p.payrollRunId) :
    b'.Booked :=
  hb.advanced (h.mono fun _ _ hs => hs.advance) hresults fun p hp => .inl (hpayments p hp)

lemma posted {status : Payroll.PayrollRunStatus}
    {payments : Table PayrollPayment.payrollResultId} (hb : b.Booked) (hrun : run ∈ b.runs)
    (happroved : run.status = .approved) (hstatus : status.recognized = true)
    (hpayments : ∀ p ∈ payments, (∃ q ∈ b.payments, q.payrollRunId = p.payrollRunId) ∨
      p.payrollRunId = run.id) :
    PayrollBooks.Booked ⟨b.runs.put { run with status }, b.results, payments⟩ := by
  have hself : (b.runs.put { run with status }).find? run.id = some { run with status } :=
    find?_put_self b.runs { run with status }
  have hadvance : Advance run.status status :=
    ⟨fun _ => hstatus, fun _ => by rw [happroved]; rfl⟩
  refine hb.advanced (RunsMoved.put (fun _ => ⟨id, id⟩) hrun hadvance) rfl fun p hp => ?_
  rcases hpayments p hp with hold | hid
  · exact .inl hold
  · rw [hid]
    exact .inr ⟨_, hself, hstatus⟩

/-- A new run that is not recognised, an adjustment only with all others of its source closed. -/
lemma created (hb : b.Booked) (hfresh : b.runs.find? run.id = none)
    (hsource : ∀ k, run.adjustmentOfRunId = some k → ∃ s, b.runs.find? k = some s ∧
      (s.companyId = run.companyId ∧ s.branchId = run.branchId) ∧ s.adjustmentOfRunId = none ∧
        s.status.recognized = true)
    (hclosed : ∀ x ∈ b.runs, ∀ k, run.adjustmentOfRunId = some k → x.adjustmentOfRunId = some k →
      adjustmentOpen x.status = false)
    (hsequence : ∀ k, run.adjustmentOfRunId = some k →
      run.adjustmentSequence = (b.adjustmentsOf k).length + 1)
    (htotals : run.employeeCount = 0 ∧ run.toPayrollTotals = {}) :
    PayrollBooks.Booked { b with runs := b.runs.put run } := by
  have hother {k : ℕ} {x : Payroll.PayrollRun} (hfind : b.runs.find? k = some x) :
      (b.runs.put run).find? k = some x := by
    rwa [find?_put_of_ne]
    rintro rfl
    rw [hfresh] at hfind
    cases hfind
  have hrows : (b.runs.put run).rows = b.runs.rows ++ [run] := by
    refine Table.rows_put_of_not_mem fun hmem => ?_
    obtain ⟨x, hx, hid⟩ := mem_map.mp hmem
    exact find?_eq_none.mp hfresh x hx hid
  have hlength (k : ℕ) : (PayrollBooks.adjustmentsOf { b with runs := b.runs.put run } k).length =
      (b.adjustmentsOf k).length + if run.adjustmentOfRunId = some k then 1 else 0 := by
    rw [PayrollBooks.adjustmentsOf, Table.findMany, hrows, filter_append, List.length_append]
    congr 1
    by_cases hk : run.adjustmentOfRunId = some k <;> simp [hk]
  constructor
  case results =>
    intro x hx
    obtain ⟨r, hfind, h⟩ := hb.results x hx
    exact ⟨r, hother hfind, h⟩
  case payments =>
    intro p hp
    obtain ⟨r, hfind, h⟩ := hb.payments p hp
    exact ⟨r, hother hfind, h⟩
  case sources =>
    intro r hr k hk
    rcases mem_put.mp hr with rfl | ⟨hr, _⟩
    · obtain ⟨s, hfind, h⟩ := hsource k hk
      exact ⟨s, hother hfind, h⟩
    · obtain ⟨s, hfind, h⟩ := hb.sources r hr k hk
      exact ⟨s, hother hfind, h⟩
  case sequence =>
    intro r hr k hk
    rw [hlength]
    rcases mem_put.mp hr with rfl | ⟨hr, _⟩
    · rw [hsequence k hk, if_pos hk]
    · exact (hb.sequence r hr k hk).trans (Nat.le_add_right _ _)
  case last =>
    intro r hr x hx k hk hk' hopen hne
    rcases mem_put.mp hr with rfl | ⟨hr, _⟩
    · rcases mem_put.mp hx with rfl | ⟨hx, _⟩
      · exact absurd rfl hne
      · rw [hsequence k hk]
        exact Nat.lt_succ_of_le (hb.sequence x hx k hk')
    · rcases mem_put.mp hx with rfl | ⟨hx, _⟩
      · rw [hclosed r ‹_› k hk' hk] at hopen
        cases hopen
      · exact hb.last r hr x hx k hk hk' hopen hne
  case totals =>
    intro r hr hcount
    rcases mem_put.mp hr with rfl | ⟨hr, _⟩
    · have hnone : b.resultsOf r.id = [] := by
        rw [← List.length_eq_zero_iff, ← htotals.1]
        exact hcount.symm
      change r.toPayrollTotals = Payroll.totalsOf ((b.resultsOf r.id).map fun x => x.toPayAmounts)
      rw [hnone, htotals.2]
      rfl
    · exact hb.totals r hr hcount

end PayrollBooks.Booked

section Calculation

variable {i : Payroll.RunInputs} {db db' : Payroll.PayrollDb} {run' : Payroll.PayrollRun}

lemma perm_findMany_of_calculated (h : Payroll.Calculated i db run' db') (hc : c i.run.id = false) :
    (db'.results.findMany fun x => c x.payrollRunId).Perm
      (db.results.findMany fun x => c x.payrollRunId) := by
  have hnodup (t : Table Payroll.PayrollResult.key) :
      (t.findMany fun x => c x.payrollRunId).Nodup := (Table.nodup_findMany t _).of_map
  rw [List.perm_ext_iff_of_nodup (hnodup _) (hnodup _)]
  intro x
  rw [mem_findMany, mem_findMany]
  refine and_congr_left fun hx => ?_
  have hother : db'.results.find? x.key = db.results.find? x.key := by
    refine h.others x.key fun e _ hkey => ?_
    have hrun : x.payrollRunId = i.run.id := congrArg Prod.fst hkey
    rw [hrun, hc] at hx
    cases hx
  constructor
  · intro hmem
    rw [find?_of_mem hmem] at hother
    exact (find?_eq_some.mp hother.symm).1
  · intro hmem
    rw [find?_of_mem hmem] at hother
    exact (find?_eq_some.mp hother).1

lemma nonneg_of_calculated (h : Payroll.Calculated i db run' db') (hregular : i.run.adjustmentOfRunId = none)
    (hold : ∀ x ∈ db.results, x.payrollRunId = i.run.id → 0 ≤ x.netPay)
    {x : Payroll.PayrollResult} (hx : x ∈ db'.results) (hrun : x.payrollRunId = i.run.id) :
    0 ≤ x.netPay := by
  by_cases hwritten : ∃ e ∈ i.employees, x.key = (i.run.id, e.id)
  · obtain ⟨e, he, hkey⟩ := hwritten
    obtain ⟨r, hr, hfind⟩ := h.written e he
    rw [← hkey, find?_of_mem hx] at hfind
    obtain rfl := Option.some.inj hfind
    have hamounts := hr.amounts
    rw [Payroll.RunInputs.resultAmounts, hregular] at hamounts
    rw [hamounts]
    exact h.nonneg e he
  · have hother := h.others x.key fun e he hkey => hwritten ⟨e, he, hkey⟩
    rw [find?_of_mem hx] at hother
    exact hold x (find?_eq_some.mp hother.symm).1 hrun

namespace PayrollBooks.Booked

lemma calculated (hb : b.Booked) (h : Payroll.Calculated i db run' db') (hruns : db.runs = b.runs)
    (hresults : db.results = b.results) (hopen : i.run.status = .draft ∨ i.run.status = .review) :
    PayrollBooks.Booked ⟨db'.runs, db'.results, b.payments⟩ := by
  have hunrecognized : i.run.status.recognized = false := by
    rcases hopen with hs | hs <;> rw [hs] <;> rfl
  have hfound : b.runs.find? i.run.id = some i.run := hruns ▸ h.found
  have hself := h.find?_run'
  have hsource : run'.adjustmentOfRunId = i.run.adjustmentOfRunId := by rw [h.updated]
  -- A recognised run is another one.
  have hrecognized {k : ℕ} {x : Payroll.PayrollRun} (hfind : b.runs.find? k = some x)
      (hx : x.status.recognized = true) : db'.runs.find? k = some x := by
    rw [h.find?_of_ne, hruns, hfind]
    rintro rfl
    obtain rfl := mem_unique hfound hfind
    rw [hunrecognized] at hx
    cases hx
  have hmem {r' : Payroll.PayrollRun} (hr' : r' ∈ db'.runs) : r' = run' ∨ r' ∈ b.runs ∧ r'.id ≠ i.run.id := by
    by_cases hid : r'.id = i.run.id
    · rw [← hid] at hself
      exact .inl (mem_unique (find?_of_mem hr') hself)
    · have hfind := find?_of_mem hr'
      rw [h.find?_of_ne hid, hruns] at hfind
      exact .inr ⟨(find?_eq_some.mp hfind).1, hid⟩
  have hputs : db'.runs = b.runs.put run' := by
    rw [h.runs, hruns]
    exact Table.put_put _ h.run'_id.symm
  have hrun : i.run ∈ b.runs := (find?_eq_some.mp hfound).1
  have hlength (k : ℕ) : (PayrollBooks.adjustmentsOf ⟨db'.runs, db'.results, b.payments⟩ k).length =
      (b.adjustmentsOf k).length := by
    have hmap := Table.map_findMany_put (t := b.runs) (o := i.run) (r := run') (f := fun _ => ())
      (p := fun r => decide (r.adjustmentOfRunId = some k)) hrun h.run'_id.symm
      (by rw [hsource]) rfl
    rw [PayrollBooks.adjustmentsOf, PayrollBooks.adjustmentsOf, hputs]
    simpa using congrArg List.length hmap
  constructor
  case results =>
    intro x hx
    by_cases hid : x.payrollRunId = i.run.id
    · have hown : i.Owned db := by
        intro y hy hy'
        rw [hresults] at hy
        obtain ⟨r, hfind, hcompany, _⟩ := hb.results y hy
        rw [hy', hfound] at hfind
        obtain rfl := Option.some.inj hfind
        exact hcompany.trans h.inScope.1
      refine ⟨run', hid ▸ hself, ?_, fun hregular => ?_⟩
      · rw [h.owned hown x hx hid, h.updated]
        exact h.inScope.1.symm
      · rw [hsource] at hregular
        refine nonneg_of_calculated h hregular (fun y hy hy' => ?_) hx hid
        rw [hresults] at hy
        obtain ⟨r, hfind, _, hnonneg⟩ := hb.results y hy
        rw [hy', hfound] at hfind
        obtain rfl := Option.some.inj hfind
        exact hnonneg hregular
    · have hother := h.others x.key fun e _ hkey => hid (congrArg Prod.fst hkey)
      rw [find?_of_mem hx, hresults] at hother
      obtain ⟨r, hfind, hr⟩ := hb.results x (find?_eq_some.mp hother.symm).1
      refine ⟨r, ?_, hr⟩
      dsimp only
      rw [h.find?_of_ne hid, hruns, hfind]
  case payments =>
    intro p hp
    obtain ⟨r, hfind, hr⟩ := hb.payments p hp
    exact ⟨r, hrecognized hfind hr, hr⟩
  case sources =>
    intro r hr k hk
    rcases hmem hr with rfl | ⟨hr, _⟩
    · obtain ⟨s, hfind, htenant, hregular, hs⟩ := hb.sources i.run hrun k (hsource ▸ hk)
      refine ⟨s, hrecognized hfind hs, ?_, hregular, hs⟩
      rw [h.updated]
      exact htenant
    · obtain ⟨s, hfind, htenant, hregular, hs⟩ := hb.sources r hr k hk
      exact ⟨s, hrecognized hfind hs, htenant, hregular, hs⟩
  case sequence =>
    intro r hr k hk
    rw [hlength]
    rcases hmem hr with rfl | ⟨hr, _⟩
    · have hle := hb.sequence i.run hrun k (hsource ▸ hk)
      rw [h.updated]
      exact hle
    · exact hb.sequence r hr k hk
  case last =>
    have hopen' : adjustmentOpen i.run.status = true := by
      rcases hopen with hs | hs <;> rw [hs] <;> rfl
    have hsequence : run'.adjustmentSequence = i.run.adjustmentSequence := by rw [h.updated]
    intro r hr x hx k hk hk' hropen hne
    rcases hmem hr with rfl | ⟨hr', hrid⟩
    · rcases hmem hx with rfl | ⟨hx', hxid⟩
      · exact absurd rfl hne
      · rw [hsequence]
        exact hb.last i.run hrun x hx' k (hsource ▸ hk) hk' hopen' hxid
    · rcases hmem hx with rfl | ⟨hx', _⟩
      · rw [hsequence]
        exact hb.last r hr' i.run hrun k hk (hsource ▸ hk') hropen (Ne.symm hrid)
      · exact hb.last r hr' x hx' k hk hk' hropen hne
  case totals =>
    intro r hr hcount
    rcases hmem hr with rfl | ⟨hr, hid⟩
    · rw [h.run'_id] at hcount ⊢
      exact h.totals_eq (h.covered_of_count hcount)
    · have hperm := perm_findMany_of_calculated (c := fun k => decide (k = r.id)) h
        (decide_eq_false (Ne.symm hid))
      rw [hresults] at hperm
      have hold := hb.totals r hr (hcount.trans hperm.length_eq)
      exact hold.trans (Payroll.totalsOf_perm (hperm.map _)).symm

end PayrollBooks.Booked

end Calculation

end Mayatoko.Finance
