import Mayatoko.Finance.PayrollChains

/-!
# The liabilities of a payroll chain

A chain owes the withheld tax on 2103 and what else is withheld, with the employer's share, on 2104.
Liability payments are compared with what is left when they are posted, and an adjustment downwards
with what is neither settled nor reserved. A tax payment that refers to a run of the chain counts as
a settlement in both comparisons, but is itself compared with nothing.
-/

namespace Mayatoko.Finance

open Core Accounting Transit Procurement FinanceDb

def liabilityAccounts : List String := ["2103", "2104"]

/-- What the runs that meet `c` have added to an account. -/
def liabilityOf (code : String) (c : ℕ → Bool) (runs : Table Payroll.PayrollRun.id) : ℚ :=
  runs.sum fun r => if c r.id then recognizedBy code r else 0

/-- The transaction of the tenant settles a liability of one of the runs that meet `c`. -/
def settlesRuns (scope : TenantScope) (code : String) (c : ℕ → Bool) (t : FinanceTransaction) : Bool :=
  t.companyId = scope.companyId && t.branchId = scope.branchId &&
    t.referenceType = some "PayrollRun" && t.referenceId.any c && t.debitAccountCode = code &&
    (t.type = .payrollLiabilityPayment || t.type = .taxPayment)

namespace FinanceDb

variable (db : FinanceDb)

/-- What has been settled for the runs that meet `c`. -/
def settledLiability (scope : TenantScope) (code : String) (c : ℕ → Bool) : ℚ :=
  db.settledSum (settlesRuns scope code c)

def settledFor (scope : TenantScope) (code : String) (runId : ℕ) : ℚ :=
  db.settledLiability scope code fun k => k = runId

def settledOfChain (scope : TenantScope) (code : String) (rootId : ℕ) : ℚ :=
  db.settledLiability scope code (db.payrollBooks.inChain rootId)

def recognizedOfChain (code : String) (rootId : ℕ) : ℚ :=
  liabilityOf code (db.payrollBooks.inChain rootId) db.payroll.runs

structure IsRoot (scope : TenantScope) (root : Payroll.PayrollRun) : Prop where
  found : root ∈ db.payroll.runs
  regular : root.adjustmentOfRunId = none
  recognized : root.status.recognized = true
  company : root.companyId = scope.companyId
  branch : root.branchId = some scope.branchId

def LiabilityRight : Prop :=
  ∀ scope root, db.IsRoot scope root → ∀ code ∈ liabilityAccounts,
    db.settledOfChain scope code root.id ≤ db.recognizedOfChain code root.id

/-- A tax payment on 2103 that refers to a run of a chain fits into what is left of the chain. -/
def TaxFits (scope : TenantScope) (id : ℕ) : Prop :=
  ∀ t, db.transactions.find? id = some t → t.type = .taxPayment → ∀ root, db.IsRoot scope root →
    settlesRuns scope "2103" (db.payrollBooks.inChain root.id) t = true →
      db.settledOfChain scope "2103" root.id + t.grossAmount ≤ db.recognizedOfChain "2103" root.id

def PostingFits (scope : TenantScope) (runId : ℕ) : Prop :=
  ∀ run, db.payroll.runs.find? runId = some run → run.status.recognized = false →
    ∀ code ∈ liabilityAccounts,
      match run.adjustmentOfRunId with
      | none => db.settledFor scope code run.id ≤ recognizedBy code run
      | some rootId => db.settledFor scope code run.id = 0 ∨
          db.settledOfChain scope code rootId + db.settledFor scope code run.id ≤
            db.recognizedOfChain code rootId + recognizedBy code run

def ChainFits : ChainEvent → Prop
  | .payroll (.postAccounting scope runId) => db.PostingFits scope runId
  | .finance (.post scope id) => db.TaxFits scope id
  | _ => True

structure SettlementsBooked : Prop where
  positive : ∀ t ∈ db.transactions, t.type = .payrollLiabilityPayment ∨ t.type = .taxPayment →
    0 < t.grossAmount
  taxCodes : ∀ t ∈ db.transactions, t.type = .taxPayment →
    t.debitAccountCode ∈ CreateFinanceTransaction.taxPayableCodes

end FinanceDb

variable {db db' : FinanceDb} {scope : TenantScope} {id k rootId : ℕ} {t : FinanceTransaction}
  {run root : Payroll.PayrollRun} {ids : List ℕ} {c c' : ℕ → Bool} {code : String}
  {runs runs' : Table Payroll.PayrollRun.id} {dto : CreateFinanceTransaction} {tax : TaxedAmount}
  {posts : Option ℕ} {e : ChainEvent}

/-! ### New settlements -/

lemma Created.settlement (h : Created scope dto db tax t db')
    (htype : t.type = .payrollLiabilityPayment ∨ t.type = .taxPayment) :
    0 < t.grossAmount ∧
      (t.type = .taxPayment → t.debitAccountCode ∈ CreateFinanceTransaction.taxPayableCodes) := by
  obtain ⟨_, _, rfl⟩ := h.row
  have hchecked := h.checked
  dsimp only [CreateFinanceTransaction.row] at htype ⊢
  rcases htype with htype | htype
  · simp only [CreateFinanceTransaction.checkNew, htype,
      CreateFinanceTransaction.checkPayrollLiabilityPayment, CreateFinanceTransaction.requireAvailable,
      commits_bind, commits_orThrow, commits_require] at hchecked
    obtain ⟨_, _, _, _, _, _, _, _, _, _, _, _, _, _, _, _, _, _, _, _, ⟨hpos, _⟩, _⟩ := hchecked
    refine ⟨hpos, fun htax => ?_⟩
    rw [htype] at htax
    cases htax
  · simp only [CreateFinanceTransaction.checkNew, htype, CreateFinanceTransaction.checkTaxPayment,
      commits_bind, commits_get, commits_require] at hchecked
    obtain ⟨_, _, _, _, _, _, _, _, ⟨⟨_, hcode⟩, _⟩, _, _, _, hpos, _⟩ := hchecked
    exact ⟨hpos, fun _ => hcode⟩

lemma FinanceDb.SettlementsBooked.wrote (hb : db.SettlementsBooked) (h : Wrote scope posts db db') :
    db'.SettlementsBooked where
  positive := h.forall_rows (fun _ _ _ h => h) (fun _ _ _ hc htype => (hc.settlement htype).1)
    hb.positive
  taxCodes := h.forall_rows (fun _ _ _ h => h)
    (fun _ _ _ hc htype => (hc.settlement (Or.inr htype)).2 htype) hb.taxCodes

lemma FinanceDb.SettlementsBooked.congr (hb : db.SettlementsBooked)
    (h : db'.transactions = db.transactions) : db'.SettlementsBooked := by
  obtain ⟨hpositive, hcodes⟩ := hb
  constructor
  · rwa [h]
  · rwa [h]

lemma PayrollWrote.transactions (h : PayrollWrote db db') : db'.transactions = db.transactions := by
  cases h with
  | prepared h =>
    cases h with
    | moved h => exact h
    | created h => exact h
    | calculated => rfl
  | regular _ h => exact h.transactions
  | adjustment h => exact h.transactions

lemma ChainStep.settlementsBooked (hb : db.payrollBooks.Booked) (hs : db.SettlementsBooked)
    (h : ChainStep db e db') : db'.SettlementsBooked := by
  cases h with
  | payroll hc => exact hs.congr (PayrollCall.wrote hb hc).transactions
  | finance hc => exact hs.wrote (FinanceCall.wrote hc)
  | elsewhere _ htransactions => exact hs.congr htransactions

/-! ### Sums over chains -/

lemma liabilityOf_insert (hrun : run ∈ runs) (hc : c run.id = false)
    (hc' : ∀ k, c' k = (decide (k = run.id) || c k)) :
    liabilityOf code c' runs = liabilityOf code c runs + recognizedBy code run := by
  have hsingle := Table.sumBy_key (k := run.id) hrun rfl (recognizedBy code)
  rw [← hsingle]
  unfold liabilityOf Table.sumBy Table.sum
  rw [← List.sum_map_add]
  refine congrArg List.sum (map_congr_left fun r _ => ?_)
  rw [hc']
  by_cases hid : r.id = run.id
  · simp [hid, hc]
  · simp [hid]

lemma liabilityOf_moved {R : Payroll.PayrollRunStatus → Payroll.PayrollRunStatus → Prop}
    (h : RunsMoved R runs runs') : liabilityOf code c runs' = liabilityOf code c runs :=
  h.sum fun _ _ _ _ => rfl

lemma liabilityOf_put_status {status : Payroll.PayrollRunStatus} (hrun : run ∈ runs) :
    liabilityOf code c (runs.put { run with status }) = liabilityOf code c runs := by
  refine (Table.sum_put_of_mem (r := { run with status }) hrun rfl
    fun r => if c r.id then recognizedBy code r else 0).trans ?_
  exact add_eq_left.mpr (sub_self (if c run.id then recognizedBy code run else 0))

lemma liabilityOf_put (hc : c run.id = false) :
    liabilityOf code c (runs.put run) = liabilityOf code c runs := by
  cases hfind : runs.find? run.id with
  | none =>
    refine (Table.sum_put_of_not_mem (find?_eq_none.mp hfind) _).trans ?_
    rw [hc]
    exact add_zero _
  | some o =>
    obtain ⟨ho, hid⟩ := find?_eq_some.mp hfind
    refine (Table.sum_put_of_mem ho hid _).trans ?_
    rw [hid, hc]
    exact add_eq_left.mpr (sub_self 0)

lemma settledLiability_insert (hc : c k = false) (hc' : ∀ j, c' j = (decide (j = k) || c j)) :
    db.settledLiability scope code c' =
      db.settledLiability scope code c + db.settledFor scope code k := by
  unfold FinanceDb.settledFor FinanceDb.settledLiability FinanceDb.settledSum Table.sum
  rw [← List.sum_map_add]
  refine congrArg List.sum (map_congr_left fun t _ => ?_)
  unfold settlesRuns
  cases t.referenceId with
  | none => simp
  | some j =>
    simp only [Option.any_some, hc']
    by_cases hj : j = k
    · subst hj
      simp [hc]
    · simp [hj]

lemma settledLiability_congr (h : db'.transactions = db.transactions) :
    db'.settledLiability scope code c = db.settledLiability scope code c := by
  rw [FinanceDb.settledLiability, FinanceDb.settledSum, h]
  rfl

/-! ### Steps that post nothing -/

structure ChainsKept (db db' : FinanceDb) : Prop where
  roots : ∀ {scope root}, db'.IsRoot scope root → ∃ r, db.IsRoot scope r ∧ r.id = root.id
  recognized : ∀ code {rootId}, db'.recognizedOfChain code rootId = db.recognizedOfChain code rootId
  settled : ∀ scope code {rootId},
    db'.settledOfChain scope code rootId = db.settledOfChain scope code rootId

lemma ChainsKept.liabilityRight (h : ChainsKept db db') (hs : db.LiabilityRight) : db'.LiabilityRight := by
  intro scope root hroot code hcode
  obtain ⟨r, hr, hid⟩ := h.roots hroot
  rw [h.recognized, h.settled, ← hid]
  exact hs scope r hr code hcode

lemma roots_of_runs (h : ∀ r' ∈ db'.payroll.runs, r'.status.recognized = true →
      ∃ r ∈ db.payroll.runs, r.id = r'.id ∧ r.adjustmentOfRunId = r'.adjustmentOfRunId ∧
        r.status.recognized = true ∧ r.companyId = r'.companyId ∧ r.branchId = r'.branchId)
    (hroot : db'.IsRoot scope root) : ∃ r, db.IsRoot scope r ∧ r.id = root.id := by
  obtain ⟨r, hr, hid, hadjusts, hrecognized, hcompany, hbranch⟩ :=
    h root hroot.found hroot.recognized
  exact ⟨r, ⟨hr, hadjusts.trans hroot.regular, hrecognized, hcompany.trans hroot.company,
    hbranch.trans hroot.branch⟩, hid⟩

lemma chainsKept_moved (h : BooksMoved db.payrollBooks db'.payrollBooks)
    (htransactions : db'.transactions = db.transactions) : ChainsKept db db' where
  roots := roots_of_runs fun r' hr' hrecognized => by
    obtain ⟨r, hr, status, rfl, hmove⟩ := h.runs.mem hr'
    exact ⟨r, hr, rfl, rfl, hmove.recognized.symm.trans hrecognized, rfl, rfl⟩
  recognized := fun code {rootId} => by
    rw [FinanceDb.recognizedOfChain, inChain_moved h.runs]
    exact liabilityOf_moved h.runs
  settled := fun scope code {rootId} => by
    rw [FinanceDb.settledOfChain, inChain_moved h.runs]
    exact settledLiability_congr htransactions

lemma chainsKept_created (h : RunCreated db.payrollBooks run db'.payrollBooks)
    (htransactions : db'.transactions = db.transactions) : ChainsKept db db' := by
  have hruns : db'.payroll.runs = db.payroll.runs.put run := congrArg PayrollBooks.runs h.books
  refine ⟨roots_of_runs fun r' hr' hrecognized => ?_, fun code rootId => ?_, fun scope code rootId => ?_⟩
  · rw [hruns] at hr'
    rcases mem_put.mp hr' with rfl | ⟨hr, _⟩
    · rw [h.new.status] at hrecognized
      cases hrecognized
    · exact ⟨r', hr, rfl, rfl, hrecognized, rfl, rfl⟩
  · rw [FinanceDb.recognizedOfChain, h.inChain, hruns]
    refine liabilityOf_put ?_
    rw [PayrollBooks.inChain, h.fresh]
    rfl
  · rw [FinanceDb.settledOfChain, h.inChain]
    exact settledLiability_congr htransactions

lemma chainsKept_calculated {i : Payroll.RunInputs} {run' : Payroll.PayrollRun}
    {p : Payroll.PayrollDb} (h : Payroll.Calculated i db.payroll run' p)
    (hopen : i.run.status = .draft ∨ i.run.status = .review) :
    ChainsKept db { db with payroll := p } := by
  have hdraft : i.run.status.recognized = false := by
    rcases hopen with hs | hs <;> rw [hs] <;> rfl
  have hrun : db.payroll.runs.find? i.run.id = some i.run := h.found
  have hout {rootId : ℕ} : db.payrollBooks.inChain rootId i.run.id = false :=
    inChain_of_not_recognized (b := db.payrollBooks) hrun hdraft
  refine ⟨roots_of_runs fun r' hr' hrecognized => ?_, fun code rootId => ?_, fun scope code rootId => ?_⟩
  · change r' ∈ p.runs at hr'
    rw [h.runs] at hr'
    have hreview : run'.status = .review := by rw [h.updated]
    rcases mem_put.mp hr' with rfl | ⟨hr', _⟩
    · rw [hreview] at hrecognized
      cases hrecognized
    rcases mem_put.mp hr' with rfl | ⟨hr', _⟩
    · cases hrecognized
    · exact ⟨r', hr', rfl, rfl, hrecognized, rfl, rfl⟩
  · rw [FinanceDb.recognizedOfChain, inChain_calculated h hopen]
    change liabilityOf code _ p.runs = _
    rw [h.runs, liabilityOf_put, liabilityOf_put_status (find?_eq_some.mp hrun).1]
    · rfl
    · rw [h.run'_id]
      exact hout
  · rw [FinanceDb.settledOfChain, inChain_calculated h hopen]
    rfl

lemma PayrollPrepared.chainsKept (h : PayrollPrepared db db') : ChainsKept db db' := by
  cases h with
  | moved htransactions h => exact chainsKept_moved h htransactions
  | created htransactions h => exact chainsKept_created h htransactions
  | calculated h hopen => exact chainsKept_calculated h hopen

lemma chainsKept_of_books (h : db'.payrollBooks = db.payrollBooks)
    (hsettled : ∀ scope code c, db'.settledLiability scope code c = db.settledLiability scope code c) :
    ChainsKept db db' := by
  have hruns : db'.payroll.runs = db.payroll.runs := congrArg PayrollBooks.runs h
  refine ⟨fun hroot => ⟨_, ⟨hruns ▸ hroot.found, hroot.regular, hroot.recognized, hroot.company,
    hroot.branch⟩, rfl⟩, fun code rootId => ?_, fun scope code rootId => ?_⟩
  · rw [FinanceDb.recognizedOfChain, h, hruns]
    rfl
  · rw [FinanceDb.settledOfChain, h]
    exact hsettled scope code _

/-! ### Postings of runs -/

section Posting

variable (h : PostedRun scope ids run db db')
include h

lemma liabilityOf_posted : liabilityOf code c db'.payroll.runs = liabilityOf code c db.payroll.runs := by
  obtain ⟨t, status, hmoved, _, hruns⟩ := h.runs
  have hrun : run ∈ t := (find?_eq_some.mp
    (hmoved.find?_approved (find?_of_mem h.found) h.approved)).1
  rw [hruns, liabilityOf_put_status hrun, liabilityOf_moved hmoved]

lemma recognized_joined (hjoin : run.id = rootId ∨ run.adjustmentOfRunId = some rootId) :
    db'.recognizedOfChain code rootId = db.recognizedOfChain code rootId + recognizedBy code run := by
  rw [FinanceDb.recognizedOfChain, liabilityOf_posted h]
  exact liabilityOf_insert h.found (posted_not_inChain h) fun k => posted_inChain_of_eq h hjoin

lemma settled_joined (hjoin : run.id = rootId ∨ run.adjustmentOfRunId = some rootId)
    (scope' : TenantScope) : db'.settledOfChain scope' code rootId =
      db.settledOfChain scope' code rootId + db.settledFor scope' code run.id := by
  rw [FinanceDb.settledOfChain, settledLiability_congr h.transactions]
  exact settledLiability_insert (posted_not_inChain h) fun k => posted_inChain_of_eq h hjoin

/-- The posting of a run is right for the chain that the run joins, or not at all. -/
lemma liabilityRight_posted (hs : db.LiabilityRight) (hroot : db'.IsRoot scope root)
    (hjoin : run.id = root.id ∨ run.adjustmentOfRunId = some root.id)
    (honly : ∀ {scope x}, db'.IsRoot scope x →
      run.id = x.id ∨ run.adjustmentOfRunId = some x.id → x.id = root.id) :
    db'.LiabilityRight ↔ ∀ code ∈ liabilityAccounts,
      db.settledOfChain scope code root.id + db.settledFor scope code run.id ≤
        db.recognizedOfChain code root.id + recognizedBy code run := by
  constructor
  · intro hright code hcode
    have hle := hright scope root hroot code hcode
    rwa [recognized_joined h hjoin, settled_joined h hjoin] at hle
  · intro hfits scope' x hx code hcode
    by_cases hjoin' : run.id = x.id ∨ run.adjustmentOfRunId = some x.id
    · obtain rfl := eq_of_key_eq hx.found hroot.found (honly hx hjoin')
      obtain rfl : scope' = scope := by
        have hcompany := hx.company.symm.trans hroot.company
        have hbranch := mem_unique hx.branch hroot.branch
        cases scope
        cases scope'
        simp_all
      rw [recognized_joined h hjoin, settled_joined h hjoin]
      exact hfits code hcode
    · push Not at hjoin'
      rcases posted_root_before h hx.found hx.recognized with
        ⟨hid, _⟩ | ⟨r, hr, hid, hadjusts, hrecognized, hcompany, hbranch⟩
      · exact absurd hid.symm hjoin'.1
      · have hle := hs scope' r ⟨hr, hadjusts.trans hx.regular, hrecognized,
          hcompany.trans hx.company, hbranch.trans hx.branch⟩ code hcode
        rw [hid] at hle
        rw [FinanceDb.recognizedOfChain, FinanceDb.settledOfChain, liabilityOf_posted h,
          settledLiability_congr h.transactions, posted_inChain_of_ne h hjoin'.1 hjoin'.2]
        exact hle

lemma liabilityRight_regular (hb : db.payrollBooks.Booked) (hs : db.LiabilityRight)
    (hregular : run.adjustmentOfRunId = none) : db'.LiabilityRight ↔ ∀ code ∈ liabilityAccounts,
      db.settledFor scope code run.id ≤ recognizedBy code run := by
  obtain ⟨t, status, _, hstatus, hruns⟩ := h.runs
  have hroot : db'.IsRoot scope { run with status } := by
    refine ⟨?_, hregular, hstatus, h.company, h.branch⟩
    rw [hruns]
    exact mem_put_self _ _
  refine (liabilityRight_posted h hs hroot (Or.inl rfl) fun _ hjoin => ?_).trans ?_
  · rcases hjoin with hid | hadjusts
    · exact hid.symm
    · rw [hregular] at hadjusts
      cases hadjusts
  · have hempty := inChain_empty hb (find?_of_mem h.found) (posted_not_recognized h)
    have hsettled (code : String) : db.settledOfChain scope code run.id = 0 := by
      rw [FinanceDb.settledOfChain, hempty]
      exact Table.sum_eq_zero fun t _ => by simp [settlesRuns]
    have hrecognized (code : String) : db.recognizedOfChain code run.id = 0 := by
      rw [FinanceDb.recognizedOfChain, hempty]
      exact Table.sum_eq_zero fun r _ => rfl
    dsimp only
    simp only [hsettled, hrecognized, zero_add]

end Posting

/-! ### Adjustments -/

section Adjustment

variable {source : Payroll.PayrollRun} (h : AdjustmentPosted scope source run db db')
  (hb : db.payrollBooks.Booked)
include h

lemma isRoot_source (hb : db.payrollBooks.Booked) : db.IsRoot scope source := by
  obtain ⟨s, hfind, ⟨hcompany, hbranch⟩, _⟩ := hb.sources run h.found source.id h.adjusts
  obtain rfl := mem_unique hfind h.source_found
  exact ⟨(find?_eq_some.mp hfind).1, h.source_regular, h.source_recognized,
    hcompany.trans h.company, hbranch.trans h.branch⟩

lemma liabilityRight_adjustment (hb : db.payrollBooks.Booked) (hs : db.LiabilityRight) :
    db'.LiabilityRight ↔ ∀ code ∈ liabilityAccounts,
      db.settledOfChain scope code source.id + db.settledFor scope code run.id ≤
        db.recognizedOfChain code source.id + recognizedBy code run := by
  have hsource := isRoot_source h hb
  obtain ⟨t, _, hmoved, _, hruns⟩ := h.runs
  obtain ⟨status, hfind, hmove⟩ := hmoved.find? h.source_found
  have hne : source.id ≠ run.id := by
    intro hid
    obtain rfl := eq_of_key_eq hsource.found h.found hid
    have hrun := posted_not_recognized h.toPostedRun
    rw [h.source_recognized] at hrun
    cases hrun
  have hroot : db'.IsRoot scope { source with status } := by
    refine ⟨?_, h.source_regular, hmove.statusMove.recognized.trans h.source_recognized,
      hsource.company, hsource.branch⟩
    rw [hruns]
    exact mem_put.mpr (Or.inr ⟨(find?_eq_some.mp hfind).1, hne⟩)
  have honly {scope' : TenantScope} {x : Payroll.PayrollRun} (hx : db'.IsRoot scope' x)
      (hjoin : run.id = x.id ∨ run.adjustmentOfRunId = some x.id) : x.id = source.id := by
    rcases hjoin with hid | hadjusts
    · have hregular : run.adjustmentOfRunId = none := by
        rcases posted_root_before h.toPostedRun hx.found hx.recognized with
          ⟨_, hadjusts⟩ | ⟨r, hr, hid', hadjusts, _⟩
        · exact hadjusts.symm.trans hx.regular
        · obtain rfl := eq_of_key_eq hr h.found (hid'.trans hid.symm)
          exact hadjusts.trans hx.regular
      rw [h.adjusts] at hregular
      cases hregular
    · exact (mem_unique h.adjusts hadjusts).symm
  have hiff := liabilityRight_posted h.toPostedRun hs hroot (Or.inr h.adjusts) honly
  exact hiff

include hb

lemma recognizedOfChain_eq (code : String) : db.recognizedOfChain code source.id =
    ((db.recognitionRuns scope source run).map (recognizedBy code)).sum := by
  rw [((h.perm_recognitionRuns hb).map _).sum_eq, Table.sum_findMany]
  rfl

/-- What has been settled is part of what an adjustment counts as committed. -/
lemma settledOfChain_le_committed (hbooked : db.SettlementsBooked) (code : String) :
    db.settledOfChain scope code source.id ≤ committed (db.liabilitySettlements scope
      ((db.recognitionRuns scope source run).map Payroll.PayrollRun.id)) code := by
  rw [committed, FinanceDb.liabilitySettlements, Table.findMany, List.filter_filter]
  refine le_of_le_of_eq ?_ (Table.sum_findMany db.transactions _ _).symm
  refine List.sum_le_sum fun t ht => ?_
  by_cases hp : settlesRuns scope code (db.payrollBooks.inChain source.id) t = true
  · have hp' := hp
    simp only [settlesRuns, cond_iff, Bool.or_eq_true] at hp'
    obtain ⟨⟨⟨⟨⟨hcompany, hbranch⟩, htype⟩, hid⟩, hcode⟩, hkind⟩ := hp'
    obtain ⟨k, hk, hchain⟩ := (Option.any_eq_true _ _).mp hid
    rw [if_pos hp, FinanceTransaction.settledAmount]
    have hmem := (h.mem_ids hb).mpr hchain
    cases hsettled : t.status.settled with
    | true =>
      have hne : t.status ≠ .cancelled := by
        intro he
        rw [he] at hsettled
        cases hsettled
      rw [if_pos rfl, if_pos]
      simp only [cond_iff, Bool.or_eq_true, hk, Option.any_some]
      exact ⟨⟨hcode, .inr trivial⟩, ⟨⟨⟨⟨⟨hcompany, hbranch⟩, htype⟩, hmem⟩, hkind⟩, hne⟩⟩
    | false =>
      rw [if_neg (by simp)]
      split
      · exact (hbooked.positive t ht hkind).le
      · exact le_refl 0
  · rw [if_neg hp]
    split
    next hfilter =>
      simp only [cond_iff, Bool.or_eq_true] at hfilter
      exact (hbooked.positive t ht hfilter.2.1.2).le
    next => exact le_refl 0

/-- A correction downwards has been compared with what is left. -/
lemma correction_fits (hbooked : db.SettlementsBooked) (hcode : code ∈ liabilityAccounts)
    (hneg : recognizedBy code run < 0) :
    db.settledOfChain scope code source.id ≤
      db.recognizedOfChain code source.id + recognizedBy code run := by
  obtain ⟨accounts, hchecked⟩ := h.checked
  have hother : PostingInputs.payrollOtherPayable
      ⟨scope, run, accounts, db.payrollBooks.resultsOf run.id⟩ = recognizedBy "2104" run := by
    have htotals := congrArg Payroll.PayrollTotals.deductionTotal (hb.totals run h.found h.counted.symm)
    rw [recognizedBy, if_neg (by decide), htotals]
    dsimp only [PostingInputs.payrollOtherPayable, PostingInputs.employeeContribution,
      PostingInputs.otherDeductions, Payroll.totalsOf]
    rw [map_map, ← List.sum_map_add]
    congr 2
    exact map_congr_left fun x _ => add_comm _ _
  have hcommitted := settledOfChain_le_committed h hb hbooked code
  have hrest : ¬ rest (db.recognizedOfChain code source.id) (committed (db.liabilitySettlements scope
      ((db.recognitionRuns scope source run).map Payroll.PayrollRun.id)) code) <
        |recognizedBy code run| := by
    rw [recognizedOfChain_eq h hb]
    simp only [checkLiabilities, requireCorrection, commits_bind, commits_get, commits_require, hother]
      at hchecked
    obtain ⟨_, _, ⟨rfl, rfl⟩, _, _, ⟨htax, rfl⟩, hothers, _⟩ := hchecked
    simp only [liabilityAccounts, mem_cons, not_mem_nil, or_false] at hcode
    rcases hcode with rfl | rfl
    · exact fun hlt => htax ⟨hneg, hlt⟩
    · exact fun hlt => hothers ⟨hneg, hlt⟩
  have hfits := add_le_of_le_rest (abs_pos.mpr hneg.ne) (not_lt.mp hrest)
  rw [abs_of_neg hneg] at hfits
  linarith

end Adjustment

lemma payrollLiabilitySnapshot_commits {exclude : Option ℕ} {q : Position ℚ}
    (h : Commits (payrollLiabilitySnapshot scope id code exclude) db q db') :
    ∃ run rootId, db.payroll.runs.find? id = some run ∧ rootId = run.adjustmentOfRunId.getD run.id ∧
      q = position (((db.chainRuns scope rootId).map (recognizedBy code)).sum)
        (db.settlements scope (fun t => t.referenceType = some "PayrollRun" &&
          t.referenceId.any (fun id => id ∈ (db.chainRuns scope rootId).map Payroll.PayrollRun.id) &&
          t.debitAccountCode = code && settlesLiability code t.type) exclude) := by
  simp only [payrollLiabilitySnapshot, commits_steps] at h
  obtain ⟨_, run, hfind, _, rfl, _⟩ := h
  exact ⟨run, _, (Option.filter_eq_some_iff.mp hfind).1, rfl, rfl⟩

lemma chainRuns_eq (hb : db.payrollBooks.Booked) (hroot : db.IsRoot scope root) : db.chainRuns scope root.id =
      db.payroll.runs.findMany fun r => db.payrollBooks.inChain root.id r.id := by
  refine filter_congr fun r hr => ?_
  change _ = (db.payroll.runs.find? r.id).any _
  rw [find?_of_mem hr, Option.any_some]
  by_cases hid : r.id = root.id
  · obtain rfl := eq_of_key_eq hr hroot.found hid
    simp [hroot.company, hroot.branch]
  · by_cases hadjusts : r.adjustmentOfRunId = some root.id
    · obtain ⟨s, hs, ⟨hcompany, hbranch⟩, _⟩ := hb.sources r hr root.id hadjusts
      obtain rfl := mem_unique hs (find?_of_mem hroot.found)
      simp [← hcompany, ← hbranch, hroot.company, hroot.branch, hadjusts]
    · simp [hid, hadjusts]

/-- The transactions that the snapshot of a chain counts. -/
lemma settlements_eq (hb : db.payrollBooks.Booked) (hbooked : db.SettlementsBooked)
    (hroot : db.IsRoot scope root) (hcode : code ∈ liabilityAccounts) (exclude : Option ℕ) :
    db.settlements scope (fun t => t.referenceType = some "PayrollRun" &&
        t.referenceId.any (fun id => id ∈ (db.chainRuns scope root.id).map Payroll.PayrollRun.id) &&
        t.debitAccountCode = code && settlesLiability code t.type) exclude =
      db.settlements scope (settlesRuns scope code (db.payrollBooks.inChain root.id)) exclude := by
  have hmem (k : ℕ) : k ∈ (db.chainRuns scope root.id).map Payroll.PayrollRun.id ↔
      db.payrollBooks.inChain root.id k = true := by
    rw [chainRuns_eq hb hroot, mem_map]
    constructor
    · rintro ⟨r, hr, rfl⟩
      exact (mem_findMany.mp hr).2
    · intro hk
      obtain ⟨r, hr, _⟩ := (Option.any_eq_true _ _).mp hk
      obtain ⟨hmemr, rfl⟩ := find?_eq_some.mp hr
      exact ⟨r, mem_findMany.mpr ⟨hmemr, hk⟩, rfl⟩
  -- A tax payment on the other account has not passed its check.
  have htype : ∀ t ∈ db.transactions, t.debitAccountCode = code → settlesLiability code t.type =
      (decide (t.type = .payrollLiabilityPayment) || decide (t.type = .taxPayment)) := by
    intro t ht hdebit
    simp only [liabilityAccounts, mem_cons, not_mem_nil, or_false] at hcode
    rcases hcode with rfl | rfl
    · simp [settlesLiability]
    · have hne : t.type ≠ .taxPayment := by
        intro htax
        have hcodes := hbooked.taxCodes t ht htax
        rw [hdebit] at hcodes
        exact absurd hcodes (by decide)
      simp [settlesLiability, hne]
  refine filter_congr fun t ht => ?_
  have hany : t.referenceId.any
      (fun id => decide (id ∈ (db.chainRuns scope root.id).map Payroll.PayrollRun.id)) =
        t.referenceId.any (db.payrollBooks.inChain root.id) := by
    congr 1
    funext k
    simp only [hmem, Bool.decide_eq_true]
  dsimp only
  rw [hany, settlesRuns]
  by_cases hdebit : t.debitAccountCode = code
  · rw [htype t ht hdebit]
    by_cases hcompany : t.companyId = scope.companyId <;>
      by_cases hbranch : t.branchId = scope.branchId <;> simp [hcompany, hbranch, hdebit]
  · simp [hdebit]

/-- A liability payment that is posted has been compared with the position of its chain. -/
lemma liabilityPayment_fits (hb : db.payrollBooks.Booked) (hbooked : db.SettlementsBooked)
    (h : PostedTransaction scope db t db') (htype : t.type = .payrollLiabilityPayment)
    (hroot : db.IsRoot scope root) (hcode : code ∈ liabilityAccounts)
    (hp : settlesRuns scope code (db.payrollBooks.inChain root.id) t = true) :
    db.settledOfChain scope code root.id + t.grossAmount ≤ db.recognizedOfChain code root.id := by
  have hp' := hp
  simp only [settlesRuns, cond_iff] at hp'
  obtain ⟨⟨⟨⟨_, href⟩, hid⟩, hdebit⟩, _⟩ := hp'
  obtain ⟨k, hk, hchain⟩ := (Option.any_eq_true _ _).mp hid
  have hchecked := h.rechecked
  simp only [FinanceTransaction.recheck, htype, FinanceTransaction.recheckPayrollLiabilityPayment, href, hk,
    FinanceTransaction.requireAvailable, commits_steps, Option.some.injEq] at hchecked
  obtain ⟨_, _, _, q, _, hsnapshot, hle, rfl⟩ := hchecked
  obtain ⟨run, rootId, hrun, hrootId, rfl⟩ := payrollLiabilitySnapshot_commits hsnapshot
  obtain ⟨r, hr, hmember⟩ := (Option.any_eq_true _ _).mp hchain
  obtain rfl := mem_unique hrun hr
  simp only [cond_iff, Bool.or_eq_true] at hmember
  obtain rfl : rootId = root.id := by
    rw [hrootId]
    rcases hmember.2 with hself | hadjusts
    · obtain rfl := eq_of_key_eq (find?_eq_some.mp hrun).1 hroot.found hself
      rw [hroot.regular]
      rfl
    · rw [hadjusts]
      rfl
  rw [hdebit, settlements_eq hb hbooked hroot hcode, chainRuns_eq hb hroot, Table.sum_findMany] at hle
  have hpos := hbooked.positive t h.found (Or.inl htype)
  refine add_le_of_le_rest hpos (h.fits (fun x _ hx => ?_) (fun x hx hpx => ?_) hpos hle)
  · simp only [settlesRuns, cond_iff] at hx
    exact hx.1.1.1.1
  · simp only [settlesRuns, cond_iff, Bool.or_eq_true] at hpx
    exact (hbooked.positive x hx hpx.2).le

/-! ### Steps -/

lemma liabilityRight_postAccounting {runId : ℕ} {r : Payroll.PayrollRun}
    (hb : db.payrollBooks.Booked) (hbooked : db.SettlementsBooked) (hs : db.LiabilityRight)
    (hc : Commits (postAccounting scope runId) db r db') :
    db'.LiabilityRight ↔ db.PostingFits scope runId := by
  obtain ⟨run, hfind, ⟨hrecognized, rfl⟩ | ⟨hregular, h⟩ | ⟨source, h⟩⟩ :=
    postAccounting_commits hb hc
  · refine iff_of_true hs fun x hx hnot => ?_
    obtain rfl := mem_unique hfind hx
    rw [hrecognized] at hnot
    cases hnot
  · rw [liabilityRight_regular h hb hs hregular]
    constructor
    · intro hfits x hx _ code hcode
      obtain rfl := mem_unique hfind hx
      rw [hregular]
      exact hfits code hcode
    · intro hfits code hcode
      have hfit := hfits run hfind (posted_not_recognized h) code hcode
      rwa [hregular] at hfit
  · rw [liabilityRight_adjustment h hb hs]
    constructor
    · intro hfits x hx _ code hcode
      obtain rfl := mem_unique hfind hx
      rw [h.adjusts]
      exact .inr (hfits code hcode)
    · intro hfits code hcode
      have hfit := hfits run hfind (posted_not_recognized h.toPostedRun) code hcode
      rw [h.adjusts] at hfit
      rcases hfit with hzero | hfit
      · rw [hzero, add_zero]
        rcases lt_or_ge (recognizedBy code run) 0 with hneg | hnonneg
        · exact correction_fits h hb hbooked hcode hneg
        · have hle := hs scope source (isRoot_source h hb) code hcode
          linarith
      · exact hfit

lemma liabilityRight_post (hb : db.payrollBooks.Booked) (hbooked : db.SettlementsBooked)
    (hs : db.LiabilityRight) (hc : Commits (post scope id) db t db') :
    db'.LiabilityRight ↔ db.TaxFits scope id := by
  have hbooks : db'.payrollBooks = db.payrollBooks :=
    Wrote.payrollBooks (FinanceCall.wrote (c := .post scope id) hc)
  obtain ⟨t, rfl, h⟩ := post_commits hc
  have hsettled (scope' : TenantScope) (code : String) (rootId : ℕ) :
      db'.settledOfChain scope' code rootId = db.settledOfChain scope' code rootId +
        if settlesRuns scope' code (db.payrollBooks.inChain rootId) t then t.grossAmount else 0 := by
    rw [FinanceDb.settledOfChain, hbooks]
    exact h.settledSum fun _ _ => rfl
  have hruns : db'.payroll.runs = db.payroll.runs := congrArg PayrollBooks.runs hbooks
  have hrecognized (code : String) (rootId : ℕ) :
      db'.recognizedOfChain code rootId = db.recognizedOfChain code rootId := by
    rw [FinanceDb.recognizedOfChain, hbooks, hruns]
    rfl
  have hroots {scope' : TenantScope} {root : Payroll.PayrollRun} :
      db'.IsRoot scope' root ↔ db.IsRoot scope' root := by
    constructor
    · exact fun ⟨h₁, h₂, h₃, h₄, h₅⟩ => ⟨hruns ▸ h₁, h₂, h₃, h₄, h₅⟩
    · exact fun ⟨h₁, h₂, h₃, h₄, h₅⟩ => ⟨hruns ▸ h₁, h₂, h₃, h₄, h₅⟩
  constructor
  · intro hright x hx _ root hroot hp
    obtain rfl := mem_unique (find?_of_mem h.found) hx
    have hle := hright scope root (hroots.mpr hroot) "2103" (by decide)
    rwa [hsettled, hrecognized, if_pos hp] at hle
  · intro hfits scope' root hroot code hcode
    rw [hsettled, hrecognized]
    have hroot := hroots.mp hroot
    split
    next hp =>
      have hp' := hp
      simp only [settlesRuns, cond_iff, Bool.or_eq_true] at hp'
      obtain ⟨⟨⟨⟨⟨hcompany, hbranch⟩, _⟩, _⟩, hdebit⟩, htype⟩ := hp'
      obtain rfl : scope' = scope := by
        have hcompany' := hcompany.symm.trans h.company
        have hbranch' := hbranch.symm.trans h.branch
        cases scope
        cases scope'
        simp_all
      rcases htype with htype | htype
      · exact liabilityPayment_fits hb hbooked h htype hroot hcode hp
      · -- The account of a tax payment is not 2104.
        have hcodes := hbooked.taxCodes t h.found htype
        rw [hdebit] at hcodes
        obtain rfl : code = "2103" := by
          simp only [liabilityAccounts, mem_cons, not_mem_nil, or_false] at hcode
          rcases hcode with rfl | rfl
          · rfl
          · exact absurd hcodes (by decide)
        exact hfits t (find?_of_mem h.found) htype root hroot hp
    next => exact (add_zero (db.settledOfChain scope' code root.id)).trans_le (hs scope' root hroot code hcode)

lemma Wrote.chainsKept (h : Wrote scope none db db') : ChainsKept db db' := by
  refine chainsKept_of_books h.payrollBooks fun scope code c => ?_
  rcases h.settledSum (p := settlesRuns scope code c) fun _ _ _ => rfl with hsame | ⟨t, hpost, _⟩
  · exact hsame
  · cases hpost

/-- A step keeps the liabilities right exactly if it meets the condition. -/
lemma liabilityRight_step (hb : db.payrollBooks.Booked) (hbooked : db.SettlementsBooked)
    (hs : db.LiabilityRight) (h : ChainStep db e db') : db'.LiabilityRight ↔ db.ChainFits e := by
  cases h with
  | @payroll call _ _ hc =>
    have hprepared := fun hcall => (PayrollCall.prepared hb hcall hc).chainsKept.liabilityRight hs
    cases call with
    | postAccounting scope runId =>
      obtain ⟨_, hpost, _⟩ := commits_bind_pure.mp hc
      exact liabilityRight_postAccounting hb hbooked hs hpost
    | createRun => exact iff_of_true (hprepared nofun) trivial
    | createAdjustmentRun => exact iff_of_true (hprepared nofun) trivial
    | calculateRun => exact iff_of_true (hprepared nofun) trivial
    | approveRun => exact iff_of_true (hprepared nofun) trivial
    | cancelRun => exact iff_of_true (hprepared nofun) trivial
    | settlePayment => exact iff_of_true (hprepared nofun) trivial
  | @finance call t _ _ hc =>
    have hwrote := FinanceCall.wrote hc
    cases call with
    | post scope id => exact liabilityRight_post hb hbooked hs hc
    | create => exact iff_of_true (hwrote.chainsKept.liabilityRight hs) trivial
    | approve => exact iff_of_true (hwrote.chainsKept.liabilityRight hs) trivial
    | reject => exact iff_of_true (hwrote.chainsKept.liabilityRight hs) trivial
    | cancel => exact iff_of_true (hwrote.chainsKept.liabilityRight hs) trivial
  | elsewhere hbooks htransactions =>
    have hkept : ChainsKept db db' :=
      chainsKept_of_books hbooks fun _ _ _ => settledLiability_congr htransactions
    exact iff_of_true (hkept.liabilityRight hs) trivial

def taxed : Payroll.EmployeeCalculation :=
  { Payroll.salary 100 with
    tax := { (Payroll.salary 100).tax with amount := 10, netAfterTax := 90 } }

def taxCalls : List PayrollCall :=
  [.createRun headOffice ⟨1, none, none⟩, .calculateRun headOffice 1 fun _ => taxed,
    .approveRun headOffice 1, .postAccounting headOffice 1]

def recognizedTax : FinanceDb := afterCalls taxCalls firstPayroll

def taxPayment (amount : ℚ) : CreateFinanceTransaction where
  type := .taxPayment
  description := "Setor PPh 21"
  amount := amount
  debitAccountCode := "2103"
  creditAccountCode := "1101"
  referenceType := some "PayrollRun"
  referenceId := some 1
  idempotencyKey := "tax-1"

def taxDrafted (amount : ℚ) : FinanceDb := leftBy (create headOffice (taxPayment amount)) recognizedTax

def taxPosted (amount : ℚ) : FinanceDb := leftBy (post headOffice 2) (taxDrafted amount)

def taxPaid (amount : ℚ) : List ChainEvent :=
  [.finance (.create headOffice (taxPayment amount)), .finance (.post headOffice 2)]

lemma firstPayroll_settlements : firstPayroll.SettlementsBooked where
  positive := fun _ ht => absurd ht (not_mem_empty _)
  taxCodes := fun _ ht => absurd ht (not_mem_empty _)

lemma firstPayroll_right : firstPayroll.LiabilityRight :=
  fun _ _ hroot => absurd hroot.found (not_mem_empty _)

lemma recognizedTax_run : Run ChainStep firstPayroll (taxCalls.map .payroll) recognizedTax :=
  chainRun_of_calls (by decide +kernel)

lemma recognizedTax_booked : recognizedTax.payrollBooks.Booked ∧ recognizedTax.SettlementsBooked :=
  recognizedTax_run.invariant (I := fun db => db.payrollBooks.Booked ∧ db.SettlementsBooked)
    (fun _ _ _ hj h => ⟨h.booked hj.1, h.settlementsBooked hj.1 hj.2⟩)
    ⟨PayrollBooks.booked_empty, firstPayroll_settlements⟩

lemma recognizedTax_root (hroot : recognizedTax.IsRoot scope root) : root.id = 1 := by
  have hids : recognizedTax.payroll.runs.rows.map Payroll.PayrollRun.id = [1] := by decide +kernel
  have hmem := mem_map_of_mem (f := Payroll.PayrollRun.id) (mem_rows.mp hroot.found)
  rw [hids] at hmem
  simpa using hmem

lemma taxDrafted_step {amount : ℚ}
    (h : (execute (create headOffice (taxPayment amount)) recognizedTax).1.isOk = true) :
    ChainStep recognizedTax (.finance (.create headOffice (taxPayment amount))) (taxDrafted amount) := by
  obtain ⟨_, hcreate⟩ := commits_leftBy (create headOffice (taxPayment amount)) recognizedTax h
  exact .finance hcreate

lemma taxPosted_step {amount : ℚ} (h : (execute (post headOffice 2) (taxDrafted amount)).1.isOk = true) :
    ChainStep (taxDrafted amount) (.finance (.post headOffice 2)) (taxPosted amount) := by
  obtain ⟨_, hpost⟩ := commits_leftBy (post headOffice 2) (taxDrafted amount) h
  exact .finance hpost

lemma recognizedTax_right : recognizedTax.LiabilityRight := by
  intro scope root hroot code hcode
  have hempty : recognizedTax.transactions.rows = [] := by decide +kernel
  have hsettled : recognizedTax.settledOfChain scope code root.id = 0 := by
    refine Table.sum_eq_zero fun t ht => ?_
    rw [mem_rows, hempty] at ht
    cases ht
  rw [hsettled, recognizedTax_root hroot]
  simp only [liabilityAccounts, mem_cons, not_mem_nil, or_false] at hcode
  rcases hcode with rfl | rfl
  · decide +kernel
  · decide +kernel

end Mayatoko.Finance
