import Mayatoko.Finance.PayrollPostingFacts

/-!
# Histories of payroll chains

Any client calls on payroll runs and on finance transactions; whatever else happens leaves the runs,
their results, their payments and the finance transactions alone. Every step keeps the books of the
chains in order, and only a posting adds a run to a chain.
-/

namespace Mayatoko.Finance

open Core Accounting Transit Procurement FinanceDb

inductive ChainEvent
  | payroll (call : PayrollCall)
  | finance (call : FinanceCall)
  | elsewhere

inductive ChainStep : FinanceDb → ChainEvent → FinanceDb → Prop
  | payroll {call : PayrollCall} {db db' : FinanceDb} :
      Commits call.tx db () db' → ChainStep db (.payroll call) db'
  | finance {call : FinanceCall} {t : FinanceTransaction} {db db' : FinanceDb} :
      Commits call.tx db t db' → ChainStep db (.finance call) db'
  | elsewhere {db db' : FinanceDb} : db'.payrollBooks = db.payrollBooks →
      db'.transactions = db.transactions → ChainStep db .elsewhere db'

variable {b : PayrollBooks} {db db' : FinanceDb} {scope : TenantScope} {rootId k : ℕ}
  {run : Payroll.PayrollRun} {ids : List ℕ} {posts : Option ℕ}

/-! ### What a call does to the books -/

structure BooksMoved (b b' : PayrollBooks) : Prop where
  runs : RunsMoved StatusMove b.runs b'.runs
  results : b'.results = b.results
  owners : ∀ p ∈ b'.payments, ∃ q ∈ b.payments, q.payrollRunId = p.payrollRunId
  paid : ∀ c, paidOut c b'.payments = paidOut c b.payments

structure RunCreated (b : PayrollBooks) (run : Payroll.PayrollRun) (b' : PayrollBooks) : Prop where
  new : NewRun run
  fresh : b.runs.find? run.id = none
  source : ∀ k, run.adjustmentOfRunId = some k → ∃ s, b.runs.find? k = some s ∧
    (s.companyId = run.companyId ∧ s.branchId = run.branchId) ∧ s.adjustmentOfRunId = none ∧
      s.status.recognized = true
  closed : ∀ x ∈ b.runs, ∀ k, run.adjustmentOfRunId = some k → x.adjustmentOfRunId = some k →
    adjustmentOpen x.status = false
  sequence : ∀ k, run.adjustmentOfRunId = some k →
    run.adjustmentSequence = (b.adjustmentsOf k).length + 1
  books : b' = { b with runs := b.runs.put run }

/-- What a committed call on payroll runs does that posts no run. -/
inductive PayrollPrepared (db : FinanceDb) : FinanceDb → Prop
  | moved {db' : FinanceDb} : db'.transactions = db.transactions →
      BooksMoved db.payrollBooks db'.payrollBooks → PayrollPrepared db db'
  | created {run : Payroll.PayrollRun} {db' : FinanceDb} : db'.transactions = db.transactions →
      RunCreated db.payrollBooks run db'.payrollBooks → PayrollPrepared db db'
  | calculated {i : Payroll.RunInputs} {run' : Payroll.PayrollRun} {p : Payroll.PayrollDb} :
      Payroll.Calculated i db.payroll run' p →
      i.run.status = .draft ∨ i.run.status = .review → PayrollPrepared db { db with payroll := p }

inductive PayrollWrote (db : FinanceDb) : FinanceDb → Prop
  | prepared {db' : FinanceDb} : PayrollPrepared db db' → PayrollWrote db db'
  | regular {scope : TenantScope} {run : Payroll.PayrollRun} {db' : FinanceDb} :
      run.adjustmentOfRunId = none → PostedRun scope [] run db db' → PayrollWrote db db'
  | adjustment {scope : TenantScope} {source run : Payroll.PayrollRun} {db' : FinanceDb} :
      AdjustmentPosted scope source run db db' → PayrollWrote db db'

lemma BooksMoved.refl (b : PayrollBooks) : BooksMoved b b where
  runs := RunsMoved.refl .same _
  results := rfl
  owners := fun p hp => ⟨p, hp, rfl⟩
  paid := fun _ => rfl

lemma createAdjustmentRun_prepared {dto : CreatePayrollAdjustmentRun} {r : Payroll.PayrollRun}
    (hb : db.payrollBooks.Booked) (h : Commits (createAdjustmentRun scope k dto) db r db') :
    PayrollPrepared db db' := by
  obtain ⟨source, run, hnew, hfresh, hfind, htenant, hregular, hrecognized, hadjusts, hcompany,
    hbranch, hopen, hsequence, nextId, postings, rfl⟩ := createAdjustmentRun_commits h
  -- The adjustments of the source are those of the tenant.
  have hscope : ∀ x ∈ db.payroll.runs, x.adjustmentOfRunId = some k →
      x.companyId = scope.companyId ∧ x.branchId = some scope.branchId := by
    intro x hx hk
    obtain ⟨s, hs, hsame, _⟩ := hb.sources x hx k hk
    obtain rfl := mem_unique hfind hs
    rw [← hsame.1, ← hsame.2, htenant.1, htenant.2]
    exact ⟨hcompany, hbranch⟩
  refine @PayrollPrepared.created _ run _ rfl ⟨hnew, hfresh, ?_, ?_, ?_, rfl⟩
  · intro k' hk'
    obtain rfl := mem_unique hadjusts hk'
    exact ⟨source, hfind, htenant, hregular, hrecognized⟩
  · intro x hx k' hk' hk
    obtain rfl := mem_unique hadjusts hk'
    obtain ⟨hc, hbr⟩ := hscope x hx hk
    have hnot := Table.findFirst_eq_none.mp hopen x hx
    simpa [hc, hbr, hk] using hnot
  · intro k' hk'
    obtain rfl := mem_unique hadjusts hk'
    rw [hsequence]
    refine congrArg (fun l => List.length l + 1) (filter_congr fun x hx => ?_)
    by_cases hk : x.adjustmentOfRunId = some k
    · simp [hk, hscope x hx hk]
    · simp [hk]

lemma settlePayment_prepared {id : ℕ × ℕ} {dto : SettlePayrollPayment} {q : PayrollPayment}
    (h : Commits (settlePayment scope id dto) db q db') : PayrollPrepared db db' := by
  obtain rfl | ⟨p, hp, q, ⟨hkey, hsigned⟩, runs, hruns, ledger, rfl⟩ := settlePayment_commits h
  · exact .moved rfl (.refl _)
  · have hrun : q.payrollRunId = p.payrollRunId := congrArg Prod.fst hkey
    have hemployee : q.employeeId = p.employeeId := congrArg Prod.snd hkey
    refine .moved rfl ⟨hruns, rfl, fun x hx => ?_, fun c => ?_⟩
    · rcases mem_put.mp hx with rfl | ⟨hx, _⟩
      · exact ⟨p, hp, hrun.symm⟩
      · exact ⟨x, hx, rfl⟩
    · refine (Table.sum_put_of_mem hp hkey.symm _).trans ?_
      rw [hrun, hemployee, hsigned, sub_self, add_zero]
      rfl

lemma PayrollCall.prepared {call : PayrollCall} (hb : db.payrollBooks.Booked)
    (hcall : ∀ scope runId, call ≠ .postAccounting scope runId) (h : Commits call.tx db () db') :
    PayrollPrepared db db' := by
  cases call with
  | createRun scope dto =>
    obtain ⟨_, hcreate, _⟩ := commits_bind_pure.mp h
    obtain rfl | ⟨run, hnew, hregular, hfresh, nextId, postings, rfl⟩ := createRun_commits hcreate
    · exact .moved rfl (.refl _)
    · refine @PayrollPrepared.created _ run _ rfl ⟨hnew, hfresh, ?_, ?_, ?_, rfl⟩
      all_goals
        intros
        simp_all
  | createAdjustmentRun scope sourceRunId dto =>
    obtain ⟨_, hcreate, _⟩ := commits_bind_pure.mp h
    exact createAdjustmentRun_prepared hb hcreate
  | calculateRun scope runId calculation =>
    obtain ⟨run', hlift, _⟩ := commits_bind_pure.mp h
    obtain ⟨p, hcalculate, rfl⟩ := Part.commits_lift.mp hlift
    obtain ⟨i, _, rfl, hc⟩ := Payroll.calculateRun_commits hcalculate
    exact .calculated hc (calculateRun_open hcalculate hc.found)
  | approveRun scope runId =>
    obtain ⟨_, hlift, _⟩ := commits_bind_pure.mp h
    obtain ⟨p, happrove, rfl⟩ := Part.commits_lift.mp hlift
    obtain ⟨run, hrun, hstatus, rfl⟩ := approveRun_commits happrove
    have hmove : StatusMove run.status .approved := hstatus ▸ .approved
    exact .moved rfl ⟨RunsMoved.put .same hrun hmove, rfl, fun p hp => ⟨p, hp, rfl⟩, fun _ => rfl⟩
  | cancelRun scope runId reason =>
    obtain ⟨_, hcancel, _⟩ := commits_bind_pure.mp h
    obtain ⟨run, hrun, hstatus, rfl⟩ := cancelRun_commits hcancel
    exact .moved rfl ⟨RunsMoved.put .same hrun (.cancelled hstatus), rfl, fun p hp => ⟨p, hp, rfl⟩,
      fun _ => rfl⟩
  | postAccounting scope runId => exact absurd rfl (hcall scope runId)
  | settlePayment scope paymentId dto =>
    obtain ⟨_, hsettle, _⟩ := commits_bind_pure.mp h
    exact settlePayment_prepared hsettle

lemma postAccounting_wrote {r : Payroll.PayrollRun} (hb : db.payrollBooks.Booked)
    (h : Commits (postAccounting scope k) db r db') : PayrollWrote db db' := by
  obtain ⟨run, _, ⟨_, rfl⟩ | ⟨hregular, hposted⟩ | ⟨source, hposted⟩⟩ := postAccounting_commits hb h
  · exact .prepared (.moved rfl (.refl _))
  · exact .regular hregular hposted
  · exact .adjustment hposted

lemma PayrollCall.wrote {call : PayrollCall} (hb : db.payrollBooks.Booked)
    (h : Commits call.tx db () db') : PayrollWrote db db' := by
  by_cases hcall : ∃ scope runId, call = .postAccounting scope runId
  · obtain ⟨scope, runId, rfl⟩ := hcall
    obtain ⟨_, hpost, _⟩ := commits_bind_pure.mp h
    exact postAccounting_wrote hb hpost
  · push Not at hcall
    exact .prepared (PayrollCall.prepared hb hcall h)

/-! ### Steps -/

lemma PostedRun.booked (h : PostedRun scope ids run db db') (hb : db.payrollBooks.Booked) :
    db'.payrollBooks.Booked := by
  obtain ⟨t, status, hmoved, hstatus, hruns⟩ := h.runs
  have hrun : run ∈ t := (find?_eq_some.mp
    (hmoved.find?_approved (find?_of_mem h.found) h.approved)).1
  have hclosed : PayrollBooks.Booked ⟨t, db.payroll.results, db.payrollPayments⟩ :=
    hb.moved (hmoved.mono fun _ _ => Closing.statusMove) rfl fun p hp => ⟨p, hp, rfl⟩
  have hposted := hclosed.posted hrun h.approved hstatus h.owners
  rw [← hruns, ← h.results] at hposted
  exact hposted

lemma PayrollPrepared.booked (hb : db.payrollBooks.Booked) (h : PayrollPrepared db db') :
    db'.payrollBooks.Booked := by
  cases h with
  | moved _ h => exact hb.moved h.runs h.results h.owners
  | created _ h =>
    rw [h.books]
    exact hb.created h.fresh h.source h.closed h.sequence h.new.totals
  | calculated h hopen => exact hb.calculated h rfl rfl hopen

lemma PayrollWrote.booked (hb : db.payrollBooks.Booked) (h : PayrollWrote db db') :
    db'.payrollBooks.Booked := by
  cases h with
  | prepared h => exact h.booked hb
  | regular _ h => exact h.booked hb
  | adjustment h => exact h.booked hb

lemma Wrote.payrollBooks (h : Wrote scope posts db db') : db'.payrollBooks = db.payrollBooks := by
  obtain ⟨_, _, _, _, rfl⟩ := h.exists_eq
  rfl

lemma ChainStep.booked {e : ChainEvent} (hb : db.payrollBooks.Booked) (h : ChainStep db e db') :
    db'.payrollBooks.Booked := by
  cases h with
  | payroll hc => exact (PayrollCall.wrote hb hc).booked hb
  | finance hc =>
    rw [(FinanceCall.wrote hc).payrollBooks]
    exact hb
  | elsewhere hbooks =>
    rw [hbooks]
    exact hb

lemma inChain_of_not_recognized {b : PayrollBooks} (hfind : b.runs.find? k = some run)
    (hrun : run.status.recognized = false) : b.inChain rootId k = false := by
  rw [PayrollBooks.inChain, hfind, Option.any_some, hrun, Bool.false_and]

lemma RunCreated.inChain {b b' : PayrollBooks} (h : RunCreated b run b') :
    b'.inChain rootId = b.inChain rootId := by
  funext k
  rw [h.books, PayrollBooks.inChain, PayrollBooks.inChain, Table.find?_put]
  split
  next hk => rw [hk, h.fresh, Option.any_some, h.new.status]; rfl
  next => rfl

lemma inChain_calculated {i : Payroll.RunInputs} {run' : Payroll.PayrollRun} {p : Payroll.PayrollDb}
    (h : Payroll.Calculated i db.payroll run' p)
    (hopen : i.run.status = .draft ∨ i.run.status = .review) :
    ({ db with payroll := p } : FinanceDb).payrollBooks.inChain rootId =
      db.payrollBooks.inChain rootId := by
  have hstatus : run'.status = .review := by rw [h.updated]
  funext k
  by_cases hk : k = i.run.id
  · subst hk
    have hdraft : i.run.status.recognized = false := by
      rcases hopen with hs | hs <;> rw [hs] <;> rfl
    rw [inChain_of_not_recognized (b := db.payrollBooks) h.found hdraft]
    exact inChain_of_not_recognized h.find?_run' (by rw [hstatus]; rfl)
  · rw [PayrollBooks.inChain, PayrollBooks.inChain]
    exact congrArg (Option.any _) (h.find?_of_ne hk)

lemma PostedRun.inChain (h : PostedRun scope ids run db db') : db'.payrollBooks.inChain rootId k =
      if k = run.id then decide (run.id = rootId) || decide (run.adjustmentOfRunId = some rootId)
      else db.payrollBooks.inChain rootId k := by
  obtain ⟨t, status, hmoved, hstatus, hruns⟩ := h.runs
  have hmoved' : RunsMoved StatusMove db.payroll.runs t := hmoved.mono fun _ _ => Closing.statusMove
  have hsame : PayrollBooks.inChain ⟨t, db.payroll.results, db.payrollPayments⟩ rootId =
      db.payrollBooks.inChain rootId :=
    inChain_moved hmoved'
  rw [← hsame, PayrollBooks.inChain, PayrollBooks.inChain]
  change (db'.payroll.runs.find? k).any _ = _
  rw [hruns, Table.find?_put]
  split
  next => rw [Option.any_some, hstatus, Bool.true_and]
  next => rfl

/-! ### Posted runs -/

lemma inChain_empty (hb : b.Booked) (hfind : b.runs.find? rootId = some run)
    (hrun : run.status.recognized = false) : b.inChain rootId = fun _ => false := by
  funext k
  by_contra hchain
  obtain ⟨r, hr, hmember⟩ := (Option.any_eq_true _ _).mp (Bool.eq_true_of_not_eq_false hchain)
  simp only [cond_iff, Bool.or_eq_true] at hmember
  obtain ⟨hrecognized, hroot⟩ := hmember
  obtain ⟨hmem, hid⟩ := find?_eq_some.mp hr
  -- Either it is the run itself, or the run is the source of an adjustment.
  have hroot' : run.status.recognized = true := by
    rcases hroot with hself | hsource
    · obtain rfl : r = run :=
        mem_unique (find?_of_mem hmem) (hself ▸ hfind)
      exact hrecognized
    · obtain ⟨s, hs, _, _, hrecognized'⟩ := hb.sources r hmem rootId hsource
      obtain rfl := mem_unique hs hfind
      exact hrecognized'
  rw [hrun] at hroot'
  cases hroot'

lemma inChain_disjoint {source root : Payroll.PayrollRun} (hsource : b.runs.find? k = some source)
    (hregular : source.adjustmentOfRunId = none) (hroot : b.runs.find? rootId = some root)
    (hregular' : root.adjustmentOfRunId = none) (hne : k ≠ rootId) {runId : ℕ}
    (hchain : b.inChain k runId = true) : b.inChain rootId runId = false := by
  by_contra hother
  obtain ⟨r, hr, hmember⟩ := (Option.any_eq_true _ _).mp hchain
  obtain ⟨r', hr', hmember'⟩ := (Option.any_eq_true _ _).mp (Bool.eq_true_of_not_eq_false hother)
  obtain rfl := mem_unique hr hr'
  simp only [cond_iff, Bool.or_eq_true] at hmember hmember'
  have hmem := (find?_eq_some.mp hr).1
  rcases hmember.2 with rfl | hadjusts <;> rcases hmember'.2 with rfl | hadjusts'
  · exact hne rfl
  · obtain rfl := mem_unique (find?_of_mem hmem) hsource
    rw [hregular] at hadjusts'
    cases hadjusts'
  · obtain rfl := mem_unique (find?_of_mem hmem) hroot
    rw [hregular'] at hadjusts
    cases hadjusts
  · exact hne (mem_unique hadjusts hadjusts')

section Posting

variable (h : PostedRun scope ids run db db')
include h

lemma posted_not_recognized : run.status.recognized = false := by
  rw [h.approved]
  rfl

lemma posted_not_inChain : db.payrollBooks.inChain rootId run.id = false :=
  inChain_of_not_recognized (b := db.payrollBooks) (find?_of_mem h.found)
    (posted_not_recognized h)

lemma posted_inChain_of_ne (hself : run.id ≠ rootId) (hsource : run.adjustmentOfRunId ≠ some rootId) :
    db'.payrollBooks.inChain rootId = db.payrollBooks.inChain rootId := by
  funext k
  rw [h.inChain]
  split
  next hk =>
    rw [hk, posted_not_inChain h]
    simp [hself, hsource]
  next => rfl

lemma posted_inChain_of_eq (hjoin : run.id = rootId ∨ run.adjustmentOfRunId = some rootId) :
    db'.payrollBooks.inChain rootId k =
      (decide (k = run.id) || db.payrollBooks.inChain rootId k) := by
  rw [h.inChain]
  split
  next hk => rcases hjoin with hjoin | hjoin <;> simp [hk, hjoin]
  next hk => simp [hk]

lemma posted_root_before {root : Payroll.PayrollRun} (hroot : root ∈ db'.payroll.runs)
    (hstatus : root.status.recognized = true) :
    (root.id = run.id ∧ root.adjustmentOfRunId = run.adjustmentOfRunId) ∨
      ∃ r ∈ db.payroll.runs, r.id = root.id ∧ r.adjustmentOfRunId = root.adjustmentOfRunId ∧
        r.status.recognized = true ∧ r.companyId = root.companyId ∧ r.branchId = root.branchId := by
  obtain ⟨t, status, hmoved, _, hruns⟩ := h.runs
  rw [hruns] at hroot
  rcases mem_put.mp hroot with rfl | ⟨hroot, _⟩
  · exact .inl ⟨rfl, rfl⟩
  · obtain ⟨r, hr, status', rfl, hmove⟩ := hmoved.mem hroot
    exact .inr ⟨r, hr, rfl, rfl, hmove.statusMove.recognized.symm.trans hstatus, rfl, rfl⟩

end Posting

namespace AdjustmentPosted

variable {source x : Payroll.PayrollRun} (h : AdjustmentPosted scope source run db db')
  (hb : db.payrollBooks.Booked)
include h

lemma inChain_source : db.payrollBooks.inChain source.id source.id = true := by
  change (db.payroll.runs.find? source.id).any _ = _
  rw [h.source_found, Option.any_some, h.source_recognized]
  simp

include hb

/-- An adjustment looks at all runs of the chain: it is the last one of its source. -/
lemma mem_recognitionRuns : x ∈ db.recognitionRuns scope source run ↔
    x ∈ db.payroll.runs ∧ db.payrollBooks.inChain source.id x.id = true := by
  have hchain (hx : x ∈ db.payroll.runs) : db.payrollBooks.inChain source.id x.id = true ↔
      x.status.recognized = true ∧ (x.id = source.id ∨ x.adjustmentOfRunId = some source.id) := by
    change (db.payroll.runs.find? x.id).any _ = true ↔ _
    rw [find?_of_mem hx, Option.any_some]
    simp
  constructor
  · intro hx
    rcases mem_cons.mp hx with rfl | hx
    · exact ⟨(find?_eq_some.mp h.source_found).1, h.inChain_source⟩
    · obtain ⟨hmem, hfilter⟩ := Table.mem_findSorted.mp hx
      simp only [cond_iff] at hfilter
      exact ⟨hmem, (hchain hmem).mpr ⟨hfilter.2, .inr hfilter.1.1.1.2⟩⟩
  · rintro ⟨hx, hin⟩
    obtain ⟨hrecognized, hid | hadjusts⟩ := (hchain hx).mp hin
    · obtain rfl := mem_unique (find?_of_mem hx) (hid ▸ h.source_found)
      exact mem_cons_self
    · refine mem_cons_of_mem _ (Table.mem_findSorted.mpr ⟨hx, ?_⟩)
      obtain ⟨s, hs, ⟨hcompany, hbranch⟩, _⟩ := hb.sources x hx source.id hadjusts
      obtain ⟨s', hs', ⟨hcompany', hbranch'⟩, _⟩ := hb.sources run h.found source.id h.adjusts
      obtain rfl := mem_unique hs hs'
      have hne : x.id ≠ run.id := by
        intro hid
        obtain rfl := eq_of_key_eq hx h.found hid
        rw [posted_not_recognized h.toPostedRun] at hrecognized
        cases hrecognized
      have hlast := hb.last run h.found x hx source.id h.adjusts hadjusts
        (by rw [h.approved]; rfl) hne
      simp [← hcompany, ← hbranch, hcompany', hbranch', h.company, h.branch, hadjusts, hne, hlast, hrecognized]

lemma mem_ids : k ∈ (db.recognitionRuns scope source run).map Payroll.PayrollRun.id ↔
    db.payrollBooks.inChain source.id k = true := by
  constructor
  · intro hk
    obtain ⟨x, hx, rfl⟩ := mem_map.mp hk
    exact ((h.mem_recognitionRuns hb).mp hx).2
  · intro hk
    obtain ⟨x, hx, _⟩ := (Option.any_eq_true _ _).mp hk
    obtain ⟨hmem, rfl⟩ := find?_eq_some.mp hx
    exact mem_map_of_mem ((h.mem_recognitionRuns hb).mpr ⟨hmem, hk⟩)

lemma perm_recognitionRuns : (db.recognitionRuns scope source run).Perm
    (db.payroll.runs.findMany fun r => db.payrollBooks.inChain source.id r.id) := by
  refine (List.perm_ext_iff_of_nodup ?_ ?_).mpr fun x => ?_
  · refine nodup_cons.mpr ⟨fun hx => ?_, (Table.nodup_findSorted _ _ _).of_map⟩
    obtain ⟨_, hfilter⟩ := Table.mem_findSorted.mp hx
    simp [h.source_regular] at hfilter
  · exact (Table.nodup_findMany _ _).of_map
  · rw [mem_findMany]
    exact h.mem_recognitionRuns hb

end AdjustmentPosted

/-! ### The first payroll -/

def PayrollBooks.empty : PayrollBooks := ⟨.empty, .empty, .empty⟩

lemma PayrollBooks.booked_empty : PayrollBooks.empty.Booked where
  results := fun _ hx => absurd hx (not_mem_empty _)
  payments := fun _ hp => absurd hp (not_mem_empty _)
  sources := fun _ hr => absurd hr (not_mem_empty _)
  sequence := fun _ hr => absurd hr (not_mem_empty _)
  last := fun _ hr => absurd hr (not_mem_empty _)
  totals := fun _ hr => absurd hr (not_mem_empty _)

def firstPayroll : FinanceDb :=
  { FinanceDb.empty with
    nextId := 1
    procurement := { FinanceDb.empty.procurement with
      ledger := { AccountingDb.empty with
        postingRules := ((Table.empty.put
          { id := 1, companyId := 1, code := "PAYROLL_POSTED", eventType := "PAYROLL_POSTED"
            status := .active
            journalLines := [
              { accountCodeKey := "payrollExpense", side := "DEBIT", amountKey := "payrollExpense" },
              { accountCodeKey := "salaryPayable", side := "CREDIT", amountKey := "salaryPayable" },
              { accountCodeKey := "payrollTaxPayable", side := "CREDIT",
                amountKey := "payrollTaxPayable" }] }).put
          (grossRule 2 "PAYROLL_SALARY_PAYMENT" "salaryPayable" "settlement")).put
            (grossRule 3 "TAX_PAYMENT" "taxPayable" "settlement")
        accounts := (((((Table.empty.put ⟨1, 1, "6101", true⟩).put ⟨2, 1, "2102", true⟩).put
          ⟨3, 1, "2103", true⟩).put ⟨4, 1, "2104", true⟩).put ⟨5, 1, "1104", true⟩).put
            ⟨6, 1, "1101", true⟩ } }
    payroll := { FinanceDb.empty.payroll with
      employees := Payroll.twoEmployees.employees
      periods := Payroll.twoEmployees.periods }
    accountType := fun key => if key.2 = "2103" then .liability else .asset
    accountingMappings :=
      ((((Table.empty.put ⟨1, 1, none, "__PAYROLL_EXPENSE__", some 1, none, true⟩).put
        ⟨2, 1, none, "__SALARY_PAYABLE__", none, some 2, true⟩).put
          ⟨3, 1, none, "__PAYROLL_TAX_PAYABLE__", none, some 3, true⟩).put
            ⟨4, 1, none, "__PAYROLL_OTHER_PAYABLE__", none, some 4, true⟩).put
              ⟨5, 1, none, "__PAYROLL_RECEIVABLE__", some 5, none, true⟩ }

def afterCalls (calls : List PayrollCall) (db : FinanceDb) : FinanceDb :=
  leftBy (calls.forM PayrollCall.tx) db

lemma chainRun_of_calls {calls : List PayrollCall}
    (h : (execute (calls.forM PayrollCall.tx) db).1.isOk = true) :
    Run ChainStep db (calls.map .payroll) (afterCalls calls db) := by
  obtain ⟨_, hcommits⟩ := commits_leftBy (calls.forM PayrollCall.tx) db h
  exact (commits_forM_iff_run.mp hcommits).map fun _ _ _ => .payroll

end Mayatoko.Finance
