import Mathlib.Algebra.BigOperators.Pi
import Mayatoko.Finance.PayrollChains

/-!
# What a payroll chain pays out

For every employee of a chain the payments that are not cancelled, less what is recovered, are the
net pay of the results in the chain. A reduction moves money between payments of earlier runs and a
recovery of the adjustment, so this holds of a chain and not of a run. The journal that an adjustment
writes has equal sides.
-/

namespace Mayatoko.Finance

open Core Accounting Transit Procurement FinanceDb

namespace PayrollBooks

variable (b : PayrollBooks)

/-- The payments of a chain to an employee that are not cancelled. -/
def outbound (rootId employeeId : ℕ) : ℚ :=
  ((b.payments.findMany fun p => b.inChain rootId p.payrollRunId && p.employeeId = employeeId &&
    p.direction = .outbound && p.status ≠ .cancelled).map PayrollPayment.amount).sum

def recovery (rootId employeeId : ℕ) : ℚ :=
  ((b.payments.findMany fun p => b.inChain rootId p.payrollRunId && p.employeeId = employeeId &&
    p.direction = .recovery).map PayrollPayment.amount).sum

def netPay (rootId employeeId : ℕ) : ℚ :=
  ((b.results.findMany fun x =>
    b.inChain rootId x.payrollRunId && x.employeeId = employeeId).map fun x => x.netPay).sum

def ChainsConserved : Prop :=
  ∀ root ∈ b.runs, root.adjustmentOfRunId = none → root.status.recognized = true →
    ∀ employeeId, b.outbound root.id employeeId - b.recovery root.id employeeId =
      b.netPay root.id employeeId

end PayrollBooks

def AdjustmentJournal (db : FinanceDb) (e : ChainEvent) (db' : FinanceDb) : Prop :=
  ∀ scope runId run, e = .payroll (.postAccounting scope runId) →
    db.payroll.runs.find? runId = some run → run.adjustmentOfRunId ≠ none →
      run.status.recognized = false →
        ∃ entry, JournalAdded entry db.procurement.ledger db'.procurement.ledger ∧
          (db'.postingOf runId).postedJournalEntryId = some entry.id

variable {b b' : PayrollBooks} {db db' : FinanceDb} {scope : TenantScope} {rootId k : ℕ}
  {run : Payroll.PayrollRun} {ids : List ℕ}

lemma paidOut_apply (employeeId : ℕ) : paidOut (b.inChain rootId) b.payments employeeId =
      b.outbound rootId employeeId - b.recovery rootId employeeId := by
  rw [eq_sub_iff_add_eq]
  simp only [PayrollBooks.outbound, PayrollBooks.recovery, Table.sum_findMany]
  unfold paidOut Table.sum
  rw [Pi.list_sum_apply, map_map, ← List.sum_map_add]
  refine congrArg List.sum (map_congr_left fun p _ => ?_)
  by_cases hchain : b.inChain rootId p.payrollRunId = true
  · by_cases he : p.employeeId = employeeId
    · cases hd : p.direction with
      | outbound => by_cases hs : p.status = .cancelled <;> simp [hchain, he, hd, hs, PayrollPayment.signed]
      | recovery => simp [hchain, he, hd, PayrollPayment.signed]
    · simp [hchain, he, Ne.symm he]
  · simp [hchain]

lemma netPayOf_apply (employeeId : ℕ) :
    netPayOf (b.inChain rootId) b.results employeeId = b.netPay rootId employeeId := by
  simp only [netPayOf, PayrollBooks.netPay, Table.sum_findMany]
  unfold Table.sum
  rw [Pi.list_sum_apply, map_map]
  refine congrArg List.sum (map_congr_left fun x _ => ?_)
  by_cases hchain : b.inChain rootId x.payrollRunId = true
  · by_cases he : x.employeeId = employeeId
    · simp [hchain, he]
    · simp [hchain, he, Ne.symm he]
  · simp [hchain]

lemma chainsConserved_iff : b.ChainsConserved ↔ ∀ root ∈ b.runs, root.adjustmentOfRunId = none →
    root.status.recognized = true →
      paidOut (b.inChain root.id) b.payments = netPayOf (b.inChain root.id) b.results := by
  simp only [funext_iff, paidOut_apply, netPayOf_apply]
  rfl

/-! ### Steps -/

lemma conserved_moved (hb : b.ChainsConserved) (h : BooksMoved b b') : b'.ChainsConserved := by
  rw [chainsConserved_iff] at hb ⊢
  intro root' hroot hregular hstatus
  obtain ⟨root, hmem, status, rfl, hmove⟩ := h.runs.mem hroot
  rw [inChain_moved h.runs, h.paid, h.results]
  exact hb root hmem hregular (hmove.recognized.symm.trans hstatus)

lemma conserved_created (hb : b.ChainsConserved) (h : RunCreated b run b') : b'.ChainsConserved := by
  rw [chainsConserved_iff] at hb ⊢
  intro root hroot hregular hstatus
  rw [h.inChain]
  rw [h.books] at hroot ⊢
  rcases mem_put.mp hroot with rfl | ⟨hroot, _⟩
  · rw [h.new.status] at hstatus
    cases hstatus
  · exact hb root hroot hregular hstatus

lemma conserved_calculated {i : Payroll.RunInputs} {run' : Payroll.PayrollRun} {p : Payroll.PayrollDb}
    (hb : db.payrollBooks.ChainsConserved) (h : Payroll.Calculated i db.payroll run' p)
    (hopen : i.run.status = .draft ∨ i.run.status = .review) :
    ({ db with payroll := p } : FinanceDb).payrollBooks.ChainsConserved := by
  rw [chainsConserved_iff] at hb ⊢
  intro root hroot hregular hstatus
  have hdraft : i.run.status.recognized = false := by
    rcases hopen with hs | hs <;> rw [hs] <;> rfl
  have hreview : run'.status = .review := by rw [h.updated]
  have hne : root.id ≠ i.run.id := by
    intro hid
    have hfind : p.runs.find? root.id = some run' := hid ▸ h.find?_run'
    obtain rfl := mem_unique (find?_of_mem hroot) hfind
    rw [hreview] at hstatus
    cases hstatus
  have hfind := find?_of_mem hroot
  change p.runs.find? root.id = some root at hfind
  rw [h.find?_of_ne hne] at hfind
  rw [inChain_calculated h hopen]
  refine (hb root (find?_eq_some.mp hfind).1 hregular hstatus).trans ?_
  exact (netPayOf_perm (perm_findMany_of_calculated h
    (inChain_of_not_recognized (b := db.payrollBooks) h.found hdraft))).symm

section Posting

variable (h : PostedRun scope ids run db db')
include h

lemma conserved_joined (hb : db.payrollBooks.Booked)
    (hjoin : run.id = rootId ∨ run.adjustmentOfRunId = some rootId)
    (hids : ∀ k ∈ ids, db.payrollBooks.inChain rootId k = true)
    (hbefore : paidOut (db.payrollBooks.inChain rootId) db.payrollPayments =
      netPayOf (db.payrollBooks.inChain rootId) db.payroll.results) :
    paidOut (db'.payrollBooks.inChain rootId) db'.payrollPayments =
      netPayOf (db'.payrollBooks.inChain rootId) db'.payroll.results := by
  have hinsert := fun k => posted_inChain_of_eq h (k := k) hjoin
  have hpayments : paidOut (db'.payrollBooks.inChain rootId) db.payrollPayments =
      paidOut (db.payrollBooks.inChain rootId) db.payrollPayments := by
    refine paidOut_congr fun p hp => ?_
    have hne : p.payrollRunId ≠ run.id := by
      intro hid
      obtain ⟨r, hfind, hrecognized⟩ := hb.payments p hp
      rw [hid] at hfind
      obtain rfl := mem_unique (find?_of_mem h.found) hfind
      rw [posted_not_recognized h] at hrecognized
      cases hrecognized
    rw [hinsert, decide_eq_false hne, Bool.false_or]
  rw [h.inside _ (by simp [hinsert]) fun k hk => by simp [hinsert, hids k hk], hpayments, hbefore, h.results]
  exact (netPayOf_insert (posted_not_inChain h) hinsert).symm

/-- A posting keeps the chains right: it adds its run to one of them, and the runs `ids` are of that
one. -/
lemma conserved_posted (hb : db.payrollBooks.Booked) (hc : db.payrollBooks.ChainsConserved)
    (hregular : run.adjustmentOfRunId = none → ids = [])
    (hinside : ∀ rootId, run.adjustmentOfRunId = some rootId → ∀ k ∈ ids,
      db.payrollBooks.inChain rootId k = true)
    (houtside : ∀ root ∈ db.payroll.runs, root.adjustmentOfRunId = none →
      run.adjustmentOfRunId ≠ some root.id → ∀ k ∈ ids, db.payrollBooks.inChain root.id k = false) :
    db'.payrollBooks.ChainsConserved := by
  rw [chainsConserved_iff] at hc ⊢
  intro root hroot hroot_regular hstatus
  rcases posted_root_before h hroot hstatus with ⟨hid, hsource⟩ | ⟨r, hr, hid, hsource, hrecognized, _⟩
  · -- The run is the root of a new chain.
    have hrun := hsource.symm.trans hroot_regular
    refine conserved_joined h hb (Or.inl hid.symm) (by simp [hregular hrun]) ?_
    rw [inChain_empty hb (hid ▸ find?_of_mem h.found) (posted_not_recognized h)]
    simp [paidOut, netPayOf, Table.sum, Table.findMany]
  · rw [← hid]
    have hbefore := hc r hr (hsource.trans hroot_regular) hrecognized
    by_cases hjoin : run.adjustmentOfRunId = some r.id
    · exact conserved_joined h hb (Or.inr hjoin) (hinside r.id hjoin) hbefore
    · have hne : run.id ≠ r.id := by
        intro hrun
        obtain rfl := eq_of_key_eq h.found hr hrun
        rw [posted_not_recognized h] at hrecognized
        cases hrecognized
      rw [posted_inChain_of_ne h hne hjoin]
      change _ = netPayOf _ db'.payroll.results
      rw [h.results]
      exact (h.outside _ (posted_not_inChain h)
        (houtside r hr (hsource.trans hroot_regular) hjoin)).trans hbefore

end Posting

lemma conserved_adjustment {source : Payroll.PayrollRun} (hb : db.payrollBooks.Booked)
    (hc : db.payrollBooks.ChainsConserved) (h : AdjustmentPosted scope source run db db') :
    db'.payrollBooks.ChainsConserved := by
  refine conserved_posted h.toPostedRun hb hc (fun hregular => ?_) (fun rootId hjoin k hk => ?_)
    fun root hroot hregular hjoin k hk => ?_
  · rw [h.adjusts] at hregular
    cases hregular
  · obtain rfl := mem_unique h.adjusts hjoin
    exact (h.mem_ids hb).mp hk
  · refine inChain_disjoint (b := db.payrollBooks) h.source_found h.source_regular
      (find?_of_mem hroot) hregular (fun hid => ?_) ((h.mem_ids hb).mp hk)
    exact hjoin (hid ▸ h.adjusts)

/-! ### Runs -/

lemma PayrollPrepared.conserved (hc : db.payrollBooks.ChainsConserved) (h : PayrollPrepared db db') :
    db'.payrollBooks.ChainsConserved := by
  cases h with
  | moved _ h => exact conserved_moved hc h
  | created _ h => exact conserved_created hc h
  | calculated h hopen => exact conserved_calculated hc h hopen

lemma PayrollWrote.conserved (hb : db.payrollBooks.Booked) (hc : db.payrollBooks.ChainsConserved)
    (h : PayrollWrote db db') : db'.payrollBooks.ChainsConserved := by
  cases h with
  | prepared h => exact h.conserved hc
  | regular hregular h =>
    refine conserved_posted h hb hc (fun _ => rfl) ?_ ?_
    · intro _ _ k hk
      cases hk
    · intro _ _ _ _ k hk
      cases hk
  | adjustment h => exact conserved_adjustment hb hc h

variable {e : ChainEvent}

lemma ChainStep.conserved (hb : db.payrollBooks.Booked) (hc : db.payrollBooks.ChainsConserved)
    (h : ChainStep db e db') : db'.payrollBooks.ChainsConserved := by
  cases h with
  | payroll hcall => exact (PayrollCall.wrote hb hcall).conserved hb hc
  | finance hcall =>
    rw [(FinanceCall.wrote hcall).payrollBooks]
    exact hc
  | elsewhere hbooks =>
    rw [hbooks]
    exact hc

lemma ChainStep.adjustmentJournal (hb : db.payrollBooks.Booked) (h : ChainStep db e db') :
    AdjustmentJournal db e db' := by
  rintro scope runId run rfl hfind hadjusts hstatus
  cases h with
  | payroll hcall =>
    obtain ⟨_, hpost, _⟩ := commits_bind_pure.mp hcall
    obtain ⟨run', hfind', hcases⟩ := postAccounting_commits hb hpost
    obtain rfl := mem_unique hfind hfind'
    rcases hcases with ⟨hrecognized, _⟩ | ⟨hregular, _⟩ | ⟨source, hposted⟩
    · rw [hstatus] at hrecognized
      cases hrecognized
    · exact absurd hregular hadjusts
    · obtain rfl := (find?_eq_some.mp hfind).2
      exact hposted.journal

lemma PayrollBooks.conserved_empty : PayrollBooks.empty.ChainsConserved :=
  fun _ hr => absurd hr (not_mem_empty _)

/-- From the first payroll on, every chain pays out the net pay of its employees, and the journals of
the adjustments have equal sides. -/
theorem payrollChains_conserved {es : List ChainEvent} (hempty : db.payrollBooks = .empty)
    (h : Run ChainStep db es db') :
    Run (fun s e s' => ChainStep s e s' ∧ s'.payrollBooks.ChainsConserved ∧ AdjustmentJournal s e s')
      db es db' := by
  refine h.and_of_invariant (I := fun s => s.payrollBooks.Booked ∧ s.payrollBooks.ChainsConserved) ?_ ?_ ?_
  · exact fun _ _ _ hs hstep => ⟨hstep.booked hs.1, hstep.conserved hs.1 hs.2⟩
  · exact fun _ _ _ hs hstep => ⟨hstep.conserved hs.1 hs.2, hstep.adjustmentJournal hs.1⟩
  · rw [hempty]
    exact ⟨PayrollBooks.booked_empty, PayrollBooks.conserved_empty⟩

def lowered : List PayrollCall :=
  [.createRun headOffice ⟨1, none, none⟩,
    .calculateRun headOffice 1 fun _ => Payroll.salary 100,
    .approveRun headOffice 1,
    .postAccounting headOffice 1,
    .settlePayment headOffice (1, 1) ⟨"1101", "CASH", none, none⟩,
    .createAdjustmentRun headOffice 1 {},
    .calculateRun headOffice 2 fun _ => Payroll.salary 60,
    .approveRun headOffice 2,
    .postAccounting headOffice 2]

theorem payrollChains_conserved_lowered :
    Run (fun s e s' => ChainStep s e s' ∧ s'.payrollBooks.ChainsConserved ∧ AdjustmentJournal s e s')
        firstPayroll (lowered.map .payroll) (afterCalls lowered firstPayroll) ∧
      (afterCalls lowered firstPayroll).payrollBooks.outbound 1 1 = 100 ∧
      (afterCalls lowered firstPayroll).payrollBooks.recovery 1 1 = 40 ∧
      (afterCalls lowered firstPayroll).payrollBooks.outbound 1 2 = 60 :=
  ⟨payrollChains_conserved rfl (chainRun_of_calls (by decide +kernel)), by decide +kernel,
    by decide +kernel, by decide +kernel⟩

end Mayatoko.Finance
