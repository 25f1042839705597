import Mayatoko.Accounting.StoredJournal
import Mayatoko.Finance.PayrollFacts

/-!
# What a posting does

The payments of a posting are followed through its loops. A reduction takes from the payments of the
recognised runs; what it takes and what is recovered come to the negative net pay. The posting of a
run then adds the net pay of its results to what the chain pays out.
-/

namespace Mayatoko.Finance

open Core Accounting Transit Procurement FinanceDb

variable {db db' : FinanceDb} {scope : TenantScope} {runId k : ℕ} {run r : Payroll.PayrollRun} {u : Unit}
  {i : PostingInputs} {c : ℕ → Bool} {ids : List ℕ}

def PaymentDirection.signed (d : PaymentDirection) (amount : ℚ) : ℚ :=
  match d with
  | .outbound => amount
  | .recovery => -amount

/-- The payments of a loop over results that have none. -/
lemma upsertPayments_commits {α : Type} {l : List α} {x : α → Payroll.PayrollResult} {method : String}
    {d : PaymentDirection} {v : α → ℚ} {f : α → PayrollPayment → PayrollPayment}
    (h : Commits (l.forM fun a => upsertPayment i (x a) method d (v a) (f a)) db u db')
    (hnodup : (l.map fun a => (x a).employeeId).Nodup)
    (hfresh : ∀ a ∈ l, db.payrollPayments.find? (i.run.id, (x a).employeeId) = none) :
    (∃ payments, db' = { db with payrollPayments := payments }) ∧
      (∀ p ∈ db'.payrollPayments, p ∈ db.payrollPayments ∨ p.payrollRunId = i.run.id) ∧
      (∀ e, (∀ a ∈ l, (x a).employeeId ≠ e) →
        db'.payrollPayments.find? (i.run.id, e) = db.payrollPayments.find? (i.run.id, e)) ∧
      ∀ c, paidOut c db'.payrollPayments = paidOut c db.payrollPayments +
        if c i.run.id then
          (l.map fun a => Pi.single (x a).employeeId (d.signed (v a))).sum else 0 := by
  induction l generalizing db with
  | nil =>
    obtain rfl := commits_forM_nil.mp h
    exact ⟨⟨_, rfl⟩, fun _ hp => .inl hp, fun _ _ => rfl, fun c => by simp⟩
  | cons a l ih =>
    obtain ⟨t, hhead, htail⟩ := commits_forM_cons.mp h
    simp only [upsertPayment, commits_bind, commits_get, TableOf.commits_upsert, commits_pure] at hhead
    obtain ⟨_, _, ⟨rfl, rfl⟩, row, _, ⟨hrow, rfl⟩, _, rfl⟩ := hhead
    change row = Option.elim (db.payrollPayments.find? (i.run.id, (x a).employeeId)) _ _ at hrow
    have hnone := hfresh a mem_cons_self
    rw [hnone, Option.elim_none] at hrow
    have hkey : row.payrollResultId = (i.run.id, (x a).employeeId) := by rw [hrow]; rfl
    have hrun : row.payrollRunId = i.run.id := congrArg Prod.fst hkey
    have hemployee : row.employeeId = (x a).employeeId := congrArg Prod.snd hkey
    have hsigned : row.signed = d.signed (v a) := by
      rw [hrow]
      cases d <;> rfl
    obtain ⟨hnot, hnodup⟩ := nodup_cons.mp hnodup
    obtain ⟨⟨payments, rfl⟩, hmem, hothers, hsum⟩ := ih htail hnodup fun a' ha' => by
      refine (find?_put_of_ne db.payrollPayments (r := row) ?_).trans (hfresh a' (mem_cons_of_mem a ha'))
      rw [hkey]
      intro heq
      exact hnot (mem_map.mpr ⟨a', ha', congrArg Prod.snd heq⟩)
    refine ⟨⟨payments, rfl⟩, fun p hp => ?_, fun e he => ?_, fun c => ?_⟩
    · rcases hmem p hp with hp | hid
      · rcases mem_put.mp hp with rfl | ⟨hp, _⟩
        · exact .inr hrun
        · exact .inl hp
      · exact .inr hid
    · rw [forall_mem_cons] at he
      refine (hothers e he.2).trans (find?_put_of_ne db.payrollPayments (r := row) ?_)
      rw [hkey]
      exact fun heq => he.1 (congrArg Prod.snd heq).symm
    · have hput : paidOut c (db.payrollPayments.put row) = paidOut c db.payrollPayments +
          if c i.run.id then Pi.single (x a).employeeId (d.signed (v a)) else 0 := by
        refine (Table.sum_put_of_not_mem (find?_eq_none.mp ?_) _).trans ?_
        · rw [hkey]
          exact hnone
        · rw [hrun, hemployee, hsigned]
          rfl
      refine (hsum c).trans ?_
      change paidOut c (db.payrollPayments.put row) + _ = _
      rw [hput, map_cons, sum_cons, add_assoc]
      congr 1
      split
      · rfl
      · exact add_zero 0

/-! ### Reductions -/

structure PayrollPayment.Reducible (p : PayrollPayment) (employeeId : ℕ) (ids : List ℕ) : Prop where
  employee : p.employeeId = employeeId
  run : p.payrollRunId ∈ ids
  direction : p.direction = .outbound
  status : p.status = .pending ∨ p.status = .failed

lemma reducedTo_key (nextAmount : ℚ) (p : PayrollPayment) :
    (p.reducedTo nextAmount).payrollResultId = p.payrollResultId ∧
      (p.reducedTo nextAmount).payrollRunId = p.payrollRunId ∧
        (p.reducedTo nextAmount).employeeId = p.employeeId := by
  unfold PayrollPayment.reducedTo
  split
  · exact ⟨rfl, rfl, rfl⟩
  · exact ⟨rfl, rfl, rfl⟩

namespace PayrollPayment.Reducible

variable {p : PayrollPayment} {employeeId : ℕ}

lemma signed (h : p.Reducible employeeId ids) : p.signed = p.amount := by
  rw [PayrollPayment.signed, h.direction]
  rcases h.status with hs | hs <;> rw [hs] <;> rfl

lemma signed_reducedTo (h : p.Reducible employeeId ids) (nextAmount : ℚ) :
    (p.reducedTo nextAmount).signed = nextAmount := by
  unfold PayrollPayment.reducedTo
  split
  next hzero =>
    rw [hzero, PayrollPayment.signed, h.direction]
    rfl
  next =>
    rw [PayrollPayment.signed, h.direction]
    rcases h.status with hs | hs <;> rw [hs] <;> rfl

end PayrollPayment.Reducible

/-- What is taken from payments is what is no longer needed. -/
lemma reducePayments_commits {pending : List PayrollPayment} {needed stillNeeded : ℚ} {employeeId : ℕ}
    (h : Commits (reducePayments pending needed) db stillNeeded db')
    (hpending : ∀ p ∈ pending, p ∈ db.payrollPayments ∧ p.Reducible employeeId ids)
    (hnodup : (pending.map PayrollPayment.payrollResultId).Nodup) (hneeded : 0 ≤ needed) :
    0 ≤ stillNeeded ∧ (∃ payments, db' = { db with payrollPayments := payments }) ∧
      (∀ p ∈ db'.payrollPayments, ∃ q ∈ db.payrollPayments, q.payrollRunId = p.payrollRunId) ∧
      (∀ c, (∀ k ∈ ids, c k = true) → paidOut c db'.payrollPayments =
        paidOut c db.payrollPayments + Pi.single employeeId (stillNeeded - needed)) ∧
      ∀ c, (∀ k ∈ ids, c k = false) →
        paidOut c db'.payrollPayments = paidOut c db.payrollPayments := by
  induction pending generalizing db needed with
  | nil =>
    obtain ⟨rfl, rfl⟩ := commits_pure.mp h
    exact ⟨hneeded, ⟨_, rfl⟩, fun p hp => ⟨p, hp, rfl⟩, fun c _ => by simp, fun _ _ => rfl⟩
  | cons p pending ih =>
    simp only [reducePayments, commits_ite, commits_steps, TableOf.commits_update] at h
    obtain ⟨_, rfl, rfl⟩ | ⟨_, _, _, ⟨o, ho, _, rfl⟩, hrest⟩ := h
    · exact ⟨hneeded, ⟨_, rfl⟩, fun p hp => ⟨p, hp, rfl⟩, fun c _ => by simp, fun _ _ => rfl⟩
    · obtain ⟨hmem, hp⟩ := hpending p mem_cons_self
      obtain rfl : o = p := mem_unique ho (find?_of_mem hmem)
      set applied := if o.amount < needed then o.amount else needed with happlied
      have hle : applied ≤ needed := by
        rw [happlied]
        split
        · exact le_of_lt ‹_›
        · exact le_refl _
      set row := o.reducedTo (o.amount - applied)
      obtain ⟨hrowKey, hrowRun, hrowEmployee⟩ := reducedTo_key (o.amount - applied) o
      have hdiff : row.signed - o.signed = -applied := by
        rw [hp.signed_reducedTo, hp.signed]
        ring
      have hput (c : ℕ → Bool) : paidOut c (db.payrollPayments.put row) = paidOut c db.payrollPayments +
            if c o.payrollRunId then Pi.single employeeId (-applied) else 0 := by
        refine (Table.sum_put_of_mem hmem hrowKey.symm _).trans ?_
        rw [hrowRun, hrowEmployee, hp.employee]
        congr 1
        split
        · rw [← Pi.single_sub, hdiff]
        · exact sub_self 0
      obtain ⟨hnot, hnodup⟩ := nodup_cons.mp hnodup
      obtain ⟨hnonneg, ⟨payments, rfl⟩, hruns, hinside, houtside⟩ :=
        ih hrest (fun q hq => by
          obtain ⟨hq', hred⟩ := hpending q (mem_cons_of_mem o hq)
          refine ⟨mem_put.mpr (Or.inr ⟨hq', fun hkey => ?_⟩), hred⟩
          exact hnot (mem_map.mpr ⟨q, hq, hkey.trans hrowKey⟩)) hnodup (sub_nonneg.mpr hle)
      refine ⟨hnonneg, ⟨payments, rfl⟩, fun q hq => ?_, fun c hc => ?_, fun c hc => ?_⟩
      · obtain ⟨q', hq', hid⟩ := hruns q hq
        rcases mem_put.mp hq' with rfl | ⟨hq', _⟩
        · exact ⟨o, hmem, hrowRun.symm.trans hid⟩
        · exact ⟨q', hq', hid⟩
      · refine (hinside c hc).trans ?_
        change paidOut c (db.payrollPayments.put row) + _ = _
        rw [hput, if_pos (hc _ hp.run), add_assoc, ← Pi.single_add]
        congr 2
        ring
      · refine (houtside c hc).trans ?_
        change paidOut c (db.payrollPayments.put row) = _
        rw [hput, if_neg (by rw [hc _ hp.run]; simp), add_zero]

def Reduction.recovered (r : Reduction) : ℕ → ℚ :=
  (r.recoveryByResult.map fun x => Pi.single x.1.employeeId x.2).sum

/-- What the loop over some results has taken from the payments of the runs `ids`, or leaves to be
recovered. -/
structure Reduced (ids : List ℕ) (l : List Payroll.PayrollResult) (db : FinanceDb) (r r' : Reduction)
    (db' : FinanceDb) : Prop where
  writes : ∃ payments, db' = { db with payrollPayments := payments }
  kept : ∀ p ∈ db'.payrollPayments, ∃ q ∈ db.payrollPayments, q.payrollRunId = p.payrollRunId
  recovery : ∃ new, r'.recoveryByResult = r.recoveryByResult ++ new ∧ (new.map Prod.fst).Sublist l
  inside : ∀ c, (∀ k ∈ ids, c k = true) → paidOut c db'.payrollPayments - r'.recovered =
    paidOut c db.payrollPayments - r.recovered +
      (l.map fun x => Pi.single x.employeeId x.netPay).sum
  outside : ∀ c, (∀ k ∈ ids, c k = false) →
    paidOut c db'.payrollPayments = paidOut c db.payrollPayments

lemma recoverRest_commits {x : Payroll.PayrollResult} {stillNeeded : ℚ} {r r' : Reduction}
    (h : Commits (recoverRest i x stillNeeded r) db r' db') :
    db = db' ∧ r'.recoveryByResult =
      r.recoveryByResult ++ if 0 < stillNeeded then [(x, stillNeeded)] else [] := by
  simp only [recoverRest, commits_ite, commits_steps] at h
  obtain ⟨hpos, _, rfl, rfl⟩ | ⟨hpos, rfl, rfl⟩ := h
  · rw [if_pos hpos]
    exact ⟨rfl, rfl⟩
  · rw [if_neg hpos, append_nil]
    exact ⟨rfl, rfl⟩

lemma reduceSalary_commits {x : Payroll.PayrollResult} {r r' : Reduction} (hx : x.netPay < 0)
    (h : Commits (reduceSalary i ids x r) db r' db') : Reduced ids [x] db r r' db' := by
  simp only [reduceSalary, commits_steps] at h
  obtain ⟨_, stillNeeded, _, hreduce, hrecover⟩ := h
  obtain ⟨rfl, hrecovery⟩ := recoverRest_commits hrecover
  have hpending : ∀ p ∈ db.outboundPayments i.scope x.employeeId ids [.pending, .failed],
      p ∈ db.payrollPayments ∧ p.Reducible x.employeeId ids := by
    intro p hp
    obtain ⟨hmem, hfilter⟩ := Table.mem_findSorted.mp hp
    simp only [cond_iff] at hfilter
    obtain ⟨⟨⟨⟨_, hemployee⟩, hrun⟩, hdirection⟩, hstatus⟩ := hfilter
    exact ⟨hmem, hemployee, hrun, hdirection, by simpa using hstatus⟩
  obtain ⟨hnonneg, hwrites, hkept, hinside, houtside⟩ := reducePayments_commits hreduce hpending
    (Table.nodup_findSorted _ _ _) (abs_nonneg _)
  refine ⟨hwrites, hkept, ⟨_, hrecovery, ?_⟩, fun c hc => ?_, houtside⟩
  · split
    · exact List.Sublist.refl _
    · exact List.nil_sublist _
  · have hrecovered : r'.recovered = r.recovered + Pi.single x.employeeId stillNeeded := by
      rw [Reduction.recovered, hrecovery, map_append, List.sum_append, Reduction.recovered]
      congr 1
      split
      next => simp
      next hpos => simp [le_antisymm (not_lt.mp hpos) hnonneg]
    rw [hinside c hc, hrecovered, abs_of_neg hx, sub_neg_eq_add, Pi.single_add]
    simp only [map_cons, List.map_nil, sum_cons, List.sum_nil]
    abel

namespace Reduced

variable {l l' : List Payroll.PayrollResult} {r r' r'' : Reduction} {s : FinanceDb}

lemma nil (db : FinanceDb) (r : Reduction) : Reduced ids [] db r r db where
  writes := ⟨_, rfl⟩
  kept := fun p hp => ⟨p, hp, rfl⟩
  recovery := ⟨[], by simp, List.Sublist.refl _⟩
  inside := fun c _ => by simp
  outside := fun _ _ => rfl

lemma append (h : Reduced ids l db r r' s) (h' : Reduced ids l' s r' r'' db') :
    Reduced ids (l ++ l') db r r'' db' := by
  obtain ⟨payments, rfl⟩ := h.writes
  obtain ⟨payments', rfl⟩ := h'.writes
  obtain ⟨new, hnew, hsub⟩ := h.recovery
  obtain ⟨new', hnew', hsub'⟩ := h'.recovery
  refine ⟨⟨payments', rfl⟩, fun p hp => ?_, ⟨new ++ new', ?_, ?_⟩, fun c hc => ?_, fun c hc => ?_⟩
  · obtain ⟨q, hq, hid⟩ := h'.kept p hp
    obtain ⟨q', hq', hid'⟩ := h.kept q hq
    exact ⟨q', hq', hid'.trans hid⟩
  · rw [hnew', hnew, append_assoc]
  · rw [map_append]
    exact hsub.append hsub'
  · rw [h'.inside c hc, h.inside c hc, map_append, List.sum_append, add_assoc]
  · exact (h'.outside c hc).trans (h.outside c hc)

end Reduced

lemma reduceSalaries_commits {l : List Payroll.PayrollResult} {r r' : Reduction}
    (hl : ∀ x ∈ l, x.netPay < 0) (h : Commits (reduceSalaries i ids l r) db r' db') :
    Reduced ids l db r r' db' := by
  induction l generalizing db r with
  | nil =>
    obtain ⟨rfl, rfl⟩ := commits_pure.mp h
    exact .nil db r
  | cons x l ih =>
    obtain ⟨_, t, hhead, htail⟩ := commits_bind.mp h
    rw [forall_mem_cons] at hl
    exact (reduceSalary_commits hl.1 hhead).append (ih hl.2 htail)

lemma readOnly_pushLines {lines : List SignedLine} : ReadOnly (pushLines scope lines) := by
  induction lines with
  | nil => exact leaves_pure
  | cons l lines ih =>
    refine Leaves.bind (Leaves.ite leaves_pure ?_) fun _ => ih.bind fun _ => leaves_pure
    exact leaves_get.bind fun _ => leaves_orThrow.bind fun _ => leaves_pure

/-- The journal entry `entry` is added, and its sides agree. -/
structure JournalAdded (entry : JournalEntry) (a a' : AccountingDb) : Prop where
  fresh : a.journalEntries.find? entry.id = none
  entries : a'.journalEntries = a.journalEntries.put entry
  balanced : entry.debits = entry.credits

lemma postAdjustmentJournal_commits {date entryId : ℕ} {r : Reduction}
    (h : Commits (postAdjustmentJournal i date r) db entryId db') :
    ∃ ledger entry, JournalAdded entry db.procurement.ledger ledger ∧ entry.id = entryId ∧
      db' = { db with procurement.ledger := ledger } := by
  simp only [postAdjustmentJournal, adjustmentLines, writeAdjustment, commits_bind, commits_get,
    commits_require, commits_pure, commits_modify, Part.commits_lift, TableOf.commits_create,
    TableOf.commits_update] at h
  obtain ⟨_, _, ⟨lines, _, hlines, _, _, ⟨⟨_, hbalanced⟩, rfl⟩, rfl, rfl⟩, _, _, ⟨rfl, rfl⟩, ledger,
    ⟨_, _, ⟨_, rfl⟩, _, _, ⟨rfl, rfl⟩, _, _, ⟨hfresh, rfl⟩, _, _, rfl, _, _, ⟨o, _, _, rfl⟩, hid, rfl⟩,
    rfl⟩ := h
  obtain rfl := readOnly_pushLines.eq hlines
  refine ⟨_, ⟨db.procurement.ledger.nextId, date, "PayrollRun", toString i.run.id, lines⟩, ?_, hid, rfl⟩
  exact ⟨hfresh, rfl, hbalanced⟩

/-! ### Runs that are paid -/

def Closing (s s' : Payroll.PayrollRunStatus) : Prop := s' = s ∨ s = .posted ∧ s' = .paid

lemma Closing.statusMove {s s' : Payroll.PayrollRunStatus} (h : Closing s s') : StatusMove s s' := by
  rcases h with rfl | ⟨rfl, rfl⟩
  · exact .same s'
  · exact .paid rfl

lemma Closing.trans {s s' s'' : Payroll.PayrollRunStatus} (h : Closing s s') (h' : Closing s' s'') :
    Closing s s'' := by
  rcases h with rfl | ⟨rfl, rfl⟩
  · exact h'
  · rcases h' with rfl | ⟨hs, _⟩
    · exact .inr ⟨rfl, rfl⟩
    · cases hs

lemma RunsMoved.find?_approved {t t' : Table Payroll.PayrollRun.id} (h : RunsMoved Closing t t')
    (hfind : t.find? k = some run) (happroved : run.status = .approved) : t'.find? k = some run := by
  obtain ⟨status, hfind', rfl | ⟨hposted, _⟩⟩ := h.find? hfind
  · exact hfind'
  · rw [happroved] at hposted
    cases hposted

lemma closeRecognized_commits (h : Commits (closeRecognized scope k) db u db') :
    ∃ runs, RunsMoved Closing db.payroll.runs runs ∧ db' = { db with payroll.runs := runs } := by
  simp only [closeRecognized, commits_bind, commits_get, commits_ite, TableOf.commits_updateMany,
    commits_pure] at h
  obtain ⟨_, _, ⟨rfl, rfl⟩, ⟨_, _, _, ⟨_, rfl⟩, _, rfl⟩ | ⟨_, _, rfl⟩⟩ := h
  · refine ⟨_, ⟨fun r => if r.id = k ∧ r.companyId = scope.companyId ∧
      r.branchId = some scope.branchId ∧ r.status = .posted then .paid else r.status, ?_, ?_⟩, rfl⟩
    · refine map_congr_left fun r _ => ?_
      simp only [cond_iff, and_assoc]
      split <;> rfl
    · intro r _
      dsimp only
      split
      next hr => exact .inr ⟨hr.2.2.2, rfl⟩
      next => exact .inl rfl
  · exact ⟨_, RunsMoved.refl (fun _ => .inl rfl) _, rfl⟩

lemma closeAll_commits (h : Commits (ids.forM (closeRecognized scope)) db u db') :
    ∃ runs, RunsMoved Closing db.payroll.runs runs ∧ db' = { db with payroll.runs := runs } := by
  refine h.forM (I := fun _ t => ∃ runs, RunsMoved Closing db.payroll.runs runs ∧
    t = { db with payroll.runs := runs }) (fun k _ t t' hI hk => ?_)
    ⟨_, RunsMoved.refl (fun _ => .inl rfl) _, rfl⟩
  obtain ⟨runs, hruns, rfl⟩ := hI
  obtain ⟨runs', hruns', rfl⟩ := closeRecognized_commits hk
  exact ⟨runs', hruns.trans (fun _ _ _ => Closing.trans) hruns', rfl⟩

lemma markPosted_commits {status : Payroll.PayrollRunStatus} {entryId : Option ℕ}
    (h : Commits (markPosted i status entryId) db r db') :
    ∃ o, db.payroll.runs.find? i.run.id = some o ∧
      (db'.postingOf i.run.id).postedJournalEntryId = entryId ∧ ∃ postings, db' = { db with
        payroll.runs := db.payroll.runs.put { o with status }
        runPostings := postings } := by
  simp only [markPosted, commits_bind, TableOf.commits_upsert, TableOf.commits_update] at h
  obtain ⟨posting, _, ⟨hposting, rfl⟩, o, ho, _, rfl⟩ := h
  refine ⟨o, ho, ?_, _, rfl⟩
  change posting = Option.elim (db.runPostings.find? i.run.id) _ _ at hposting
  have hrow : posting.payrollRunId = i.run.id ∧ posting.postedJournalEntryId = entryId := by
    cases hfind : db.runPostings.find? i.run.id with
    | none =>
      rw [hfind, Option.elim_none] at hposting
      rw [hposting]
      exact ⟨rfl, rfl⟩
    | some old =>
      rw [hfind, Option.elim_some] at hposting
      rw [hposting]
      exact ⟨(find?_eq_some.mp hfind).2, rfl⟩
  have hself : (db.runPostings.put posting).find? i.run.id = some posting := by
    rw [← hrow.1]
    exact find?_put_self _ _
  change (((db.runPostings.put posting).find? i.run.id).getD _).postedJournalEntryId = entryId
  rw [hself]
  exact hrow.2

lemma writeChainSummary_commits (h : Commits (writeChainSummary i ids) db u db') :
    ∃ summaries, db' = { db with payroll.periodSummaries := summaries } := by
  simp only [writeChainSummary, commits_bind, commits_get, Part.commits_lift, TableOf.commits_upsert,
    commits_pure] at h
  obtain ⟨_, _, ⟨rfl, rfl⟩, _, ⟨_, _, ⟨_, rfl⟩, _, rfl⟩, rfl⟩ := h
  exact ⟨_, rfl⟩

/-! ### Posted runs -/

def netPays (l : List Payroll.PayrollResult) : ℕ → ℚ :=
  (l.map fun x => Pi.single x.employeeId x.netPay).sum

lemma netPays_eq (l : List Payroll.PayrollResult) :
    netPays l = netPays (l.filter fun x => 0 < x.netPay) + netPays (l.filter fun x => x.netPay < 0) := by
  unfold netPays
  induction l with
  | nil => simp
  | cons x l ih =>
    rw [map_cons, sum_cons, ih, List.filter_cons, List.filter_cons]
    rcases lt_trichotomy x.netPay 0 with hneg | hzero | hpos
    · simp only [hneg, hneg.not_gt, decide_true, decide_false, if_true, map_cons, sum_cons]
      exact add_left_comm _ _ _
    · simp [hzero]
    · simp only [hpos, hpos.not_gt, decide_true, decide_false, if_true, map_cons, sum_cons]
      exact (add_assoc _ _ _).symm

/-- The run has been posted. Payments of the runs `ids` may have been reduced; together with the
payments of the run they pay out what they did and the net pay of the run. -/
structure PostedRun (scope : TenantScope) (ids : List ℕ) (run : Payroll.PayrollRun)
    (db db' : FinanceDb) : Prop where
  found : run ∈ db.payroll.runs
  company : run.companyId = scope.companyId
  branch : run.branchId = some scope.branchId
  approved : run.status = .approved
  counted : (db.payrollBooks.resultsOf run.id).length = run.employeeCount
  runs : ∃ t status, RunsMoved Closing db.payroll.runs t ∧ status.recognized = true ∧
    db'.payroll.runs = t.put { run with status }
  results : db'.payroll.results = db.payroll.results
  transactions : db'.transactions = db.transactions
  owners : ∀ p ∈ db'.payrollPayments,
    (∃ q ∈ db.payrollPayments, q.payrollRunId = p.payrollRunId) ∨ p.payrollRunId = run.id
  inside : ∀ c, c run.id = true → (∀ k ∈ ids, c k = true) → paidOut c db'.payrollPayments =
    paidOut c db.payrollPayments + netPays (db.payrollBooks.resultsOf run.id)
  outside : ∀ c, c run.id = false → (∀ k ∈ ids, c k = false) →
    paidOut c db'.payrollPayments = paidOut c db.payrollPayments

/-- An adjustment of `source` has been posted. -/
structure AdjustmentPosted (scope : TenantScope) (source run : Payroll.PayrollRun)
    (db db' : FinanceDb) : Prop
    extends PostedRun scope ((db.recognitionRuns scope source run).map Payroll.PayrollRun.id) run db
      db' where
  adjusts : run.adjustmentOfRunId = some source.id
  source_found : db.payroll.runs.find? source.id = some source
  source_regular : source.adjustmentOfRunId = none
  source_recognized : source.status.recognized = true
  checked : ∃ accounts, Commits (checkLiabilities
    ⟨scope, run, accounts, db.payrollBooks.resultsOf run.id⟩ (db.recognitionRuns scope source run))
      db () db
  journal : ∃ entry, JournalAdded entry db.procurement.ledger db'.procurement.ledger ∧
    (db'.postingOf run.id).postedJournalEntryId = some entry.id

lemma readOnly_checkLiabilities {runs : List Payroll.PayrollRun} : ReadOnly (checkLiabilities i runs) :=
  leaves_get.bind fun _ => Leaves.bind leaves_require fun _ => leaves_require

/-- The parts of the posting of an adjustment, one after the other. -/
lemma postAdjustment_stages (h : Commits (postAdjustment i k) db r db') :
    ∃ source reduction entryId status s₁ s₂ s₃ s₄ s₅, db.payroll.runs.find? k = some source ∧
      (source.adjustmentOfRunId = none ∧ source.status.recognized = true) ∧ status.recognized = true ∧
      ((db.procurement.ledger.fiscalPeriodOn i.scope.companyId i.scope.branchId
        ((db.postingOf i.run.id).adjustmentPostingDate.getD db.now)).filter
          fun p => p.status ≠ .opened) = none ∧
      Commits (checkLiabilities i (db.recognitionRuns i.scope source i.run)) db () db ∧
      Commits (reduceSalaries i ((db.recognitionRuns i.scope source i.run).map Payroll.PayrollRun.id)
        i.decreases {}) db reduction s₁ ∧
      Commits (postAdjustmentJournal i ((db.postingOf i.run.id).adjustmentPostingDate.getD db.now) reduction)
        s₁ entryId s₂ ∧
      Commits (writePayments i reduction) s₂ () s₃ ∧
      Commits (((db.recognitionRuns i.scope source i.run).map Payroll.PayrollRun.id).forM
        (closeRecognized i.scope)) s₃ () s₄ ∧
      Commits (markPosted i status (some entryId)) s₄ r s₅ ∧
      Commits (writeChainSummary i
        ((db.recognitionRuns i.scope source i.run).map Payroll.PayrollRun.id ++ [i.run.id])) s₅ () db' := by
  obtain ⟨source, _, hfind, h⟩ := commits_bind.mp h
  obtain ⟨rfl, hfind, _⟩ := findScopedRun_commits hfind
  obtain ⟨hsource, h⟩ := commits_require_bind.mp h
  obtain ⟨_, _, hrefuse, h⟩ := commits_bind.mp (commits_get_bind.mp h)
  obtain ⟨hperiod, rfl⟩ := commits_refuse.mp hrefuse
  obtain ⟨_, _, hcheck, h⟩ := commits_bind.mp h
  obtain rfl := readOnly_checkLiabilities.eq hcheck
  obtain ⟨reduction, s₁, hreduce, h⟩ := commits_bind.mp h
  obtain ⟨entryId, s₂, hjournal, h⟩ := commits_bind.mp h
  obtain ⟨_, s₃, hwrite, h⟩ := commits_bind.mp h
  obtain ⟨_, s₄, hclose, h⟩ := commits_bind.mp h
  obtain ⟨_, s₅, hmark, h⟩ := commits_bind.mp (commits_get_bind.mp h)
  obtain ⟨_, hsummary, rfl⟩ := commits_bind_pure.mp h
  refine ⟨source, reduction, entryId, _, s₁, s₂, s₃, s₄, s₅, hfind, hsource, ?_, hperiod, hcheck, hreduce,
    hjournal, hwrite, hclose, hmark, hsummary⟩
  split <;> rfl

lemma nodup_resultEmployees (hresults : i.results = db.payrollBooks.resultsOf i.run.id) :
    (i.results.map Payroll.PayrollResult.employeeId).Nodup := by
  rw [hresults]
  exact Payroll.nodup_resultEmployees db.payroll i.run.id

section Posting

variable (hresults : i.results = db.payrollBooks.resultsOf i.run.id)
  (hfresh : ∀ p ∈ db.payrollPayments, p.payrollRunId ≠ i.run.id)
include hresults hfresh

/-- The payments and recoveries that an adjustment writes after a reduction. -/
lemma writePayments_commits {reduction : Reduction}
    (hsub : (reduction.recoveryByResult.map Prod.fst).Sublist i.decreases)
    (h : Commits (writePayments i reduction) db u db') :
    (∃ payments, db' = { db with payrollPayments := payments }) ∧
      (∀ p ∈ db'.payrollPayments, p ∈ db.payrollPayments ∨ p.payrollRunId = i.run.id) ∧
      ∀ c, paidOut c db'.payrollPayments = paidOut c db.payrollPayments +
        if c i.run.id then netPays i.increases - reduction.recovered else 0 := by
  obtain ⟨_, s, hincreases, hrecoveries⟩ := commits_bind.mp h
  have hnodup := nodup_resultEmployees hresults
  have hnone (e : ℕ) : db.payrollPayments.find? (i.run.id, e) = none :=
    find?_eq_none.mpr fun p hp hkey => hfresh p hp (congrArg Prod.fst hkey)
  obtain ⟨⟨payments, rfl⟩, howners, hothers, hpaid⟩ := upsertPayments_commits (x := id)
    (d := .outbound) (v := fun x => x.netPay) hincreases
    (hnodup.sublist (List.filter_sublist.map _)) fun x _ => hnone x.employeeId
  obtain ⟨⟨payments', rfl⟩, howners', _, hpaid'⟩ := upsertPayments_commits (x := Prod.fst)
    (d := .recovery) (v := Prod.snd) hrecoveries (by
      have hsub' := (hsub.trans List.filter_sublist).map Payroll.PayrollResult.employeeId
      rw [map_map] at hsub'
      exact hnodup.sublist hsub') fun y hy => by
    -- An employee with a recovery has no increase.
    have hy := mem_filter.mp (hsub.subset (mem_map_of_mem hy))
    refine (hothers y.1.employeeId fun x hx hid => ?_).trans (hnone _)
    have hx := mem_filter.mp hx
    obtain rfl := List.inj_on_of_nodup_map hnodup hx.1 hy.1 hid
    simp only [decide_eq_true_eq] at hx hy
    exact absurd hx.2 hy.2.not_gt
  refine ⟨⟨payments', rfl⟩, fun p hp => ?_, fun c => ?_⟩
  · rcases howners' p hp with hp | hid
    · exact howners p hp
    · exact .inr hid
  · rw [hpaid' c, hpaid c, add_assoc]
    congr 1
    split
    · have hneg : (reduction.recoveryByResult.map fun y =>
          Pi.single (M := fun _ => ℚ) y.1.employeeId (PaymentDirection.recovery.signed y.2)).sum =
            -reduction.recovered := by
        rw [Reduction.recovered, List.sum_neg, map_map]
        exact congrArg List.sum (map_congr_left fun y _ => Pi.single_neg _ _)
      rw [hneg, ← sub_eq_add_neg]
      rfl
    · exact add_zero 0

variable (hrun : i.run ∈ db.payroll.runs) (happroved : i.run.status = .approved)
  (hscope : i.run.companyId = i.scope.companyId) (hbranch : i.run.branchId = some i.scope.branchId)
  (hcount : i.results.length = i.run.employeeCount)
include hrun happroved hscope hbranch hcount

lemma postRegular_commits (hnonneg : ∀ x ∈ i.results, 0 ≤ x.netPay) (h : Commits (postRegular i) db r db') :
    PostedRun i.scope [] i.run db db' := by
  simp only [postRegular, commits_steps, Part.commits_lift] at h
  obtain ⟨event, _, ⟨ledger, _, rfl⟩, _, s, hloop, hmark⟩ := h
  have hnodup := nodup_resultEmployees hresults
  obtain ⟨⟨payments, rfl⟩, howners, _, hpaid⟩ := upsertPayments_commits (x := id) (d := .outbound)
    (v := fun x => x.netPay) hloop (hnodup.sublist (List.filter_sublist.map _)) fun x _ => by
      refine find?_eq_none.mpr fun p hp hkey => ?_
      exact hfresh p hp (congrArg Prod.fst hkey)
  obtain ⟨o, ho, _, postings, rfl⟩ := markPosted_commits hmark
  change db.payroll.runs.find? i.run.id = some o at ho
  obtain rfl := mem_unique ho (find?_of_mem hrun)
  have hdecreases : netPays (i.results.filter fun x => x.netPay < 0) = 0 := by
    rw [filter_eq_nil_iff.mpr fun x hx => by simpa using hnonneg x hx]
    rfl
  constructor
  case found => exact hrun
  case company => exact hscope
  case branch => exact hbranch
  case approved => exact happroved
  case counted => rw [← hresults, hcount]
  case runs =>
    refine ⟨_, _, RunsMoved.refl (fun _ => .inl rfl) _, ?_, rfl⟩
    split <;> rfl
  case results => rfl
  case transactions => rfl
  case owners =>
    intro p hp
    exact (howners p hp).imp_left fun hp => ⟨p, hp, rfl⟩
  case inside =>
    intro c hc _
    refine (hpaid c).trans ?_
    rw [if_pos hc, ← hresults, netPays_eq, hdecreases, add_zero]
    rfl
  case outside =>
    intro c hc _
    refine (hpaid c).trans ?_
    rw [if_neg (by rw [hc]; simp), add_zero]
    rfl

lemma postAdjustment_commits (hsource : i.run.adjustmentOfRunId = some k)
    (h : Commits (postAdjustment i k) db r db') :
    ∃ source, AdjustmentPosted i.scope source i.run db db' := by
  obtain ⟨source, reduction, entryId, status, s₁, s₂, s₃, s₄, s₅, hfind, ⟨hregular, hrecognized⟩, hstatus, -,
    hcheck, hreduce, hjournal, hwrite, hclose, hmark, hsummary⟩ := postAdjustment_stages h
  have hid : source.id = k := (find?_eq_some.mp hfind).2
  subst hid
  have hreduced := reduceSalaries_commits (fun x hx => by simpa using (mem_filter.mp hx).2) hreduce
  obtain ⟨payments, rfl⟩ := hreduced.writes
  obtain ⟨ledger, entry, hadded, hentry, rfl⟩ := postAdjustmentJournal_commits hjournal
  obtain ⟨new, hnew, hsub⟩ := hreduced.recovery
  rw [nil_append] at hnew
  have hkept : ∀ p ∈ payments, p.payrollRunId ≠ i.run.id := by
    intro p hp hid
    obtain ⟨q, hq, hq'⟩ := hreduced.kept p hp
    exact hfresh q hq (hq'.trans hid)
  obtain ⟨⟨payments', rfl⟩, howners, hpaid⟩ :=
    @writePayments_commits { db with payrollPayments := payments, procurement.ledger := ledger } _ _ i
      hresults hkept _ (hnew ▸ hsub) hwrite
  obtain ⟨runs, hruns, rfl⟩ := closeAll_commits hclose
  obtain ⟨o, ho, hposting, postings, rfl⟩ := markPosted_commits hmark
  obtain ⟨summaries, rfl⟩ := writeChainSummary_commits hsummary
  -- The run is approved, so the loop before has left it alone.
  obtain rfl : o = i.run := Option.some.inj (ho.symm.trans (hruns.find?_approved (find?_of_mem hrun) happroved))
  refine ⟨source, ?_⟩
  constructor
  case adjusts => exact hsource
  case source_found => exact hfind
  case source_regular => exact hregular
  case source_recognized => exact hrecognized
  case checked => exact ⟨i.accounts, hresults ▸ hcheck⟩
  case journal => exact ⟨entry, hadded, hentry ▸ hposting⟩
  case toPostedRun =>
    constructor
    case found => exact hrun
    case company => exact hscope
    case branch => exact hbranch
    case approved => exact happroved
    case counted => rw [← hresults, hcount]
    case runs =>
      exact ⟨runs, status, hruns, hstatus, rfl⟩
    case results => rfl
    case transactions => rfl
    case owners =>
      intro p hp
      exact (howners p hp).imp_left (hreduced.kept p)
    case inside =>
      intro c hc hids
      have hin : paidOut c payments - reduction.recovered =
          paidOut c db.payrollPayments + netPays i.decreases := by
        refine (hreduced.inside c hids).trans ?_
        rw [show Reduction.recovered {} = 0 from rfl, sub_zero]
        rfl
      refine (hpaid c).trans ?_
      rw [if_pos hc, ← hresults, netPays_eq i.results]
      calc paidOut c payments + (netPays i.increases - reduction.recovered)
          = paidOut c payments - reduction.recovered + netPays i.increases := by abel
        _ = paidOut c db.payrollPayments + netPays i.decreases + netPays i.increases := by rw [hin]
        _ = paidOut c db.payrollPayments + (netPays i.increases + netPays i.decreases) := by abel
    case outside =>
      intro c hc hids
      refine (hpaid c).trans ?_
      rw [if_neg (by rw [hc]; simp), add_zero]
      exact hreduced.outside c hids

end Posting

lemma results_eq (hb : db.payrollBooks.Booked) (hfind : db.payroll.runs.find? runId = some run)
    (hcompany : run.companyId = scope.companyId) :
    (db.payroll.results.findMany fun x =>
      x.payrollRunId = run.id && x.companyId = scope.companyId) =
        db.payrollBooks.resultsOf run.id := by
  obtain ⟨hmem, _⟩ := find?_eq_some.mp hfind
  refine filter_congr fun x hx => ?_
  by_cases hid : x.payrollRunId = run.id
  · obtain ⟨owner, howner, hx, _⟩ := hb.results x hx
    rw [hid] at howner
    obtain rfl := mem_unique (find?_of_mem hmem) howner
    simp [hid, hx, hcompany]
  · simp [hid]

/-- A posting posts the run, unless it has been posted before. -/
lemma postAccounting_commits (hb : db.payrollBooks.Booked) (h : Commits (postAccounting scope runId) db r db') :
    ∃ run, db.payroll.runs.find? runId = some run ∧
      (run.status.recognized = true ∧ db = db' ∨
        run.adjustmentOfRunId = none ∧ PostedRun scope [] run db db' ∨
          ∃ source, AdjustmentPosted scope source run db db') := by
  simp only [postAccounting, postRun, commits_steps, commits_ite] at h
  obtain ⟨run, _, hrun, ⟨hdone, _, rfl⟩ | ⟨_, happroved, _, _, hperiod, accounts, _, haccounts, hcount, h⟩⟩ := h
  · obtain ⟨rfl, hfind, _⟩ := findScopedRun_commits hrun
    exact ⟨run, hfind, .inl ⟨hdone.1, rfl⟩⟩
  · obtain ⟨rfl, hfind, hcompany, hbranch⟩ := findScopedRun_commits hrun
    obtain rfl := readOnly_findPeriod.eq hperiod
    obtain rfl := readOnly_resolvePayrollAccounts.eq haccounts
    obtain ⟨hmem, _⟩ := find?_eq_some.mp hfind
    have hresults := results_eq hb hfind hcompany
    have hfresh : ∀ p ∈ db.payrollPayments, p.payrollRunId ≠ run.id := by
      intro p hp hid
      obtain ⟨owner, howner, hrecognized⟩ := hb.payments p hp
      rw [hid] at howner
      obtain rfl := mem_unique (find?_of_mem hmem) howner
      rw [happroved] at hrecognized
      cases hrecognized
    refine ⟨run, hfind, .inr ?_⟩
    cases hsource : run.adjustmentOfRunId with
    | none =>
      rw [hsource] at h
      refine .inl ⟨rfl, postRegular_commits (i := ⟨scope, run, accounts, _⟩) hresults hfresh hmem
        happroved hcompany hbranch hcount (fun x hx => ?_) h⟩
      obtain ⟨hx, hfilter⟩ := mem_findMany.mp hx
      simp only [cond_iff] at hfilter
      obtain ⟨owner, howner, _, hnonneg⟩ := hb.results x hx
      rw [hfilter.1] at howner
      obtain rfl := mem_unique (find?_of_mem hmem) howner
      exact hnonneg hsource
    | some k =>
      rw [hsource] at h
      exact .inr (postAdjustment_commits (i := ⟨scope, run, accounts, _⟩) hresults hfresh hmem
        happroved hcompany hbranch hcount hsource h)

end Mayatoko.Finance
