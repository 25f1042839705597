import Mayatoko.Extensions.Reconciliations

/-!
# What is matched, and what is completed

A match joins a statement line with one journal line of the bank account, which no other line is matched
with. The calls keep this. A reconciliation is completed when all its lines are matched, and its status is
renewed by the calls on itself. A line that it shares with another reconciliation can be taken back through
that one, so the status is right exactly as long as this does not happen.
-/

namespace Mayatoko.Extensions

open Core Transit BankDb

variable {newDate : String → Option ℕ} {businessDay : ℕ → ℕ × ℕ × ℕ} {scope : TenantScope}
  {db db' : BankDb} {r r' : BankReconciliation} {l l' : BankStatementLine} {j : JournalLine}
  {e : JournalEntry} {k : ℕ}

/-! ### The properties -/

def Opposes (l : BankStatementLine) (j : JournalLine) : Prop :=
  (0 < l.credit ∧ l.debit = 0) ∧ j.debit = l.credit ∧ j.credit = 0 ∨
    (0 < l.debit ∧ l.credit = 0) ∧ j.credit = l.debit ∧ j.debit = 0

lemma opposes_of_matches (h : bankLineMatchesJournalAmount l j = true) : Opposes l j := by
  unfold bankLineMatchesJournalAmount at h
  split at h
  next hcredit => exact .inl ⟨hcredit, of_decide_eq_true h⟩
  next =>
    split at h
    next hdebit => exact .inr ⟨hdebit, of_decide_eq_true h⟩
    next => cases h

structure Fits (db : BankDb) (r : BankReconciliation) (l : BankStatementLine) (j : JournalLine) : Prop where
  reconciliation : r ∈ db.reconciliations
  statement : r.statementId = some l.statementId
  range : r.inRange l.transactionDate = true
  journalLine : j ∈ db.journalLines
  account : r.bankAccountId = some j.accountId
  entry : ∃ e ∈ db.journalEntries, e.id = j.journalEntryId ∧ r.inRange e.date = true
  opposes : Opposes l j

/-- The statement and the account of a reconciliation are of its branch. A matched line fits the journal
line, and no two lines are matched with one. -/
structure Matching (db : BankDb) : Prop where
  statement : ∀ r ∈ db.reconciliations, ∃ s ∈ db.statements, r.statementId = some s.id ∧
    s.companyId = r.companyId ∧ s.branchId = r.branchId
  account : ∀ r ∈ db.reconciliations, ∃ a ∈ db.accounts, r.bankAccountId = some a.id ∧
    r.branchId = some a.branchId ∧ ∃ b ∈ db.branches, b.id = a.branchId ∧ b.companyId = r.companyId
  once : ∀ l ∈ db.statementLines, ∀ l' ∈ db.statementLines, l.matched = true → l'.matched = true →
    l.matchedId = l'.matchedId → l = l'
  joins : ∀ l ∈ db.statementLines, l.matched = true → l.matchedType = some "JournalLine" ∧
    ∃ r j, l.matchedId = some j.id ∧ Fits db r l j

/-- If the reconciliation is completed, it has no difference and all its lines are matched. -/
def CompletedRight (lines : Table BankStatementLine.id) (r : BankReconciliation) : Prop :=
  r.status = .completed → r.difference = 0 ∧ ∀ l ∈ lines, r.statementId = some l.statementId →
    r.inRange l.transactionDate = true → l.matched = true

structure Reconciled (db : BankDb) : Prop where
  matching : Matching db
  completed : ∀ r ∈ db.reconciliations, CompletedRight db.statementLines r

/-! ### Matched lines -/

def BankDb.InScope (db : BankDb) (l : BankStatementLine) (companyId : ℕ) (branchId : Option ℕ) : Prop :=
  ∃ s ∈ db.statements, s.id = l.statementId ∧ s.companyId = companyId ∧ s.branchId = branchId

lemma Matching.inScope (hdb : Matching db) (hr : r ∈ db.reconciliations) (hj : j ∈ db.journalLines)
    (haccount : r.bankAccountId = some j.accountId) (hl : l ∈ db.statementLines) (hmatched : l.matched = true)
    (hid : l.matchedId = some j.id) : db.InScope l r.companyId r.branchId := by
  obtain ⟨_, x, i, hi, hfits⟩ := hdb.joins l hl hmatched
  obtain rfl := eq_of_key_eq hj hfits.journalLine (mem_unique hid hi)
  obtain ⟨a, ha, hra, hrb, b, hb, hab, hbc⟩ := hdb.account r hr
  obtain ⟨a', ha', hxa, hxb, b', hb', hab', hbc'⟩ := hdb.account x hfits.reconciliation
  have hsame : a.id = a'.id := by
    refine Option.some.inj ?_
    rw [← hra, ← hxa, haccount, hfits.account]
  obtain rfl := eq_of_key_eq ha ha' hsame
  obtain rfl := eq_of_key_eq hb hb' (hab.trans hab'.symm)
  obtain ⟨s, hs, hxs, hcompany, hbranch⟩ := hdb.statement x hfits.reconciliation
  have hstatement : s.id = l.statementId := mem_unique hxs hfits.statement
  refine ⟨s, hs, hstatement, ?_, ?_⟩
  · rw [hcompany, ← hbc', hbc]
  · rw [hbranch, hxb, hrb]

lemma Fits.of_kept (h : Fits db r l j) (x : BankStatementLine) (hstatement : x.statementId = l.statementId)
    (hdate : x.transactionDate = l.transactionDate) (hamounts : x.debit = l.debit ∧ x.credit = l.credit)
    {lines : Table BankStatementLine.id} : Fits { db with statementLines := lines } r x j where
  reconciliation := h.reconciliation
  statement := by rw [hstatement]; exact h.statement
  range := by rw [hdate]; exact h.range
  journalLine := h.journalLine
  account := h.account
  entry := h.entry
  opposes := by
    have hopposes := h.opposes
    unfold Opposes at hopposes ⊢
    rw [hamounts.1, hamounts.2]
    exact hopposes

def BankStatementLine.matchedWith (l : BankStatementLine) (journalLineId : ℕ) : BankStatementLine :=
  { l with matched := true, matchedType := some "JournalLine", matchedId := some journalLineId }

lemma matchLine_commits {u : Unit} {i : ℕ} (hl : l ∈ db.statementLines)
    (h : Commits (matchLine l.id i) db u db') :
    db' = { db with statementLines := db.statementLines.put (l.matchedWith i) } := by
  simp only [matchLine, commits_steps, TableOf.commits_update] at h
  obtain ⟨_, _, ⟨o, ho, _, rfl⟩, _, rfl⟩ := h
  obtain rfl := mem_unique ho (find?_of_mem hl)
  rfl

lemma Matching.matchedWith (hdb : Matching db) (hfits : Fits db r l j)
    (hfree : ∀ x ∈ db.statementLines, x.id ≠ l.id → x.matched = true → x.matchedId ≠ some j.id) :
    Matching { db with statementLines := db.statementLines.put (l.matchedWith j.id) } := by
  refine ⟨hdb.statement, hdb.account, fun x hx y hy hxm hym hid => ?_, fun x hx hxm => ?_⟩
  · rcases mem_put.mp hx with rfl | ⟨hxold, hxid⟩
    · rcases mem_put.mp hy with rfl | ⟨hyold, hyid⟩
      · rfl
      · exact absurd hid.symm (hfree y hyold hyid hym)
    · rcases mem_put.mp hy with rfl | ⟨hyold, _⟩
      · exact absurd hid (hfree x hxold hxid hxm)
      · exact hdb.once x hxold y hyold hxm hym hid
  · rcases mem_put.mp hx with rfl | ⟨hxold, _⟩
    · exact ⟨rfl, r, j, rfl, hfits.of_kept (l.matchedWith j.id) rfl rfl ⟨rfl, rfl⟩⟩
    · obtain ⟨htype, r', j', hid, hfits'⟩ := hdb.joins x hxold hxm
      exact ⟨htype, r', j', hid, hfits'.of_kept x rfl rfl ⟨rfl, rfl⟩⟩

def LinesMatched (lines lines' : Table BankStatementLine.id) : Prop :=
  ∀ x' ∈ lines', ∃ x ∈ lines, x'.statementId = x.statementId ∧
    x'.transactionDate = x.transactionDate ∧ (x.matched = true → x'.matched = true)

lemma LinesMatched.refl (lines : Table BankStatementLine.id) : LinesMatched lines lines :=
  fun x hx => ⟨x, hx, rfl, rfl, id⟩

lemma LinesMatched.trans {t t' t'' : Table BankStatementLine.id} (h : LinesMatched t t')
    (h' : LinesMatched t' t'') : LinesMatched t t'' := by
  intro x hx
  obtain ⟨y, hy, hstatement, hdate, hmatched⟩ := h' x hx
  obtain ⟨z, hz, hstatement', hdate', hmatched'⟩ := h y hy
  exact ⟨z, hz, hstatement.trans hstatement', hdate.trans hdate', fun hm => hmatched (hmatched' hm)⟩

lemma linesMatched_put {lines : Table BankStatementLine.id} {i : ℕ} (hl : l ∈ lines) :
    LinesMatched lines (lines.put (l.matchedWith i)) := by
  intro x hx
  rcases mem_put.mp hx with rfl | ⟨hx, _⟩
  · exact ⟨l, hl, rfl, rfl, fun _ => rfl⟩
  · exact ⟨x, hx, rfl, rfl, id⟩

lemma CompletedRight.matched {lines lines' : Table BankStatementLine.id} (h : CompletedRight lines r)
    (hlines : LinesMatched lines lines') : CompletedRight lines' r := by
  intro hstatus
  obtain ⟨hdifference, hall⟩ := h hstatus
  refine ⟨hdifference, fun x hx hstatement hrange => ?_⟩
  obtain ⟨y, hy, hys, hyd, hmatched⟩ := hlines x hx
  rw [hys] at hstatement
  rw [hyd] at hrange
  exact hmatched (hall y hy hstatement hrange)

/-! ### The status -/

/-- The reconciliation `r` has been written over one with the same columns but for its status. -/
structure Refreshed (id : ℕ) (db : BankDb) (r : BankReconciliation) (db' : BankDb) : Prop where
  old : ∃ o ∈ db.reconciliations, o.id = id ∧ r = { o with matchedCount := r.matchedCount, status := r.status }
  completed : CompletedRight db.statementLines r
  db_eq : db' = { db with reconciliations := db.reconciliations.put r }

lemma scopedReconciliation_commits (h : Commits (scopedReconciliation scope k) db r db') :
    db = db' ∧ r ∈ db.reconciliations ∧ r.id = k ∧ r.companyId = scope.companyId ∧
      r.branchId = some scope.branchId := by
  simp only [scopedReconciliation, commits_steps, Option.filter_eq_some_iff, cond_iff] at h
  obtain ⟨⟨hfind, hcompany, hbranch⟩, rfl⟩ := h
  obtain ⟨hmem, hid⟩ := find?_eq_some.mp hfind
  exact ⟨rfl, hmem, hid, hcompany, hbranch⟩

lemma refreshReconciliation_commits (h : Commits (refreshReconciliation scope k) db r db') :
    Refreshed k db r db' := by
  simp only [refreshReconciliation, commits_steps, TableOf.commits_update] at h
  obtain ⟨o, _, hscoped, statementId, hstatement, x, hx, rfl, rfl⟩ := h
  obtain ⟨rfl, ho, rfl, _⟩ := scopedReconciliation_commits hscoped
  obtain rfl := mem_unique hx (find?_of_mem ho)
  refine ⟨⟨x, ho, rfl, rfl⟩, fun hstatus => ?_, rfl⟩
  dsimp only at hstatus
  split at hstatus
  next hcompleted =>
    obtain ⟨hdifference, hnone⟩ := hcompleted
    refine ⟨hdifference, fun l hl hls hrange => ?_⟩
    by_contra hnot
    have hmem : l ∈ (db.statementLines.findMany fun l =>
        l.statementId = statementId && x.inRange l.transactionDate).filter fun l => !l.matched := by
      refine mem_filter.mpr ⟨mem_findMany.mpr ⟨hl, ?_⟩, by simpa using hnot⟩
      rw [Bool.and_eq_true, decide_eq_true_eq]
      exact ⟨mem_unique hls hstatement, hrange⟩
    rw [List.eq_nil_of_length_eq_zero hnone] at hmem
    cases hmem
  next => cases hstatus

lemma Refreshed.matching (h : Refreshed k db r db') (hdb : Matching db) : Matching db' := by
  obtain ⟨⟨o, ho, _, hr⟩, _, rfl⟩ := h
  have hfits {x : BankReconciliation} {l : BankStatementLine} {j : JournalLine} (hx : Fits db x l j) :
      ∃ y, Fits { db with reconciliations := db.reconciliations.put r } y l j := by
    by_cases hid : x.id = r.id
    · have hox : x = o := eq_of_key_eq hx.reconciliation ho (by rw [hid, hr])
      subst hox
      refine ⟨r, mem_put_self _ _, ?_, ?_, hx.journalLine, ?_, ?_, hx.opposes⟩
      · rw [hr]
        exact hx.statement
      · rw [hr]
        exact hx.range
      · rw [hr]
        exact hx.account
      · obtain ⟨e, he, heid, hrange⟩ := hx.entry
        refine ⟨e, he, heid, ?_⟩
        rw [hr]
        exact hrange
    · exact ⟨x, mem_put.mpr (Or.inr ⟨hx.reconciliation, hid⟩), hx.statement, hx.range, hx.journalLine,
        hx.account, hx.entry, hx.opposes⟩
  refine ⟨fun x hx => ?_, fun x hx => ?_, hdb.once, fun l hl hmatched => ?_⟩
  · rcases mem_put.mp hx with rfl | ⟨hx, _⟩
    · rw [hr]
      exact hdb.statement o ho
    · exact hdb.statement x hx
  · rcases mem_put.mp hx with rfl | ⟨hx, _⟩
    · rw [hr]
      exact hdb.account o ho
    · exact hdb.account x hx
  · obtain ⟨htype, x, j, hid, hx⟩ := hdb.joins l hl hmatched
    obtain ⟨y, hy⟩ := hfits hx
    exact ⟨htype, y, j, hid, hy⟩

lemma Refreshed.completed_iff (h : Refreshed k db r db') :
    (∀ x ∈ db'.reconciliations, CompletedRight db'.statementLines x) ↔
      ∀ x ∈ db.reconciliations, x.id ≠ k → CompletedRight db.statementLines x := by
  obtain ⟨⟨o, ho, rfl, hr⟩, hcompleted, rfl⟩ := h
  have hid : r.id = o.id := by rw [hr]
  constructor
  · intro hall x hx hne
    exact hall x (mem_put.mpr (Or.inr ⟨hx, fun heq => hne (heq.trans hid)⟩))
  · intro hothers x hx
    rcases mem_put.mp hx with rfl | ⟨hx, hne⟩
    · exact hcompleted
    · exact hothers x hx fun heq => hne (heq.trans hid.symm)

end Mayatoko.Extensions
