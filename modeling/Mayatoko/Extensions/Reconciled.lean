import Mayatoko.Extensions.Matches

/-!
# Runs of reconciliations

The calls on reconciliations, and postings of journals, in any order. Every run keeps the matches; it keeps
the status of the reconciliations right exactly if no line that a completed reconciliation holds is unmatched
through another one.
-/

namespace Mayatoko.Extensions

open Core Transit BankDb

variable {newDate : String → Option ℕ} {businessDay : ℕ → ℕ × ℕ × ℕ} {scope : TenantScope}
  {db db' : BankDb} {r : BankReconciliation} {l : BankStatementLine} {j : JournalLine}
  {journalLines : List (JournalLine × JournalEntry)} {used : List ℕ} {k : ℕ}

/-! ### Matching calls -/

variable {x : JournalLine × JournalEntry}

lemma mem_accountLines {accountId : ℕ}
    (h : x ∈ db.accountLines accountId) : x.1 ∈ db.journalLines ∧ x.1.accountId = accountId ∧
      x.2 ∈ db.journalEntries ∧ x.2.id = x.1.journalEntryId := by
  obtain ⟨l, hl, hx⟩ := List.mem_filterMap.mp h
  obtain ⟨e, he, rfl⟩ := Option.map_eq_some_iff.mp hx
  obtain ⟨hmem, haccount⟩ := mem_findMany.mp hl
  obtain ⟨hentry, hid⟩ := find?_eq_some.mp he
  exact ⟨hmem, of_decide_eq_true haccount, hentry, hid⟩

lemma mem_candidatesFor
    (h : x ∈ candidatesFor businessDay journalLines used l) :
    x ∈ journalLines ∧ x.1.id ∉ used ∧ Opposes l x.1 := by
  have hx : x ∈ journalLines.filter fun y => y.1.id ∉ used &&
      businessDay l.transactionDate = businessDay y.2.date && bankLineMatchesJournalAmount l y.1 := by
    unfold candidatesFor at h
    dsimp only at h
    split at h
    · exact h
    · split at h
      · exact (mem_filter.mp h).1
      · exact h
  obtain ⟨hmem, hfilter⟩ := mem_filter.mp hx
  rw [Bool.and_eq_true, Bool.and_eq_true, decide_eq_true_eq] at hfilter
  exact ⟨hmem, hfilter.1.1, opposes_of_matches hfilter.2⟩

def OfReconciliation (db : BankDb) (r : BankReconciliation)
    (journalLines : List (JournalLine × JournalEntry)) : Prop :=
  ∀ x ∈ journalLines, x.1 ∈ db.journalLines ∧ r.bankAccountId = some x.1.accountId ∧
    ∃ e ∈ db.journalEntries, e.id = x.1.journalEntryId ∧ r.inRange e.date = true

def UsedIn (db : BankDb) (r : BankReconciliation) (used : List ℕ) : Prop :=
  ∀ l ∈ db.statementLines, l.matched = true → db.InScope l r.companyId r.branchId →
    ∀ i ∈ l.matchedId, i ∈ used

/-- The loop matches lines with journal lines that are not used yet. -/
lemma autoMatchLines_commits {pending : List BankStatementLine} {n m : ℕ} (hdb : Matching db)
    (hr : r ∈ db.reconciliations) (hjournal : OfReconciliation db r journalLines)
    (hpending : ∀ l ∈ pending, l ∈ db.statementLines ∧ r.statementId = some l.statementId ∧
      r.inRange l.transactionDate = true)
    (hnodup : (pending.map BankStatementLine.id).Nodup) (hused : UsedIn db r used)
    (h : Commits (autoMatchLines businessDay journalLines pending used n) db m db') :
    Matching db' ∧ ∃ lines, db' = { db with statementLines := lines } ∧
      LinesMatched db.statementLines lines := by
  induction pending generalizing db used n with
  | nil =>
    obtain ⟨_, rfl⟩ := commits_pure.mp h
    exact ⟨hdb, _, rfl, .refl _⟩
  | cons l pending ih =>
    rw [autoMatchLines] at h
    obtain ⟨hfresh, hnodup⟩ := nodup_cons.mp hnodup
    obtain ⟨⟨hl, hstatement, hrange⟩, hpending⟩ := forall_mem_cons.mp hpending
    split at h
    next x hx =>
      obtain ⟨_, t, hmatch, hrest⟩ := commits_bind.mp h
      obtain rfl := matchLine_commits hl hmatch
      obtain ⟨hmem, hunused, hopposes⟩ := mem_candidatesFor (hx ▸ List.mem_singleton_self x)
      obtain ⟨hline, haccount, hentry⟩ := hjournal x hmem
      have hfree : ∀ y ∈ db.statementLines, y.id ≠ l.id → y.matched = true → y.matchedId ≠ some x.1.id := by
        intro y hy _ hmatched hid
        exact hunused (hused y hy hmatched (hdb.inScope hr hline haccount hy hmatched hid) _ hid)
      have hnext := hdb.matchedWith ⟨hr, hstatement, hrange, hline, haccount, hentry, hopposes⟩ hfree
      have hrestIn : ∀ y ∈ pending, y ∈ db.statementLines.put (l.matchedWith x.1.id) ∧
          r.statementId = some y.statementId ∧ r.inRange y.transactionDate = true := by
        intro y hy
        obtain ⟨hyl, hys, hyr⟩ := hpending y hy
        refine ⟨mem_put.mpr (Or.inr ⟨hyl, fun hid => ?_⟩), hys, hyr⟩
        exact hfresh (mem_map.mpr ⟨y, hy, hid⟩)
      have hnextUsed : UsedIn { db with statementLines := db.statementLines.put (l.matchedWith x.1.id) } r
          (x.1.id :: used) := by
        intro y hy hmatched hscope i hi
        rcases mem_put.mp hy with rfl | ⟨hy, _⟩
        · exact mem_cons.mpr (Or.inl (Option.some.inj hi).symm)
        · exact mem_cons_of_mem _ (hused y hy hmatched hscope i hi)
      obtain ⟨hmatching, lines, rfl, hlines⟩ := ih hnext hr hjournal hrestIn hnodup hnextUsed hrest
      exact ⟨hmatching, lines, rfl, (linesMatched_put hl).trans hlines⟩
    next => exact ih hdb hr hjournal hpending hnodup hused h

lemma usedIn_usedJournalIds (hdb : Matching db) (hcompany : r.companyId = scope.companyId)
    (hbranch : r.branchId = some scope.branchId) : UsedIn db r (db.usedJournalIds scope) := by
  intro l hl hmatched hscope i hi
  obtain ⟨s, hs, hid, hsc, hsb⟩ := hscope
  refine List.mem_filterMap.mpr ⟨l, mem_findMany.mpr ⟨hl, ?_⟩, hi⟩
  have hfind : db.statements.find? l.statementId = some s := hid ▸ find?_of_mem hs
  rw [hfind, hmatched, (hdb.joins l hl hmatched).1]
  simp [hsc, hsb, hcompany, hbranch]

lemma openReconciliation_commits {ids : ℕ × ℕ} (h : Commits (openReconciliation r) db ids db') :
    db = db' ∧ r.statementId = some ids.1 ∧ r.bankAccountId = some ids.2 := by
  simp only [openReconciliation, commits_steps] at h
  obtain ⟨_, statementId, hstatement, bankAccountId, haccount, rfl, rfl⟩ := h
  exact ⟨rfl, hstatement, haccount⟩

lemma readOnly_assertBankAccount : ReadOnly (assertBankAccount scope k) :=
  leaves_get.bind fun _ => leaves_orThrow.bind fun _ => leaves_pure

variable {lines : Table BankStatementLine.id}

lemma reconciled_of_matched (hdb : Reconciled db) (hmatching : Matching { db with statementLines := lines })
    (hlines : LinesMatched db.statementLines lines)
    (h : Refreshed k { db with statementLines := lines } r db') : Reconciled db' := by
  refine ⟨h.matching hmatching, h.completed_iff.mpr fun x hx _ => ?_⟩
  exact (hdb.completed x hx).matched hlines

def BankDb.pendingLines (db : BankDb) (r : BankReconciliation) : List BankStatementLine :=
  db.statementLines.findSorted
    (fun l => r.statementId = some l.statementId && r.inRange l.transactionDate && !l.matched)
    fun a b => a.transactionDate < b.transactionDate || a.transactionDate = b.transactionDate && a.id ≤ b.id

def BankDb.linesInRange (db : BankDb) (r : BankReconciliation) : List (JournalLine × JournalEntry) :=
  ((r.bankAccountId.elim [] db.accountLines).filter fun l => r.inRange l.2.date).insertionSort
    fun a b => a.2.date < b.2.date ∨ a.2.date = b.2.date ∧ a.1.id ≤ b.1.id

lemma mem_pendingLines : l ∈ db.pendingLines r ↔ l ∈ db.statementLines ∧ r.statementId = some l.statementId ∧
    r.inRange l.transactionDate = true ∧ l.matched = false := by
  rw [pendingLines, Table.mem_findSorted]
  simp only [cond_iff, Bool.not_eq_true', and_assoc]

lemma mem_linesInRange (h : x ∈ db.linesInRange r) : x.1 ∈ db.journalLines ∧
    r.bankAccountId = some x.1.accountId ∧
      ∃ e ∈ db.journalEntries, e.id = x.1.journalEntryId ∧ r.inRange e.date = true := by
  rw [linesInRange, List.mem_insertionSort, mem_filter] at h
  obtain ⟨hline, hrange⟩ := h
  cases haccount : r.bankAccountId with
  | none =>
    rw [haccount] at hline
    cases hline
  | some accountId =>
    rw [haccount] at hline
    obtain ⟨hmem, rfl, hentry, hid⟩ := mem_accountLines hline
    exact ⟨hmem, rfl, x.2, hentry, hid, hrange⟩

lemma autoMatch_commits {y : BankReconciliation × ℕ}
    (h : Commits (autoMatchReconciliation businessDay scope k) db y db') :
    ∃ r ∈ db.reconciliations, r.id = k ∧ r.companyId = scope.companyId ∧ r.branchId = some scope.branchId ∧
      ∃ t, Commits (autoMatchLines businessDay ((db.linesInRange r).take 2000) (db.pendingLines r)
        (db.usedJournalIds scope) 0) db y.2 t ∧ Refreshed k t y.1 db' := by
  simp only [autoMatchReconciliation, commits_steps] at h
  obtain ⟨r, _, hscoped, ids, _, hopen, _, _, haccount, m, t, hloop, r', _, hrefresh, rfl, rfl⟩ := h
  obtain ⟨rfl, hr, rfl, hcompany, hbranch⟩ := scopedReconciliation_commits hscoped
  obtain ⟨rfl, hstatement, haccountId⟩ := openReconciliation_commits hopen
  obtain rfl := readOnly_assertBankAccount.eq haccount
  refine ⟨r, hr, rfl, hcompany, hbranch, t, ?_, refreshReconciliation_commits hrefresh⟩
  have hpending : db.pendingLines r = db.statementLines.findSorted
      (fun l => l.statementId = ids.1 && r.inRange l.transactionDate && !l.matched)
      fun a b => a.transactionDate < b.transactionDate ||
        a.transactionDate = b.transactionDate && a.id ≤ b.id := by
    simp only [pendingLines, hstatement, Option.some.injEq, eq_comm (a := ids.1)]
  rw [hpending, linesInRange, haccountId]
  exact hloop

lemma autoMatch_matching {x : BankReconciliation × ℕ} (hdb : Matching db)
    (h : Commits (autoMatchReconciliation businessDay scope k) db x db') :
    Matching db' ∧ ∃ lines, Matching { db with statementLines := lines } ∧
      LinesMatched db.statementLines lines ∧ Refreshed k { db with statementLines := lines } x.1 db' := by
  obtain ⟨r, hr, rfl, hcompany, hbranch, t, hloop, hrefreshed⟩ := autoMatch_commits h
  obtain ⟨hmatching, lines, rfl, hlines⟩ := autoMatchLines_commits hdb hr
    (fun x hx => mem_linesInRange (List.mem_of_mem_take hx))
    (fun l hl => by
      obtain ⟨hmem, hstatement, hrange, _⟩ := mem_pendingLines.mp hl
      exact ⟨hmem, hstatement, hrange⟩)
    (Table.nodup_findSorted _ _ _) (usedIn_usedJournalIds hdb hcompany hbranch) hloop
  exact ⟨hrefreshed.matching hmatching, lines, hmatching, hlines, hrefreshed⟩

lemma autoMatch_reconciled {x : BankReconciliation × ℕ} (hdb : Reconciled db)
    (h : Commits (autoMatchReconciliation businessDay scope k) db x db') : Reconciled db' := by
  obtain ⟨_, lines, hmatching, hlines, hrefreshed⟩ := autoMatch_matching hdb.matching h
  exact reconciled_of_matched hdb hmatching hlines hrefreshed

lemma findStatementLine_commits {statementId i : ℕ}
    (h : Commits (findStatementLine r statementId i) db l db') : db = db' ∧ l ∈ db.statementLines ∧
      l.id = i ∧ l.statementId = statementId ∧ r.inRange l.transactionDate = true := by
  simp only [findStatementLine, commits_steps, Option.filter_eq_some_iff, cond_iff] at h
  obtain ⟨⟨hfind, hstatement, hrange⟩, rfl⟩ := h
  obtain ⟨hmem, hid⟩ := find?_eq_some.mp hfind
  exact ⟨rfl, hmem, hid, hstatement, hrange⟩

lemma match_reconciled {i n : ℕ} (hdb : Reconciled db)
    (h : Commits (matchReconciliation scope k i n) db r db') : Reconciled db' := by
  simp only [matchReconciliation, commits_steps] at h
  obtain ⟨o, _, hscoped, ids, _, hopen, l, _, hline, x, hx, hamount, hused, _, _, hmatch, hrefresh⟩ := h
  obtain ⟨rfl, ho, rfl, _⟩ := scopedReconciliation_commits hscoped
  obtain ⟨rfl, hstatement, haccountId⟩ := openReconciliation_commits hopen
  obtain ⟨rfl, hl, rfl, hls, hrange⟩ := findStatementLine_commits hline
  obtain rfl := matchLine_commits hl hmatch
  obtain ⟨hjournal, haccount, hentry, hid⟩ := mem_accountLines (List.mem_of_find?_eq_some hx)
  have hdate := List.find?_some hx
  rw [Bool.and_eq_true, decide_eq_true_eq] at hdate
  have hfits : Fits db o l x.1 := ⟨ho, hls ▸ hstatement, hrange, hjournal, haccount ▸ haccountId,
    ⟨x.2, hentry, hid, hdate.2⟩, opposes_of_matches hamount⟩
  have hfree : ∀ y ∈ db.statementLines, y.id ≠ l.id → y.matched = true → y.matchedId ≠ some x.1.id := by
    intro y hy hne hmatched hyid
    refine List.eq_nil_iff_forall_not_mem.mp hused y (mem_findMany.mpr ⟨hy, ?_⟩)
    rw [hmatched, (hdb.matching.joins y hy hmatched).1, hyid]
    simp [hne]
  have hmatching := hdb.matching.matchedWith hfits hfree
  exact reconciled_of_matched hdb hmatching (linesMatched_put hl) (refreshReconciliation_commits hrefresh)

/-! ### Taking a match back -/

def BankStatementLine.unmatched (l : BankStatementLine) : BankStatementLine :=
  { l with matched := false, matchedType := none, matchedId := none }

lemma Matching.unmatched (hdb : Matching db) :
    Matching { db with statementLines := db.statementLines.put l.unmatched } := by
  have hold {x : BankStatementLine} (hx : x ∈ db.statementLines.put l.unmatched)
      (hmatched : x.matched = true) : x ∈ db.statementLines := by
    rcases mem_put.mp hx with rfl | ⟨hx, _⟩
    · cases hmatched
    · exact hx
  refine ⟨hdb.statement, hdb.account, fun x hx y hy hxm hym => ?_, fun x hx hxm => ?_⟩
  · exact hdb.once x (hold hx hxm) y (hold hy hym) hxm hym
  · obtain ⟨htype, r, j, hid, hfits⟩ := hdb.joins x (hold hx hxm) hxm
    exact ⟨htype, r, j, hid, hfits.of_kept x rfl rfl ⟨rfl, rfl⟩⟩

lemma completedRight_unmatched_iff (h : CompletedRight lines r) : CompletedRight (lines.put l.unmatched) r ↔
      (r.statementId = some l.statementId → r.inRange l.transactionDate = true → r.status ≠ .completed) := by
  constructor
  · intro hafter hstatement hrange hstatus
    have hmatched := (hafter hstatus).2 l.unmatched (mem_put_self _ _) hstatement hrange
    cases hmatched
  · intro hother hstatus
    obtain ⟨hdifference, hall⟩ := h hstatus
    refine ⟨hdifference, fun x hx hstatement hrange => ?_⟩
    rcases mem_put.mp hx with rfl | ⟨hx, _⟩
    · exact absurd hstatus (hother hstatement hrange)
    · exact hall x hx hstatement hrange

/-- The line is in no other completed reconciliation. -/
def BankDb.HeldByNoOther (db : BankDb) (id statementLineId : ℕ) : Prop :=
  ∀ l ∈ db.statementLines, l.id = statementLineId → l.matched = true →
    ∀ r ∈ db.reconciliations, r.id ≠ id → r.statementId = some l.statementId →
      r.inRange l.transactionDate = true → r.status ≠ .completed

lemma unmatch_reconciled_iff {i : ℕ} (hdb : Reconciled db)
    (h : Commits (unmatchReconciliation scope k i) db r db') : Reconciled db' ↔ db.HeldByNoOther k i := by
  simp only [unmatchReconciliation, unmatchLine, commits_steps, commits_ite, TableOf.commits_update] at h
  obtain ⟨o, _, hscoped, statementId, hstatement, l, _, hline, h⟩ := h
  obtain ⟨rfl, ho, rfl, _⟩ := scopedReconciliation_commits hscoped
  obtain ⟨rfl, hl, rfl, _⟩ := findStatementLine_commits hline
  obtain ⟨hnot, rfl, rfl⟩ | ⟨hmatched, _, _, ⟨x, hx, _, rfl⟩, hrefresh⟩ := h
  · refine iff_of_true hdb fun y hy hid hmatched => ?_
    rw [eq_of_key_eq hy hl hid, hnot] at hmatched
    cases hmatched
  · obtain rfl := mem_unique hx (find?_of_mem hl)
    have hrefreshed := refreshReconciliation_commits hrefresh
    constructor
    · intro hafter y hy hid _ z hz hne hzs hzr
      obtain rfl := eq_of_key_eq hy hl hid
      have hright := hrefreshed.completed_iff.mp hafter.completed z hz hne
      exact (completedRight_unmatched_iff (hdb.completed z hz)).mp hright hzs hzr
    · intro hother
      refine ⟨hrefreshed.matching hdb.matching.unmatched, hrefreshed.completed_iff.mpr fun z hz hne => ?_⟩
      refine (completedRight_unmatched_iff (hdb.completed z hz)).mpr fun hzs hzr => ?_
      exact hother x hl rfl (by simpa using hmatched) z hz hne hzs hzr

/-! ### New reconciliations -/

lemma scopedBankStatement_commits {s : BankStatement}
    (h : Commits (scopedBankStatement scope k) db s db') : db = db' ∧ db.statements.find? k = some s ∧
      s.companyId = scope.companyId ∧ s.branchId = some scope.branchId := by
  simp only [scopedBankStatement, commits_steps, Option.filter_eq_some_iff, cond_iff] at h
  obtain ⟨⟨hfind, hscope⟩, rfl⟩ := h
  exact ⟨rfl, hfind, hscope⟩

lemma assertBankAccount_commits {u : Unit} (h : Commits (assertBankAccount scope k) db u db') :
    db = db' ∧ ∃ a ∈ db.accounts, a.id = k ∧ a.branchId = scope.branchId ∧
      ∃ b ∈ db.branches, b.id = a.branchId ∧ b.companyId = scope.companyId := by
  simp only [assertBankAccount, commits_steps, Option.filter_eq_some_iff, cond_iff, Option.any_eq_true] at h
  obtain ⟨a, ⟨hfind, ⟨⟨hbranch, _⟩, _⟩, b, hb, hcompany⟩, _, rfl⟩ := h
  obtain ⟨ha, hid⟩ := find?_eq_some.mp hfind
  obtain ⟨hbmem, hbid⟩ := find?_eq_some.mp hb
  exact ⟨rfl, a, ha, hid, hbranch, b, hbmem, hbid, hcompany⟩

lemma readOnly_journalBookBalance {accountId endDate : ℕ} : ReadOnly (journalBookBalance accountId endDate) :=
  leaves_get.bind fun _ => leaves_pure

lemma reconciled_of_created (hdb : Reconciled db) (hfresh : db.reconciliations.find? r.id = none)
    (hstatement : ∃ s ∈ db.statements, r.statementId = some s.id ∧ s.companyId = r.companyId ∧
      s.branchId = r.branchId)
    (haccount : ∃ a ∈ db.accounts, r.bankAccountId = some a.id ∧ r.branchId = some a.branchId ∧
      ∃ b ∈ db.branches, b.id = a.branchId ∧ b.companyId = r.companyId)
    (hright : CompletedRight db.statementLines r) {n : ℕ} :
    Reconciled { db with reconciliations := db.reconciliations.put r, nextId := n } := by
  refine ⟨⟨fun x hx => ?_, fun x hx => ?_, hdb.matching.once, fun l hl hmatched => ?_⟩, fun x hx => ?_⟩
  · rcases mem_put.mp hx with rfl | ⟨hx, _⟩
    · exact hstatement
    · exact hdb.matching.statement x hx
  · rcases mem_put.mp hx with rfl | ⟨hx, _⟩
    · exact haccount
    · exact hdb.matching.account x hx
  · obtain ⟨htype, x, j, hid, hfits⟩ := hdb.matching.joins l hl hmatched
    have hne := find?_eq_none.mp hfresh x hfits.reconciliation
    exact ⟨htype, x, j, hid, mem_put.mpr (Or.inr ⟨hfits.reconciliation, hne⟩), hfits.statement,
      hfits.range, hfits.journalLine, hfits.account, hfits.entry, hfits.opposes⟩
  · rcases mem_put.mp hx with rfl | ⟨hx, _⟩
    · exact hright
    · exact hdb.completed x hx

lemma create_reconciled {dto : CreateReconciliation} (hdb : Reconciled db)
    (h : Commits (createReconciliation newDate scope dto) db r db') : Reconciled db' := by
  obtain ⟨_, h⟩ := commits_require_bind.mp h
  obtain ⟨startDate, _, h⟩ := commits_orThrow_bind.mp h
  obtain ⟨endDate, _, h⟩ := commits_orThrow_bind.mp h
  obtain ⟨_, h⟩ := commits_require_bind.mp h
  obtain ⟨s, _, hs, h⟩ := commits_bind.mp h
  obtain ⟨rfl, hfind, hscompany, hsbranch⟩ := scopedBankStatement_commits hs
  have hsmem := (find?_eq_some.mp hfind).1
  obtain ⟨bankAccountId, _, h⟩ := commits_orThrow_bind.mp h
  obtain ⟨_, h⟩ := commits_require_bind.mp h
  obtain ⟨_, _, haccount, h⟩ := commits_bind.mp h
  obtain ⟨rfl, a, ha, rfl, hbranch, hcompany⟩ := assertBankAccount_commits haccount
  obtain ⟨_, h⟩ := commits_require_bind.mp h
  obtain ⟨_, h⟩ := commits_require_bind.mp h
  obtain ⟨_, h⟩ := commits_require_bind.mp (commits_get_bind.mp h)
  obtain ⟨bookBalance, _, hbook, h⟩ := commits_bind.mp h
  obtain rfl := readOnly_journalBookBalance.eq hbook
  obtain ⟨bankBalance, _, h⟩ := commits_orThrow_bind.mp h
  obtain ⟨_, h⟩ := commits_require_bind.mp h
  obtain ⟨_, h⟩ := commits_require_bind.mp h
  simp only [insertReconciliation, commits_bind, commits_get] at h
  obtain ⟨_, _, ⟨rfl, rfl⟩, h⟩ := h
  split at h
  · simp only [commits_bind, commits_require, commits_pure] at h
    obtain ⟨_, _, ⟨_, rfl⟩, _, rfl⟩ := h
    exact hdb
  · simp only [commits_bind, TableOf.commits_create, commits_modify, commits_pure] at h
    obtain ⟨_, _, ⟨hfresh, rfl⟩, _, _, rfl, rfl, rfl⟩ := h
    refine reconciled_of_created hdb ?_ ⟨s, hsmem, rfl, hscompany, hsbranch⟩
      ⟨a, ha, rfl, by rw [hbranch], hcompany⟩ fun hstatus => ?_
    · exact hfresh
    · dsimp only at hstatus ⊢
      split at hstatus
      next hcompleted =>
        refine ⟨hcompleted.1, fun l hl hls hrange => ?_⟩
        -- As many lines as there are in the range are matched.
        have hle := Nat.le_of_sub_eq_zero hcompleted.2
        have hall := List.length_filter_eq_length_iff.mp (le_antisymm (List.length_filter_le _ _) hle)
        refine hall l (mem_findMany.mpr ⟨hl, ?_⟩)
        rw [Bool.and_eq_true, decide_eq_true_eq]
        exact ⟨(Option.some.inj hls).symm, hrange⟩
      next => cases hstatus

/-! ### Runs -/

/-- Journals are posted. Accounts may change, but not their branch. -/
structure BooksGrow (db db' : BankDb) : Prop where
  branches : db'.branches = db.branches
  accounts : ∀ a ∈ db.accounts, ∃ a' ∈ db'.accounts, a'.id = a.id ∧ a'.branchId = a.branchId
  journalEntries : ∀ e ∈ db.journalEntries, e ∈ db'.journalEntries
  journalLines : ∀ j ∈ db.journalLines, j ∈ db'.journalLines
  statements : db'.statements = db.statements
  statementLines : db'.statementLines = db.statementLines
  reconciliations : db'.reconciliations = db.reconciliations

inductive BankAction
  | call (scope : TenantScope) (c : BankCall)
  | posts

inductive BankStep (newDate : String → Option ℕ) (businessDay : ℕ → ℕ × ℕ × ℕ) (db : BankDb) :
    BankAction → BankDb → Prop
  | call {scope : TenantScope} {c : BankCall} {db' : BankDb}
      (h : Commits (c.tx newDate businessDay scope) db () db') :
      BankStep newDate businessDay db (.call scope c) db'
  | posts {db' : BankDb} (h : BooksGrow db db') : BankStep newDate businessDay db .posts db'

/-- The condition: no line is unmatched that another completed reconciliation holds. -/
def UnmatchesOwn (db : BankDb) : BankAction → Prop
  | .call _ (.unmatch id statementLineId) => db.HeldByNoOther id statementLineId
  | _ => True

lemma BooksGrow.reconciled (h : BooksGrow db db') (hdb : Reconciled db) : Reconciled db' := by
  obtain ⟨hbranches, haccounts, hentries, hlines, hstatements, hstatementLines, hreconciliations⟩ := h
  refine ⟨⟨?_, ?_, ?_, ?_⟩, ?_⟩
  · rw [hreconciliations, hstatements]
    exact hdb.matching.statement
  · rw [hreconciliations, hbranches]
    intro r hr
    obtain ⟨a, ha, hid, hbranch, b, hb, hba, hcompany⟩ := hdb.matching.account r hr
    obtain ⟨a', ha', hid', hbranch'⟩ := haccounts a ha
    exact ⟨a', ha', hid'.symm ▸ hid, hbranch'.symm ▸ hbranch, b, hb, hba.trans hbranch'.symm, hcompany⟩
  · rw [hstatementLines]
    exact hdb.matching.once
  · rw [hstatementLines]
    intro l hl hmatched
    obtain ⟨htype, r, j, hid, hfits⟩ := hdb.matching.joins l hl hmatched
    obtain ⟨e, he, hej, hrange⟩ := hfits.entry
    exact ⟨htype, r, j, hid, hreconciliations.symm ▸ hfits.reconciliation, hfits.statement, hfits.range,
      hlines j hfits.journalLine, hfits.account, ⟨e, hentries e he, hej, hrange⟩, hfits.opposes⟩
  · rw [hreconciliations, hstatementLines]
    exact hdb.completed

lemma BankStep.reconciled_iff {a : BankAction} (hdb : Reconciled db)
    (h : BankStep newDate businessDay db a db') : Reconciled db' ↔ UnmatchesOwn db a := by
  cases h with
  | posts h => exact iff_of_true (h.reconciled hdb) trivial
  | @call scope c _ h =>
    cases c with
    | create dto =>
      obtain ⟨_, hcreate, _⟩ := commits_bind_pure.mp h
      exact iff_of_true (create_reconciled hdb hcreate) trivial
    | autoMatch id =>
      obtain ⟨_, hmatch, _⟩ := commits_bind_pure.mp h
      exact iff_of_true (autoMatch_reconciled hdb hmatch) trivial
    | matchLines id statementLineId journalLineId =>
      obtain ⟨_, hmatch, _⟩ := commits_bind_pure.mp h
      exact iff_of_true (match_reconciled hdb hmatch) trivial
    | unmatch id statementLineId =>
      obtain ⟨_, hunmatch, _⟩ := commits_bind_pure.mp h
      exact unmatch_reconciled_iff hdb hunmatch

/-- Reconciliations and matches stay right exactly in the runs that unmatch no line which another completed
reconciliation holds. -/
theorem reconciliations_right_iff {as : List BankAction} (hdb : Reconciled db) :
    Run (Landing Reconciled (BankStep newDate businessDay)) db as db' ↔
      Run (Guarded UnmatchesOwn (BankStep newDate businessDay)) db as db' :=
  Run.landing_iff_guarded (fun _ _ _ hs hstep => BankStep.reconciled_iff hs hstep) hdb

/-! ### An account with two statement lines -/

instance (db : BankDb) (id statementLineId : ℕ) : Decidable (db.HeldByNoOther id statementLineId) :=
  inferInstanceAs (Decidable (∀ l ∈ db.statementLines.rows, l.id = statementLineId → l.matched = true →
    ∀ r ∈ db.reconciliations.rows, r.id ≠ id → r.statementId = some l.statementId →
      r.inRange l.transactionDate = true → r.status ≠ .completed))

instance (db : BankDb) (a : BankAction) : Decidable (UnmatchesOwn db a) := by
  unfold UnmatchesOwn
  split <;> infer_instance

def leftBy (newDate : String → Option ℕ) (businessDay : ℕ → ℕ × ℕ × ℕ) (scope : TenantScope)
    (calls : List BankCall) (db : BankDb) : BankDb :=
  calls.foldl (fun db c => (execute (c.tx newDate businessDay scope) db).2) db

def allCommit (newDate : String → Option ℕ) (businessDay : ℕ → ℕ × ℕ × ℕ) (scope : TenantScope)
    (g : BankDb → BankAction → Prop) [∀ db a, Decidable (g db a)] : List BankCall → BankDb → Bool
  | [], _ => true
  | c :: calls, db =>
    decide (g db (.call scope c)) && (execute (c.tx newDate businessDay scope) db).1.isOk &&
      allCommit newDate businessDay scope g calls (execute (c.tx newDate businessDay scope) db).2

lemma bankRun_of_calls {g : BankDb → BankAction → Prop} [∀ db a, Decidable (g db a)]
    {calls : List BankCall} (h : allCommit newDate businessDay scope g calls db = true) :
    Run (Guarded g (BankStep newDate businessDay)) db (calls.map (.call scope))
      (leftBy newDate businessDay scope calls db) := by
  induction calls generalizing db with
  | nil => exact .nil db
  | cons c calls ih =>
    rw [allCommit, Bool.and_eq_true, Bool.and_eq_true, decide_eq_true_eq] at h
    obtain ⟨⟨hg, hok⟩, hrest⟩ := h
    refine .cons ⟨hg, .call (commits_of_execute ?_)⟩ (ih hrest)
    cases hres : (execute (c.tx newDate businessDay scope) db).1 with
    | ok u => rfl
    | error e =>
      rw [hres] at hok
      cases hok

def dayNumber (text : String) : Option ℕ :=
  if text = "0" then some 0 else if text = "2" then some 2 else if text = "4" then some 4 else none

def calendarDay (date : ℕ) : ℕ × ℕ × ℕ := (1970, 1, date)

def twoReceipts : BankDb where
  nextId := 1
  branches := Table.empty.put ⟨1, 1⟩
  accounts := Table.empty.put ⟨5, 1, .asset, true⟩
  journalEntries := (Table.empty.put ⟨1, "JRN-1", 1, "1", "Penjualan"⟩).put ⟨2, "JRN-2", 3, "2", "Penjualan"⟩
  journalLines := (Table.empty.put ⟨1, 1, 5, 10, 0⟩).put ⟨2, 2, 5, 20, 0⟩
  statements := Table.empty.put ⟨1, 1, some 1, some 5, some 0, some 9, none, none⟩
  statementLines :=
    (Table.empty.put { id := 1, statementId := 1, transactionDate := 1, credit := 10, balance := some 10 }).put
      { id := 2, statementId := 1, transactionDate := 3, credit := 20, balance := some 30 }
  reconciliations := .empty

def reconciliationOf (startDate endDate : String) : BankCall :=
  .create { statementId := 1, startDate, endDate }

def bothCompleted : List BankCall :=
  [reconciliationOf "0" "2", reconciliationOf "0" "4", .autoMatch 2, .autoMatch 1]

lemma twoReceipts_reconciled : Reconciled twoReceipts where
  matching :=
    { statement := fun _ hr => absurd hr (not_mem_empty _)
      account := fun _ hr => absurd hr (not_mem_empty _)
      once := by
        have hnone : ∀ l ∈ twoReceipts.statementLines.rows, l.matched = false := by decide +kernel
        intro l hl _ _ hmatched
        rw [hnone l hl] at hmatched
        cases hmatched
      joins := by
        have hnone : ∀ l ∈ twoReceipts.statementLines.rows, l.matched = false := by decide +kernel
        intro l hl hmatched
        rw [hnone l hl] at hmatched
        cases hmatched }
  completed := fun _ hr => absurd hr (not_mem_empty _)

def unmatchedThroughOther : List BankCall := bothCompleted ++ [.unmatch 1 1]

/-- The longer reconciliation stays completed with a line that is not matched. -/
theorem unmatched_through_other : ∃ s, Reconciled twoReceipts ∧ Run (BankStep dayNumber calendarDay) twoReceipts
        (unmatchedThroughOther.map (.call ⟨1, 1⟩)) s ∧
      ∃ r ∈ s.reconciliations, r.status = .completed ∧ ∃ l ∈ s.statementLines,
        r.statementId = some l.statementId ∧ r.inRange l.transactionDate = true ∧ l.matched = false := by
  have hrun : Run (Guarded (fun _ _ => True) (BankStep dayNumber calendarDay)) twoReceipts
      (unmatchedThroughOther.map (.call ⟨1, 1⟩))
      (leftBy dayNumber calendarDay ⟨1, 1⟩ unmatchedThroughOther twoReceipts) :=
    bankRun_of_calls (by decide +kernel)
  have hend : ∃ r ∈ (leftBy dayNumber calendarDay ⟨1, 1⟩ unmatchedThroughOther
      twoReceipts).reconciliations.rows, r.status = .completed ∧
        ∃ l ∈ (leftBy dayNumber calendarDay ⟨1, 1⟩ unmatchedThroughOther twoReceipts).statementLines.rows,
          r.statementId = some l.statementId ∧ r.inRange l.transactionDate = true ∧ l.matched = false := by
    decide +kernel
  exact ⟨_, twoReceipts_reconciled, hrun.of_guarded, hend⟩

def unmatchedThroughOwn : List BankCall := [reconciliationOf "0" "4", .autoMatch 1, .unmatch 1 1]

theorem reconciliations_right_twoReceipts :
    Run (Landing Reconciled (BankStep dayNumber calendarDay)) twoReceipts
      (unmatchedThroughOwn.map (.call ⟨1, 1⟩))
      (leftBy dayNumber calendarDay ⟨1, 1⟩ unmatchedThroughOwn twoReceipts) :=
  (reconciliations_right_iff twoReceipts_reconciled).mpr (bankRun_of_calls (by decide +kernel))

end Mayatoko.Extensions
