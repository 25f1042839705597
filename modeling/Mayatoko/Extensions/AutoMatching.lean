import Mayatoko.Extensions.Reconciled

/-!
# What a pass matches, and what it leaves

`autoMatchReconciliation` goes over the statement lines once. It matches a line with the only journal line that
agrees with it among the first two thousand, and a line that it passes over is not looked at again when one of
the journal lines that agree with it is taken by a later line.
-/

namespace Mayatoko.Extensions

open Core Transit BankDb

variable {businessDay : ℕ → ℕ × ℕ × ℕ} {scope : TenantScope} {db db' : BankDb} {r : BankReconciliation}
  {l : BankStatementLine} {x : JournalLine × JournalEntry} {lines : List (JournalLine × JournalEntry)}
  {used used' : List ℕ} {id : ℕ}

/-! ### What a pass is to do -/

def BankDb.matchOf (db : BankDb) (l : BankStatementLine) : Option ℕ :=
  (db.statementLines.find? l.id).bind fun l => if l.matched then l.matchedId else none

/-- The journal line is matched when the pass comes to the lines after `before`. -/
def Taken (db db' : BankDb) (before : List BankStatementLine) (journalLineId : ℕ) : Prop :=
  (∃ l ∈ db.statementLines, l.matched = true ∧ l.matchedId = some journalLineId) ∨
    ∃ l ∈ before, db'.matchOf l = some journalLineId

structure Agrees (businessDay : ℕ → ℕ × ℕ × ℕ) (lines : List (JournalLine × JournalEntry)) (taken : ℕ → Prop)
    (l : BankStatementLine) (x : JournalLine × JournalEntry) : Prop where
  mem : x ∈ lines
  free : ¬ taken x.1.id
  day : businessDay l.transactionDate = businessDay x.2.date
  amount : bankLineMatchesJournalAmount l x.1 = true

/-- It is the only one that agrees, or the only one of these whose texts agree with the reference. -/
def OnlyOne (businessDay : ℕ → ℕ × ℕ × ℕ) (lines : List (JournalLine × JournalEntry)) (taken : ℕ → Prop)
    (l : BankStatementLine) (x : JournalLine × JournalEntry) : Prop :=
  Agrees businessDay lines taken l x ∧ ((∀ y, Agrees businessDay lines taken l y → y = x) ∨
    ∃ reference ∈ l.reference, referenceMatches reference x.2 = true ∧
      ∀ y, Agrees businessDay lines taken l y → referenceMatches reference y.2 = true → y = x)

/-- Every match of a pass is with the only journal line of the list. -/
def MatchesOnly (businessDay : ℕ → ℕ × ℕ × ℕ) (lines : List (JournalLine × JournalEntry))
    (pending : List BankStatementLine) (db db' : BankDb) : Prop :=
  ∀ before l after, pending = before ++ l :: after → ∀ i, db'.matchOf l = some i →
    ∃ x, x.1.id = i ∧ OnlyOne businessDay lines (Taken db db' before) l x

def TakenLater (businessDay : ℕ → ℕ × ℕ × ℕ) (lines : List (JournalLine × JournalEntry))
    (pending : List BankStatementLine) (db db' : BankDb) : Prop :=
  ∃ before l after, pending = before ++ l :: after ∧ db'.matchOf l = none ∧
    ∃ x, Agrees businessDay lines (Taken db db' before) l x ∧ ∃ l' ∈ after, db'.matchOf l' = some x.1.id

def AutoMatchesOnce (businessDay : ℕ → ℕ × ℕ × ℕ) (scope : TenantScope) (id : ℕ) (db : BankDb) : Prop :=
  ∀ r ∈ db.reconciliations, r.id = id → ∀ x db',
    Commits (autoMatchReconciliation businessDay scope id) db x db' →
    MatchesOnly businessDay (db.linesInRange r) (db.pendingLines r) db db' ∧
      ∀ x' db'', Commits (autoMatchReconciliation businessDay scope id) db' x' db'' → x'.2 = 0

/-- The candidates are those that agree, or the one of them that the reference names. -/
lemma onlyOne_of_candidatesFor {taken : ℕ → Prop} (htaken : ∀ y ∈ lines, taken y.1.id ↔ y.1.id ∈ used)
    (h : candidatesFor businessDay lines used l = [x]) : OnlyOne businessDay lines taken l x := by
  have hmem (y : JournalLine × JournalEntry) : Agrees businessDay lines taken l y ↔
      y ∈ lines.filter fun y => y.1.id ∉ used && businessDay l.transactionDate = businessDay y.2.date &&
        bankLineMatchesJournalAmount l y.1 := by
    simp only [mem_filter, cond_iff]
    constructor
    · rintro ⟨hy, hfree, hday, hamount⟩
      exact ⟨hy, ⟨fun hused => hfree ((htaken y hy).mpr hused), hday⟩, hamount⟩
    · rintro ⟨hy, ⟨hfree, hday⟩, hamount⟩
      exact ⟨hy, fun hused => hfree ((htaken y hy).mp hused), hday, hamount⟩
  have honly (hlist : (lines.filter fun y => y.1.id ∉ used &&
      businessDay l.transactionDate = businessDay y.2.date &&
      bankLineMatchesJournalAmount l y.1) = [x]) : OnlyOne businessDay lines taken l x := by
    refine ⟨(hmem x).mpr (hlist ▸ List.mem_singleton_self x), .inl fun y hy => ?_⟩
    exact mem_singleton.mp (hlist ▸ (hmem y).mp hy)
  unfold candidatesFor at h
  dsimp only at h
  split at h
  next => exact honly h
  next reference hreference =>
    split at h
    next =>
      have hx := mem_filter.mp (h ▸ List.mem_singleton_self x)
      refine ⟨(hmem x).mpr hx.1, .inr ⟨reference, hreference, hx.2, fun y hy hnames => ?_⟩⟩
      exact mem_singleton.mp (h ▸ mem_filter.mpr ⟨(hmem y).mp hy, hnames⟩)
    next => exact honly h

lemma candidatesFor_congr (h : ∀ y ∈ lines, businessDay l.transactionDate = businessDay y.2.date →
    bankLineMatchesJournalAmount l y.1 = true → (y.1.id ∈ used ↔ y.1.id ∈ used')) :
    candidatesFor businessDay lines used l = candidatesFor businessDay lines used' l := by
  have hfilter : (lines.filter fun y => y.1.id ∉ used && businessDay l.transactionDate = businessDay y.2.date &&
      bankLineMatchesJournalAmount l y.1) =
      lines.filter fun y => y.1.id ∉ used' && businessDay l.transactionDate = businessDay y.2.date &&
        bankLineMatchesJournalAmount l y.1 := by
    refine filter_congr fun y hy => ?_
    rw [Bool.eq_iff_iff]
    simp only [cond_iff]
    constructor
    · rintro ⟨⟨hfree, hday⟩, hamount⟩
      exact ⟨⟨fun hused => hfree ((h y hy hday hamount).mpr hused), hday⟩, hamount⟩
    · rintro ⟨⟨hfree, hday⟩, hamount⟩
      exact ⟨⟨fun hused => hfree ((h y hy hday hamount).mp hused), hday⟩, hamount⟩
  unfold candidatesFor
  rw [hfilter]

/-! ### One pass -/

def PassedLine (businessDay : ℕ → ℕ × ℕ × ℕ) (lines : List (JournalLine × JournalEntry)) (used : List ℕ)
    (db : BankDb) (l : BankStatementLine) : Prop :=
  (∃ x, candidatesFor businessDay lines used l = [x] ∧
      db.statementLines.find? l.id = some (l.matchedWith x.1.id)) ∨
    (∀ x, candidatesFor businessDay lines used l ≠ [x]) ∧ db.statementLines.find? l.id = some l

lemma PassedLine.congr (h : PassedLine businessDay lines used db l) (hused : ∀ i, i ∈ used ↔ i ∈ used') :
    PassedLine businessDay lines used' db l := by
  have hsame : candidatesFor businessDay lines used l = candidatesFor businessDay lines used' l :=
    candidatesFor_congr fun y _ _ _ => hused y.1.id
  rw [PassedLine, hsame] at h
  exact h

lemma matchOf_matchedWith {i : ℕ} (h : db.statementLines.find? l.id = some (l.matchedWith i)) :
    db.matchOf l = some i := by
  rw [matchOf, h]
  rfl

lemma matchOf_unmatched (h : db.statementLines.find? l.id = some l) (hl : l.matched = false) :
    db.matchOf l = none := by
  rw [matchOf, h, Option.bind_some, hl]
  rfl

lemma autoMatchLines_passed {pending : List BankStatementLine} {n m : ℕ}
    (hpending : ∀ l ∈ pending, l ∈ db.statementLines ∧ l.matched = false)
    (hnodup : (pending.map BankStatementLine.id).Nodup)
    (h : Commits (autoMatchLines businessDay lines pending used n) db m db') :
    ∃ table, db' = { db with statementLines := table } ∧
      (∀ k, k ∉ pending.map BankStatementLine.id → table.find? k = db.statementLines.find? k) ∧
      ∀ before l after, pending = before ++ l :: after →
        PassedLine businessDay lines (before.filterMap db'.matchOf ++ used) db' l := by
  induction pending generalizing db used n with
  | nil =>
    obtain ⟨_, rfl⟩ := commits_pure.mp h
    refine ⟨_, rfl, fun _ _ => rfl, fun before l after heq => ?_⟩
    exact absurd heq.symm (List.append_ne_nil_of_right_ne_nil _ (List.cons_ne_nil _ _))
  | cons l pending ih =>
    rw [autoMatchLines] at h
    obtain ⟨hfresh, hnodup⟩ := nodup_cons.mp hnodup
    obtain ⟨⟨hl, hunmatched⟩, hpending⟩ := forall_mem_cons.mp hpending
    split at h
    next x hx =>
      obtain ⟨_, t, hmatch, hrest⟩ := commits_bind.mp h
      obtain rfl := matchLine_commits hl hmatch
      have hrestIn : ∀ y ∈ pending, y ∈ db.statementLines.put (l.matchedWith x.1.id) ∧ y.matched = false := by
        intro y hy
        obtain ⟨hyl, hym⟩ := hpending y hy
        refine ⟨mem_put.mpr (Or.inr ⟨hyl, fun hid => ?_⟩), hym⟩
        exact hfresh (mem_map.mpr ⟨y, hy, hid⟩)
      obtain ⟨table, rfl, hkeep, hpass⟩ := ih hrestIn hnodup hrest
      have hfound : table.find? l.id = some (l.matchedWith x.1.id) :=
        (hkeep l.id hfresh).trans (find?_put_self _ (l.matchedWith x.1.id))
      refine ⟨table, rfl, fun k hk => ?_, fun before l' after heq => ?_⟩
      · obtain ⟨hne, hk⟩ := List.ne_and_not_mem_of_not_mem_cons hk
        rw [hkeep k hk]
        exact find?_put_of_ne _ hne
      · cases before with
        | nil =>
          cases heq
          exact .inl ⟨x, hx, hfound⟩
        | cons b before =>
          cases heq
          refine (hpass before l' after rfl).congr fun i => ?_
          rw [List.filterMap_cons_some (matchOf_matchedWith hfound)]
          simp only [mem_append, mem_cons]
          tauto
    next hx =>
      obtain ⟨table, rfl, hkeep, hpass⟩ := ih hpending hnodup h
      have hfound : table.find? l.id = some l := (hkeep l.id hfresh).trans (find?_of_mem hl)
      refine ⟨table, rfl, fun k hk => hkeep k (List.ne_and_not_mem_of_not_mem_cons hk).2,
        fun before l' after heq => ?_⟩
      cases before with
      | nil =>
        cases heq
        exact .inr ⟨hx, hfound⟩
      | cons b before =>
        cases heq
        rw [List.filterMap_cons_none (matchOf_unmatched hfound hunmatched)]
        exact hpass before l' after rfl

lemma autoMatchLines_none {pending : List BankStatementLine} {n m : ℕ}
    (hnone : ∀ l ∈ pending, ∀ x, candidatesFor businessDay lines used l ≠ [x])
    (h : Commits (autoMatchLines businessDay lines pending used n) db m db') : m = n := by
  induction pending with
  | nil => exact (commits_pure.mp h).1.symm
  | cons l pending ih =>
    obtain ⟨hl, hnone⟩ := forall_mem_cons.mp hnone
    rw [autoMatchLines] at h
    split at h
    next x hx => exact absurd hx (hl x)
    next => exact ih hnone h

/-! ### Passes -/

lemma mem_usedJournalIds (hdb : Matching db) (hr : r ∈ db.reconciliations)
    (hcompany : r.companyId = scope.companyId)
    (hbranch : r.branchId = some scope.branchId) (hx : x ∈ db.linesInRange r) :
    x.1.id ∈ db.usedJournalIds scope ↔
      ∃ l ∈ db.statementLines, l.matched = true ∧ l.matchedId = some x.1.id := by
  constructor
  · intro hused
    obtain ⟨l, hl, hid⟩ := List.mem_filterMap.mp hused
    obtain ⟨hmem, hfilter⟩ := mem_findMany.mp hl
    simp only [Bool.and_eq_true] at hfilter
    exact ⟨l, hmem, hfilter.1.1, hid⟩
  · rintro ⟨l, hl, hmatched, hid⟩
    obtain ⟨hline, haccount, _⟩ := mem_linesInRange hx
    exact usedIn_usedJournalIds hdb hcompany hbranch l hl hmatched
      (hdb.inScope hr hline haccount hl hmatched hid)
      _ hid

lemma taken_iff (hdb : Matching db) (hr : r ∈ db.reconciliations) (hcompany : r.companyId = scope.companyId)
    (hbranch : r.branchId = some scope.branchId) (before : List BankStatementLine)
    (hx : x ∈ db.linesInRange r) :
    Taken db db' before x.1.id ↔ x.1.id ∈ before.filterMap db'.matchOf ++ db.usedJournalIds scope := by
  rw [Taken, ← mem_usedJournalIds hdb hr hcompany hbranch hx, mem_append, List.mem_filterMap]
  exact or_comm

/-- The first journal lines of the range, which a pass looks at. -/
def BankDb.passLines (db : BankDb) (r : BankReconciliation) : List (JournalLine × JournalEntry) :=
  (db.linesInRange r).take 2000

/-- What a pass over the lines of `r` leaves in the tables. -/
structure Passed (businessDay : ℕ → ℕ × ℕ × ℕ) (scope : TenantScope) (db : BankDb) (r : BankReconciliation)
    (db' : BankDb) : Prop where
  mem : r ∈ db.reconciliations
  company : r.companyId = scope.companyId
  branch : r.branchId = some scope.branchId
  kept : ∀ k, k ∉ (db.pendingLines r).map BankStatementLine.id →
    db'.statementLines.find? k = db.statementLines.find? k
  passed : ∀ before l after, db.pendingLines r = before ++ l :: after →
    PassedLine businessDay (db.passLines r) (before.filterMap db'.matchOf ++ db.usedJournalIds scope) db' l
  lines : ∃ r', db'.reconciliations = db.reconciliations.put r' ∧
    r' = { r with matchedCount := r'.matchedCount, status := r'.status } ∧
      db'.linesInRange r' = db.linesInRange r ∧
      ∀ l, l ∈ db'.pendingLines r' ↔ l ∈ db'.pendingLines r

lemma autoMatch_passed {y : BankReconciliation × ℕ}
    (h : Commits (autoMatchReconciliation businessDay scope id) db y db') :
    ∃ r, r.id = id ∧ Passed businessDay scope db r db' := by
  obtain ⟨r, hr, hid, hcompany, hbranch, t, hloop, hrefreshed⟩ := autoMatch_commits h
  obtain ⟨table, rfl, hkept, hpassed⟩ := autoMatchLines_passed
    (fun l hl => ⟨(mem_pendingLines.mp hl).1, (mem_pendingLines.mp hl).2.2.2⟩) (Table.nodup_findSorted _ _ _)
    hloop
  obtain ⟨⟨o, ho, hoid, hrow⟩, _, rfl⟩ := hrefreshed
  obtain rfl := eq_of_key_eq hr ho (hid.trans hoid.symm)
  refine ⟨r, hid, hr, hcompany, hbranch, hkept, hpassed, y.1, rfl, hrow, ?_, fun l => ?_⟩
  · rw [hrow]
    rfl
  · rw [hrow]
    rfl

lemma Passed.matchesOnly (h : Passed businessDay scope db r db') (hdb : Matching db) :
    MatchesOnly businessDay (db.passLines r) (db.pendingLines r) db db' := by
  intro before l after hsplit i hi
  have hl : l ∈ db.pendingLines r := hsplit ▸ mem_append_right _ mem_cons_self
  obtain ⟨x, hx, hfound⟩ | ⟨_, hfound⟩ := h.passed before l after hsplit
  · obtain rfl := mem_unique (matchOf_matchedWith hfound) hi
    refine ⟨x, rfl, onlyOne_of_candidatesFor (fun y hy => ?_) hx⟩
    exact taken_iff hdb h.mem h.company h.branch before (List.mem_of_mem_take hy)
  · rw [matchOf_unmatched hfound (mem_pendingLines.mp hl).2.2.2] at hi
    cases hi

lemma Passed.pending (h : Passed businessDay scope db r db') (hl : l ∈ db'.pendingLines r) :
    l ∈ db.pendingLines r := by
  obtain ⟨hmem, hstatement, hrange, hunmatched⟩ := mem_pendingLines.mp hl
  have hfind := find?_of_mem hmem
  by_cases hid : l.id ∈ (db.pendingLines r).map BankStatementLine.id
  · obtain ⟨p, hp, hpid⟩ := mem_map.mp hid
    obtain ⟨before, after, hsplit⟩ := List.append_of_mem hp
    obtain ⟨x, _, hfound⟩ | ⟨_, hfound⟩ := h.passed before p after hsplit
    · rw [hpid, hfind] at hfound
      rw [Option.some.inj hfound] at hunmatched
      cases hunmatched
    · rw [hpid, hfind] at hfound
      rw [Option.some.inj hfound]
      exact hp
  · rw [h.kept l.id hid] at hfind
    exact mem_pendingLines.mpr ⟨(find?_eq_some.mp hfind).1, hstatement, hrange, hunmatched⟩

lemma matchOf_eq_some {i : ℕ} : db.matchOf l = some i ↔
    ∃ l' ∈ db.statementLines, l'.id = l.id ∧ l'.matched = true ∧ l'.matchedId = some i := by
  rw [matchOf, Option.bind_eq_some_iff]
  constructor
  · rintro ⟨l', hfind, hmatch⟩
    obtain ⟨hmem, hid⟩ := find?_eq_some.mp hfind
    split at hmatch
    next hmatched => exact ⟨l', hmem, hid, hmatched, hmatch⟩
    next => cases hmatch
  · rintro ⟨l', hmem, hid, hmatched, hmatch⟩
    exact ⟨l', find?_eq_some.mpr ⟨hmem, hid⟩, by rw [if_pos hmatched, hmatch]⟩

lemma Passed.matched_iff (h : Passed businessDay scope db r db') {i : ℕ} :
    (∃ l ∈ db'.statementLines, l.matched = true ∧ l.matchedId = some i) ↔
      (∃ l ∈ db.statementLines, l.matched = true ∧ l.matchedId = some i) ∨
        ∃ l ∈ db.pendingLines r, db'.matchOf l = some i := by
  constructor
  · rintro ⟨l, hl, hmatched, hid⟩
    by_cases hpending : l.id ∈ (db.pendingLines r).map BankStatementLine.id
    · obtain ⟨p, hp, hpid⟩ := mem_map.mp hpending
      exact .inr ⟨p, hp, matchOf_eq_some.mpr ⟨l, hl, hpid.symm, hmatched, hid⟩⟩
    · have hfind := (h.kept l.id hpending).symm.trans (find?_of_mem hl)
      exact .inl ⟨l, (find?_eq_some.mp hfind).1, hmatched, hid⟩
  · rintro (⟨l, hl, hmatched, hid⟩ | ⟨l, _, hmatch⟩)
    · have hpending : l.id ∉ (db.pendingLines r).map BankStatementLine.id := by
        intro hpending
        obtain ⟨p, hp, hpid⟩ := mem_map.mp hpending
        obtain ⟨hmem, _, _, hunmatched⟩ := mem_pendingLines.mp hp
        rw [eq_of_key_eq hmem hl hpid, hmatched] at hunmatched
        cases hunmatched
      have hfind := (h.kept l.id hpending).trans (find?_of_mem hl)
      exact ⟨l, (find?_eq_some.mp hfind).1, hmatched, hid⟩
    · obtain ⟨l', hl', _, hmatched, hid⟩ := matchOf_eq_some.mp hmatch
      exact ⟨l', hl', hmatched, hid⟩

/-- If none of its candidates has been taken, a line that was passed over has no only candidate after it. -/
lemma Passed.candidatesFor_ne (h : Passed businessDay scope db r db') (hdb : Matching db) (hdb' : Matching db')
    (hnot : ¬ TakenLater businessDay (db.passLines r) (db.pendingLines r) db db') (hl : l ∈ db'.pendingLines r)
    (x : JournalLine × JournalEntry) :
    candidatesFor businessDay (db.passLines r) (db'.usedJournalIds scope) l ≠ [x] := by
  obtain ⟨r', hrows, hrow, hlines, _⟩ := h.lines
  have hr' : r' ∈ db'.reconciliations := hrows ▸ mem_put_self _ _
  obtain ⟨before, after, hsplit⟩ := List.append_of_mem (h.pending hl)
  have hunmatched := (mem_pendingLines.mp hl).2.2.2
  have hover : db'.matchOf l = none :=
    matchOf_unmatched (find?_of_mem (mem_pendingLines.mp hl).1) hunmatched
  obtain ⟨y, _, hfound⟩ | ⟨hne, _⟩ := h.passed before l after hsplit
  · rw [matchOf_matchedWith hfound] at hover
    cases hover
  have hsame : candidatesFor businessDay (db.passLines r) (db'.usedJournalIds scope) l =
      candidatesFor businessDay (db.passLines r) (before.filterMap db'.matchOf ++ db.usedJournalIds scope)
      l := by
    refine candidatesFor_congr fun y hy hday hamount => ?_
    have hy' : y ∈ db.linesInRange r := List.mem_of_mem_take hy
    rw [mem_usedJournalIds hdb' hr' (by rw [hrow, h.company]) (by rw [hrow, h.branch]) (hlines ▸ hy'),
      ← taken_iff hdb h.mem h.company h.branch before hy', h.matched_iff, Taken]
    refine or_congr_right' fun hfree => ⟨fun htaken => ?_, fun htaken => ?_⟩
    · obtain ⟨p, hp, hmatch⟩ := htaken
      by_contra hbefore
      rw [hsplit, mem_append, mem_cons] at hp
      obtain hp | rfl | hp := hp
      · exact hbefore ⟨p, hp, hmatch⟩
      · rw [hover] at hmatch
        cases hmatch
      · exact hnot ⟨before, l, after, hsplit, hover, y,
          ⟨hy, fun htaken => htaken.elim hfree hbefore, hday, hamount⟩,
          p, hp, hmatch⟩
    · obtain ⟨p, hp, hmatch⟩ := htaken
      exact ⟨p, hsplit ▸ List.mem_append_left _ hp, hmatch⟩
  rw [hsame]
  exact hne x

theorem autoMatch_only {y : BankReconciliation × ℕ} (hdb : Matching db)
    (h : Commits (autoMatchReconciliation businessDay scope id) db y db') :
    ∃ r ∈ db.reconciliations, r.id = id ∧
      MatchesOnly businessDay ((db.linesInRange r).take 2000) (db.pendingLines r) db db' ∧
        ∀ y' db'', Commits (autoMatchReconciliation businessDay scope id) db' y' db'' →
          y'.2 = 0 ∨ TakenLater businessDay ((db.linesInRange r).take 2000) (db.pendingLines r) db db' := by
  obtain ⟨r, rfl, hpassed⟩ := autoMatch_passed h
  refine ⟨r, hpassed.mem, rfl, hpassed.matchesOnly hdb, fun y' db'' h' => ?_⟩
  by_cases hlater : TakenLater businessDay ((db.linesInRange r).take 2000) (db.pendingLines r) db db'
  · exact .inr hlater
  obtain ⟨r', hrows, hrow, hlines, hpending⟩ := hpassed.lines
  obtain ⟨r'', hr'', hid, _, _, t, hloop, _⟩ := autoMatch_commits h'
  have hr' : r' ∈ db'.reconciliations := hrows ▸ mem_put_self _ _
  obtain rfl := eq_of_key_eq hr'' hr' (by rw [hid, hrow])
  rw [hlines] at hloop
  refine .inl (autoMatchLines_none (fun l hl => ?_) hloop)
  exact hpassed.candidatesFor_ne hdb (autoMatch_matching hdb h).1 hlater ((hpending l).mp hl)

/-! ### Two accounts -/

lemma commits_of_count (businessDay : ℕ → ℕ × ℕ × ℕ) (scope : TenantScope) (id : ℕ) (db : BankDb) {n : ℕ}
    (h : (execute (autoMatchReconciliation businessDay scope id) db).1.toOption.map Prod.snd = some n) :
    ∃ y, y.2 = n ∧ Commits (autoMatchReconciliation businessDay scope id) db y
      (execute (autoMatchReconciliation businessDay scope id) db).2 := by
  cases hres : (execute (autoMatchReconciliation businessDay scope id) db).1 with
  | ok y =>
    rw [hres] at h
    exact ⟨y, Option.some.inj h, commits_of_execute hres⟩
  | error e =>
    rw [hres] at h
    cases h

def reconciliationOfAll : BankReconciliation where
  id := 1
  companyId := 1
  branchId := some 1
  bankAccountId := some 5
  statementId := some 1
  startDate := 0
  endDate := 9
  bookBalance := 0
  bankBalance := 0
  difference := 0

def onAccount (journalLines : Table JournalLine.id) (statementLines : Table BankStatementLine.id) : BankDb where
  nextId := 2
  branches := Table.empty.put ⟨1, 1⟩
  accounts := Table.empty.put ⟨5, 1, .asset, true⟩
  journalEntries := (Table.empty.put ⟨1, "JRN-1", 1, "1", "Penjualan"⟩).put ⟨2, "JRN-2", 1, "2", "Penjualan"⟩
  journalLines
  statements := Table.empty.put ⟨1, 1, some 1, some 5, none, none, none, none⟩
  statementLines
  reconciliations := Table.empty.put reconciliationOfAll

def sameReceipts : BankDb :=
  onAccount ((Table.empty.put ⟨1, 1, 5, 10, 0⟩).put ⟨2, 2, 5, 10, 0⟩)
    ((Table.empty.put { id := 1, statementId := 1, transactionDate := 1, credit := 10 }).put
      { id := 2, statementId := 1, transactionDate := 1, credit := 10, reference := some "JRN-2" })

def manyLines : BankDb :=
  onAccount
    { rows := (List.range 2001).map fun n => ⟨n + 1, 1, 5, if n = 0 ∨ n = 2000 then 10 else 1, 0⟩
      nodup := by
        rw [map_map]
        exact List.nodup_range.map fun _ _ h => Nat.succ.inj h }
    (Table.empty.put { id := 1, statementId := 1, transactionDate := 1, credit := 10 })

lemma sameReceipts_matching : Matching sameReceipts where
  statement := by
    have hall : ∀ r ∈ sameReceipts.reconciliations.rows, ∃ s ∈ sameReceipts.statements.rows,
        r.statementId = some s.id ∧ s.companyId = r.companyId ∧ s.branchId = r.branchId := by decide +kernel
    exact hall
  account := by
    have hall : ∀ r ∈ sameReceipts.reconciliations.rows, ∃ a ∈ sameReceipts.accounts.rows,
        r.bankAccountId = some a.id ∧ r.branchId = some a.branchId ∧
          ∃ b ∈ sameReceipts.branches.rows, b.id = a.branchId ∧ b.companyId = r.companyId := by decide +kernel
    exact hall
  once := by
    have hnone : ∀ l ∈ sameReceipts.statementLines.rows, l.matched = false := by decide +kernel
    intro l hl _ _ hmatched
    rw [hnone l hl] at hmatched
    cases hmatched
  joins := by
    have hnone : ∀ l ∈ sameReceipts.statementLines.rows, l.matched = false := by decide +kernel
    intro l hl hmatched
    rw [hnone l hl] at hmatched
    cases hmatched

def passedReceipts : BankDb := (execute (autoMatchReconciliation calendarDay ⟨1, 1⟩ 1) sameReceipts).2

theorem autoMatch_only_sameReceipts : ∃ r ∈ sameReceipts.reconciliations, r.id = 1 ∧
      MatchesOnly calendarDay ((sameReceipts.linesInRange r).take 2000) (sameReceipts.pendingLines r)
        sameReceipts passedReceipts ∧
        ∀ y' db'', Commits (autoMatchReconciliation calendarDay ⟨1, 1⟩ 1) passedReceipts y' db'' →
          y'.2 = 0 ∨ TakenLater calendarDay ((sameReceipts.linesInRange r).take 2000)
            (sameReceipts.pendingLines r) sameReceipts passedReceipts := by
  obtain ⟨y, _, hcommits⟩ := commits_of_count calendarDay ⟨1, 1⟩ 1 sameReceipts (n := 1) (by decide +kernel)
  exact autoMatch_only sameReceipts_matching hcommits

theorem not_autoMatchesOnce :
    ¬ AutoMatchesOnce calendarDay ⟨1, 1⟩ 1 sameReceipts ∧ ¬ AutoMatchesOnce calendarDay ⟨1, 1⟩ 1 manyLines := by
  constructor
  · intro honce
    obtain ⟨y, _, hfirst⟩ := commits_of_count calendarDay ⟨1, 1⟩ 1 sameReceipts (n := 1) (by decide +kernel)
    obtain ⟨y', hcount, hsecond⟩ := commits_of_count calendarDay ⟨1,
      1⟩ 1 passedReceipts (n := 1) (by decide +kernel)
    have hzero := (honce reconciliationOfAll (mem_put_self _ _) rfl y _ hfirst).2 y' _ hsecond
    rw [hcount] at hzero
    cases hzero
  · intro honce
    obtain ⟨y, _, hpass⟩ := commits_of_count calendarDay ⟨1, 1⟩ 1 manyLines (n := 1) (by decide +kernel)
    have hpending : manyLines.pendingLines reconciliationOfAll =
        [] ++ { id := 1, statementId := 1, transactionDate := 1, credit := 10 } :: [] := by
      decide +kernel
    obtain ⟨x, hid, _, honly⟩ :=
      (honce reconciliationOfAll (mem_put_self _ _) rfl y _ hpass).1 _ _ _ hpending 1
      (by decide +kernel)
    have hlast : Agrees calendarDay (manyLines.linesInRange reconciliationOfAll)
        (Taken manyLines (execute (autoMatchReconciliation calendarDay ⟨1, 1⟩ 1) manyLines).2 [])
        { id := 1, statementId := 1, transactionDate := 1, credit := 10 }
        (⟨2001, 1, 5, 10, 0⟩, ⟨1, "JRN-1", 1, "1", "Penjualan"⟩) := by
      refine ⟨by decide +kernel, ?_, rfl, by decide +kernel⟩
      rintro (⟨l, hl, hmatched, _⟩ | ⟨l, hl, _⟩)
      · have hnone : ∀ l ∈ manyLines.statementLines.rows, l.matched = false := by decide +kernel
        rw [hnone l hl] at hmatched
        cases hmatched
      · cases hl
    obtain hall | ⟨reference, hreference, _⟩ := honly
    · rw [← hall _ hlast] at hid
      cases hid
    · cases hreference

end Mayatoko.Extensions
