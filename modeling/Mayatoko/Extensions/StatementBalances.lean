import Mayatoko.Extensions.Reconciled

/-!
# The balance of a bank statement

A reconciliation takes the balance of the bank from the closing balance of the statement, from the last of its
lines in the range that has a balance, or from the opening balance and the lines of the range. For a statement
whose balances agree with each other, what it takes is the balance at the end of the range exactly when the
lines that it leaves out or counts too much come to nothing.
-/

namespace Mayatoko.Extensions

open Core Transit BankDb

/-! ### What lines move -/

def net (lines : List BankStatementLine) : ℚ := (lines.map fun l => l.credit - l.debit).sum

@[simp] lemma net_nil : net [] = 0 := rfl

@[simp] lemma net_cons (l : BankStatementLine) (lines : List BankStatementLine) :
    net (l :: lines) = l.credit - l.debit + net lines := by
  simp [net]

@[simp] lemma net_append (lines lines' : List BankStatementLine) :
    net (lines ++ lines') = net lines + net lines' := by
  simp [net]

lemma net_filter_add (p : BankStatementLine → Bool) (lines : List BankStatementLine) :
    net (lines.filter p) + net (lines.filter fun l => !p l) = net lines := by
  induction lines with
  | nil => rw [List.filter_nil, List.filter_nil, net_nil, add_zero]
  | cons l lines ih =>
    rw [List.filter_cons, List.filter_cons, net_cons, ← ih]
    cases p l with
    | true =>
      rw [if_pos rfl, if_neg (by decide), net_cons]
      ring
    | false =>
      rw [if_neg (by decide), Bool.not_false, if_pos rfl, net_cons]
      ring

def upTo (finish : ℕ) (lines : List BankStatementLine) : List BankStatementLine :=
  lines.filter fun l => l.transactionDate ≤ finish

def beyond (finish : ℕ) (lines : List BankStatementLine) : List BankStatementLine :=
  lines.filter fun l => finish < l.transactionDate

def within (start finish : ℕ) (lines : List BankStatementLine) : List BankStatementLine :=
  lines.filter fun l => start ≤ l.transactionDate && l.transactionDate ≤ finish

lemma net_upTo_add_beyond (finish : ℕ) (lines : List BankStatementLine) :
    net (upTo finish lines) + net (beyond finish lines) = net lines := by
  rw [← net_filter_add (fun l => l.transactionDate ≤ finish) lines, upTo, beyond]
  congr 2
  refine filter_congr fun l _ => ?_
  rw [← decide_not, decide_eq_decide, not_le]

lemma net_upTo_eq {start finish : ℕ} (h : start ≤ finish) (lines : List BankStatementLine) :
    net (upTo finish lines) =
      net (within start finish lines) + net (lines.filter fun l => l.transactionDate < start) := by
  rw [← net_filter_add (fun l => start ≤ l.transactionDate) (upTo finish lines), upTo, List.filter_filter,
    List.filter_filter, within]
  congr 2
  refine filter_congr fun l _ => ?_
  rw [← decide_not, ← Bool.decide_and, decide_eq_decide, not_le]
  constructor
  · exact And.left
  · exact fun hlt => ⟨hlt, hlt.le.trans h⟩

lemma foldl_net (lines : List BankStatementLine) (opening : ℚ) :
    lines.foldl (fun balance l => balance + l.credit - l.debit) opening = opening + net lines := by
  induction lines generalizing opening with
  | nil => rw [net_nil, add_zero, List.foldl_nil]
  | cons l lines ih =>
    rw [List.foldl_cons, ih, net_cons]
    ring

/-! ### Statements -/

/-- The balances that a statement gives, of its own and of its lines, agree with one opening balance and with
what the lines move, in the order in which they are listed. -/
structure Consistent (opening : ℚ) (s : BankStatement) (lines : List BankStatementLine) : Prop where
  opened : ∀ b, s.openingBalance = some b → b = opening
  running : ∀ before l after, lines = before ++ l :: after → ∀ b, l.balance = some b →
    b = opening + net (before ++ [l])
  closed : ∀ b, s.closingBalance = some b → b = opening + net lines

/-- The line whose balance is taken: the first one listed of those with a balance and the latest date. -/
def latest (lines : List BankStatementLine) : Option BankStatementLine :=
  ((lines.filter fun l => l.balance.isSome).insertionSort
    fun a b => b.transactionDate ≤ a.transactionDate).head?

lemma latest_eq_some {lines : List BankStatementLine} {l : BankStatementLine} (h : latest lines = some l) :
    l ∈ lines ∧ l.balance.isSome = true := by
  have hmem := List.mem_of_mem_head? h
  rw [List.mem_insertionSort, mem_filter] at hmem
  exact hmem

/-- What is taken for the balance of the bank leaves out and counts too much what comes to nothing. The closing
balance counts the lines after the range. The balance of a line leaves out those that are listed after it, and
counts those listed before it which are dated after the range. The opening balance leaves out the lines before
the range. A balance that is only given is right if it is the right one. -/
def ReadsRight (opening : ℚ) (s : BankStatement) (lines : List BankStatementLine) (start finish : ℕ)
    (given : Option ℚ) : Prop :=
  match s.closingBalance, latest (within start finish lines), s.openingBalance with
  | some _, _, _ => net (beyond finish lines) = 0
  | none, some l, _ => ∀ before after, lines = before ++ l :: after →
      net (upTo finish after) = net (beyond finish before)
  | none, none, some _ => net (lines.filter fun l => l.transactionDate < start) = 0
  | none, none, none => given = some (opening + net (upTo finish lines))

section Balance

variable {opening : ℚ} {s : BankStatement} {lines : List BankStatementLine} {start finish : ℕ}

lemma closing_right_iff {b : ℚ} (hc : Consistent opening s lines) (hb : s.closingBalance = some b) :
    b = opening + net (upTo finish lines) ↔ net (beyond finish lines) = 0 := by
  rw [hc.closed b hb, ← net_upTo_add_beyond finish lines]
  constructor <;> intro h <;> linarith

lemma running_right_iff {b : ℚ} {before after : List BankStatementLine} {l : BankStatementLine}
    (hc : Consistent opening s lines) (hl : l.transactionDate ≤ finish) (hb : l.balance = some b)
    (hsplit : lines = before ++ l :: after) :
    b = opening + net (upTo finish lines) ↔ net (upTo finish after) = net (beyond finish before) := by
  have hup : net (upTo finish lines) =
      net (upTo finish before) + (l.credit - l.debit) + net (upTo finish after) := by
    rw [hsplit, upTo, filter_append, List.filter_cons, if_pos (decide_eq_true hl), net_append, net_cons,
      upTo, upTo]
    ring
  rw [hc.running before l after hsplit b hb, hup, net_append, ← net_upTo_add_beyond finish before]
  simp only [net_cons, net_nil]
  constructor <;> intro h <;> linarith

lemma opening_right_iff {b : ℚ} (hc : Consistent opening s lines) (hle : start ≤ finish)
    (hb : s.openingBalance = some b) :
    b + net (within start finish lines) = opening + net (upTo finish lines) ↔
      net (lines.filter fun l => l.transactionDate < start) = 0 := by
  rw [hc.opened b hb, net_upTo_eq hle]
  constructor <;> intro h <;> linarith

/-- What is taken is right exactly where what is left out or counted too much comes to nothing. -/
lemma readsRight_iff {given : Option ℚ} {b : ℚ} (hc : Consistent opening s lines) (hle : start ≤ finish)
    (hb : ((s.closingBalance.or (lastBalance (within start finish lines))).or
      (s.openingBalance.map fun opening =>
        (within start finish lines).foldl (fun balance l => balance + l.credit - l.debit) opening)).or given =
          some b) :
    b = opening + net (upTo finish lines) ↔ ReadsRight opening s lines start finish given := by
  have hlast : lastBalance (within start finish lines) =
      (latest (within start finish lines)).bind BankStatementLine.balance := rfl
  rw [hlast] at hb
  rw [ReadsRight]
  cases hclosing : s.closingBalance with
  | some c =>
    rw [hclosing] at hb
    obtain rfl := Option.some.inj hb
    exact closing_right_iff hc hclosing
  | none =>
    rw [hclosing, Option.none_or] at hb
    cases hlatest : latest (within start finish lines) with
    | some l =>
      obtain ⟨hmem, hsome⟩ := latest_eq_some hlatest
      obtain ⟨hmem, hrange⟩ := mem_filter.mp hmem
      rw [Bool.and_eq_true, decide_eq_true_eq, decide_eq_true_eq] at hrange
      obtain ⟨c, hbalance⟩ := Option.isSome_iff_exists.mp hsome
      rw [hlatest, Option.bind_some, hbalance] at hb
      obtain rfl := Option.some.inj hb
      constructor
      · intro h before after hsplit
        exact (running_right_iff hc hrange.2 hbalance hsplit).mp h
      · intro h
        obtain ⟨before, after, hsplit⟩ := List.append_of_mem hmem
        exact (running_right_iff hc hrange.2 hbalance hsplit).mpr (h before after hsplit)
    | none =>
      rw [hlatest, Option.bind_none, Option.none_or] at hb
      cases hopening : s.openingBalance with
      | some c =>
        rw [hopening] at hb
        obtain rfl := Option.some.inj hb
        change (within start finish lines).foldl _ c = _ ↔ _
        rw [foldl_net]
        exact opening_right_iff hc hle hopening
      | none =>
        rw [hopening] at hb
        have hgiven : given = some b := hb
        rw [hgiven]
        exact Option.some_inj.symm

end Balance

variable {newDate : String → Option ℕ} {scope : TenantScope} {db db' : BankDb} {r : BankReconciliation}

def BankDb.linesOf (db : BankDb) (statementId : ℕ) : List BankStatementLine :=
  db.statementLines.findMany fun l => l.statementId = statementId

lemma within_linesOf {statementId start finish : ℕ} :
    (db.statementLines.findMany fun l => l.statementId = statementId &&
      (start ≤ l.transactionDate && l.transactionDate ≤ finish)) =
        within start finish (db.linesOf statementId) := by
  rw [within, BankDb.linesOf, Table.findMany, Table.findMany, List.filter_filter]
  refine filter_congr fun l _ => ?_
  rw [Bool.and_comm]

lemma insertReconciliation_bankBalance {bankAccountId statementId start finish : ℕ}
    {lines : List BankStatementLine} {bookBalance bankBalance : ℚ}
    (h : Commits (insertReconciliation scope bankAccountId statementId start finish lines bookBalance
      bankBalance) db r db') : r.bankBalance = bankBalance := by
  obtain h := commits_get_bind.mp h
  split at h
  · obtain ⟨⟨_, _, hbank⟩, h⟩ := commits_require_bind.mp h
    obtain ⟨rfl, _⟩ := commits_pure.mp h
    exact hbank
  · obtain ⟨_, _, _, h⟩ := commits_bind.mp h
    obtain ⟨_, _, _, h⟩ := commits_bind.mp h
    obtain ⟨rfl, _⟩ := commits_pure.mp h
    rfl

/-- The reconciliation of a range of a statement whose balances agree has the balance at the end of the range
exactly when what it takes for it leaves out and counts too much what comes to nothing. -/
theorem bankBalance_right_iff {dto : CreateReconciliation} {s : BankStatement} {opening : ℚ}
    {start finish : ℕ} (hs : db.statements.find? dto.statementId = some s)
    (hconsistent : Consistent opening s (db.linesOf s.id))
    (hstart : Commits (boundaryDate newDate dto.startDate false) db start db)
    (hfinish : Commits (boundaryDate newDate dto.endDate true) db finish db)
    (h : Commits (createReconciliation newDate scope dto) db r db') :
    r.bankBalance = opening + net (upTo finish (db.linesOf s.id)) ↔
      ReadsRight opening s (db.linesOf s.id) start finish dto.bankBalance := by
  obtain ⟨_, h⟩ := commits_require_bind.mp h
  obtain ⟨start', hstart', h⟩ := commits_orThrow_bind.mp h
  obtain ⟨finish', hfinish', h⟩ := commits_orThrow_bind.mp h
  obtain rfl : start = start' := Option.some.inj ((commits_orThrow.mp hstart).1.symm.trans hstart')
  obtain rfl : finish = finish' := Option.some.inj ((commits_orThrow.mp hfinish).1.symm.trans hfinish')
  obtain ⟨hle, h⟩ := commits_require_bind.mp h
  obtain ⟨s', _, hs', h⟩ := commits_bind.mp h
  obtain ⟨rfl, hfind, _⟩ := scopedBankStatement_commits hs'
  obtain rfl : s = s' := mem_unique hs hfind
  obtain ⟨bankAccountId, _, h⟩ := commits_orThrow_bind.mp h
  obtain ⟨_, h⟩ := commits_require_bind.mp h
  obtain ⟨_, _, haccount, h⟩ := commits_bind.mp h
  obtain ⟨rfl, _⟩ := assertBankAccount_commits haccount
  obtain ⟨_, h⟩ := commits_require_bind.mp h
  obtain ⟨_, h⟩ := commits_require_bind.mp h
  obtain ⟨_, h⟩ := commits_require_bind.mp (commits_get_bind.mp h)
  obtain ⟨bookBalance, _, hbook, h⟩ := commits_bind.mp h
  obtain rfl := readOnly_journalBookBalance.eq hbook
  obtain ⟨bankBalance, hbank, h⟩ := commits_orThrow_bind.mp h
  obtain ⟨_, h⟩ := commits_require_bind.mp h
  obtain ⟨_, h⟩ := commits_require_bind.mp h
  rw [within_linesOf] at hbank
  rw [insertReconciliation_bankBalance h]
  exact readsRight_iff hconsistent hle hbank

/-! ### Two receipts, and the first of them -/

def twoReceiptsOf (openingBalance closingBalance : Option ℚ) : BankDb :=
  { twoReceipts with
    statements := Table.empty.put ⟨1, 1, some 1, some 5, some 0, some 9, openingBalance, closingBalance⟩ }

lemma consistent_twoReceiptsOf {openingBalance closingBalance : Option ℚ}
    (ho : ∀ b, openingBalance = some b → b = 0) (hc : ∀ b, closingBalance = some b → b = 30) :
    Consistent 0 ⟨1, 1, some 1, some 5, some 0, some 9, openingBalance, closingBalance⟩
      ((twoReceiptsOf openingBalance closingBalance).linesOf 1) := by
  have hlines : (twoReceiptsOf openingBalance closingBalance).linesOf 1 = twoReceipts.linesOf 1 := rfl
  have hrows : twoReceipts.linesOf 1 =
      [{ id := 1, statementId := 1, transactionDate := 1, credit := 10, balance := some 10 },
        { id := 2, statementId := 1, transactionDate := 3, credit := 20, balance := some 30 }] := by
    decide +kernel
  rw [hlines, hrows]
  constructor
  case opened => exact ho
  case running =>
    intro before l after hsplit b hb
    match before with
    | [] =>
      obtain ⟨rfl, _⟩ := List.cons.inj hsplit
      obtain rfl := Option.some.inj hb
      decide +kernel
    | [x] =>
      obtain ⟨rfl, hrest⟩ := List.cons.inj hsplit
      obtain ⟨rfl, _⟩ := List.cons.inj hrest
      obtain rfl := Option.some.inj hb
      decide +kernel
    | x :: y :: before =>
      have hlength := congrArg List.length hsplit
      simp only [length_cons, List.length_nil, List.length_append] at hlength
      omega
  case closed =>
    intro b hb
    rw [hc b hb]
    decide +kernel

def firstReceipt : CreateReconciliation := { statementId := 1, startDate := "0", endDate := "2" }

def firstReceiptReconciled (bankBalance : ℚ) : BankReconciliation where
  id := 1
  companyId := 1
  branchId := some 1
  bankAccountId := some 5
  statementId := some 1
  status := .inProgress
  startDate := 0
  endDate := 2
  bookBalance := 10
  bankBalance
  difference := bankBalance - 10

/-- Where the statement has a closing balance, the reconciliation of the first receipt has the balance after the
second one. -/
theorem bankBalance_wrong_closing : ∃ db', Consistent 0 ⟨1, 1, some 1, some 5, some 0, some 9, some 0, some 30⟩
      ((twoReceiptsOf (some 0) (some 30)).linesOf 1) ∧
    Commits (createReconciliation dayNumber ⟨1, 1⟩ firstReceipt) (twoReceiptsOf (some 0) (some 30))
      (firstReceiptReconciled 30) db' ∧
    (firstReceiptReconciled 30).bankBalance ≠
      0 + net (upTo 2 ((twoReceiptsOf (some 0) (some 30)).linesOf 1)) :=
  ⟨_, consistent_twoReceiptsOf (fun _ h => (Option.some.inj h).symm) fun _ h => (Option.some.inj h).symm,
    commits_of_execute (by decide +kernel), by decide +kernel⟩

theorem bankBalance_right_firstReceipt : (firstReceiptReconciled 10).bankBalance =
      0 + net (upTo 2 ((twoReceiptsOf (some 0) none).linesOf 1)) ↔
    ReadsRight 0 ⟨1, 1, some 1, some 5, some 0, some 9, some 0, none⟩
      ((twoReceiptsOf (some 0) none).linesOf 1) 0 2 none :=
  @bankBalance_right_iff dayNumber ⟨1, 1⟩ _ _ _ firstReceipt _ _ _ _ (by decide +kernel)
    (consistent_twoReceiptsOf (fun _ h => (Option.some.inj h).symm) (by simp))
    (commits_of_execute (by decide +kernel)) (commits_of_execute (by decide +kernel))
    (commits_of_execute (by decide +kernel))

end Mayatoko.Extensions
