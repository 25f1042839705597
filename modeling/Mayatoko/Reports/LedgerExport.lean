import Mayatoko.Finance.Schema
import Mayatoko.Reports.CsvText

/-!
# The export of receivables and payables

The branch of `buildReportCsv` for `RECEIVABLES` and `PAYABLES`: the lines of some accounts up to a date, each
with the balance of its account so far. They are read in the order of their ids, which need not be that of
their dates, and no more than five thousand of them. `number` is how a decimal becomes a number of the CSV.
-/

namespace Mayatoko.Reports

open Core

structure LedgerAccount where
  (id branchId companyId : ℕ)
  (code name : String)
  type : Finance.AccountType
  deriving DecidableEq

structure LedgerEntry where
  number : String
  date : ℕ
  (referenceType referenceId description : String)
  deriving DecidableEq

structure LedgerLine where
  id : ℕ
  account : LedgerAccount
  journalEntry : LedgerEntry
  debit : ℚ := 0
  credit : ℚ := 0
  deriving DecidableEq

inductive LedgerReport
  | receivables
  | payables

structure LedgerJob where
  reportType : LedgerReport
  (companyId branchId toDate : ℕ)

namespace LedgerJob

variable (job : LedgerJob)

def codes : List String :=
  match job.reportType with
  | .receivables => ["1201", "1203"]
  | .payables => ["2101", "2102", "2103", "2104"]

def wants (l : LedgerLine) : Bool :=
  l.account.branchId = job.branchId && l.account.companyId = job.companyId &&
    job.codes.contains l.account.code &&
    l.journalEntry.date ≤ job.toDate

/-- `orderBy: [{ accountId: 'asc' }, { id: 'asc' }]` -/
def byAccount (a b : LedgerLine) : Bool :=
  a.account.id < b.account.id || a.account.id = b.account.id && a.id ≤ b.id

def lines (t : Table LedgerLine.id) : List LedgerLine := (t.findSorted job.wants byAccount).take 5000

end LedgerJob

def normalBalance (type : Finance.AccountType) (debit credit : ℚ) : ℚ :=
  if type = .asset ∨ type = .expense then debit - credit else credit - debit

abbrev LedgerRow := LedgerLine × ℚ × ℚ

def accountOf (l : LedgerLine) : ℕ := l.account.id

def amountsOf (l : LedgerLine) : ℚ × ℚ := (l.debit, l.credit)

def ledgerRows (job : LedgerJob) (t : Table LedgerLine.id) : List LedgerRow :=
  runningTally accountOf amountsOf .empty (job.lines t)

variable (number : ℚ → ℚ)

def runningBalance (row : LedgerRow) : ℚ := number (normalBalance row.1.account.type row.2.1 row.2.2)

/-! ### What the export shows -/

def accountBalance (lines : List LedgerLine) (account : LedgerAccount) : ℚ :=
  let total := ((lines.filter fun l => l.account.id = account.id).map amountsOf).sum
  normalBalance account.type total.1 total.2

structure ShowsLedger (lines : List LedgerLine) (rows : List LedgerRow) : Prop where
  balance : ∀ before row after, rows = before ++ row :: after →
    (∀ x ∈ after, x.1.account.id ≠ row.1.account.id) →
      runningBalance number row = number (accountBalance lines row.1.account)
  inOrder : rows.Pairwise fun a b => a.1.account.id = b.1.account.id →
    a.1.journalEntry.date ≤ b.1.journalEntry.date
  once : ∀ l ∈ lines, (rows.map Prod.fst).count l = 1

variable {job : LedgerJob} {t : Table LedgerLine.id}

lemma map_fst_ledgerRows : (ledgerRows job t).map Prod.fst = job.lines t := map_fst_runningTally _ _

lemma nodup_lines : (job.lines t).Nodup :=
  ((t.nodup_findSorted job.wants LedgerJob.byAccount).of_map _).sublist (List.take_sublist _ _)

lemma byAccount_total : Std.Total fun a b : LedgerLine => LedgerJob.byAccount a b = true where
  total a b := by
    simp only [LedgerJob.byAccount, Bool.or_eq_true, cond_iff]
    omega

lemma byAccount_trans : IsTrans LedgerLine fun a b => LedgerJob.byAccount a b = true where
  trans a b c hab hbc := by
    simp only [LedgerJob.byAccount, Bool.or_eq_true, cond_iff] at *
    omega

lemma pairwise_lines : (job.lines t).Pairwise fun a b => LedgerJob.byAccount a b = true := by
  have := byAccount_total
  have := byAccount_trans
  exact (List.pairwise_insertionSort _ _).sublist (List.take_sublist _ _)

lemma once_iff : (∀ l ∈ t.findMany job.wants, ((ledgerRows job t).map Prod.fst).count l = 1) ↔
    (t.findMany job.wants).length ≤ 5000 := by
  rw [map_fst_ledgerRows]
  constructor
  · intro honce
    have hsub : t.findMany job.wants ⊆ job.lines t := fun l hl =>
      List.count_pos_iff.mp ((honce l hl).symm ▸ Nat.one_pos)
    have hnodup : (t.findMany job.wants).Nodup := (t.nodup_findMany job.wants).of_map _
    refine (hnodup.subperm hsub).length_le.trans ?_
    exact List.length_take_le _ _
  · intro hlength l hl
    have hlines : job.lines t = t.findSorted job.wants LedgerJob.byAccount :=
      List.take_of_length_le ((t.length_findSorted _ _).trans_le hlength)
    refine List.count_eq_one_of_mem nodup_lines ?_
    rw [hlines]
    exact Table.mem_findSorted.mpr (mem_findMany.mp hl)

lemma balance_of_length_le (hlength : (t.findMany job.wants).length ≤ 5000) {before after : List LedgerRow}
    {row : LedgerRow} (h : ledgerRows job t = before ++ row :: after)
    (hafter : ∀ x ∈ after, x.1.account.id ≠ row.1.account.id) :
    runningBalance number row = number (accountBalance (t.findMany job.wants) row.1.account) := by
  have hlines : job.lines t = t.findSorted job.wants LedgerJob.byAccount :=
    List.take_of_length_le ((t.length_findSorted _ _).trans_le hlength)
  have hperm : (job.lines t).Perm (t.findMany job.wants) := by
    rw [hlines]
    exact List.perm_insertionSort _ _
  have hlast : row.2 = totalOf accountOf amountsOf (job.lines t) row.1.account.id := runningTally_last h hafter
  have htotal : totalOf accountOf amountsOf (job.lines t) row.1.account.id =
      (((t.findMany job.wants).filter fun l => l.account.id = row.1.account.id).map amountsOf).sum := by
    rw [← sum_group]
    exact ((hperm.filter _).map _).sum_eq
  rw [runningBalance, accountBalance, hlast, htotal]

/-- The rows of an account are in the order of their dates exactly if the ids of its lines are. -/
lemma inOrder_iff (hlength : (t.findMany job.wants).length ≤ 5000) : ((ledgerRows job t).Pairwise fun a b =>
        a.1.account.id = b.1.account.id → a.1.journalEntry.date ≤ b.1.journalEntry.date) ↔
      ∀ a ∈ t.findMany job.wants, ∀ b ∈ t.findMany job.wants, a.account.id = b.account.id → a.id < b.id →
        a.journalEntry.date ≤ b.journalEntry.date := by
  have hlines : job.lines t = t.findSorted job.wants LedgerJob.byAccount :=
    List.take_of_length_le ((t.length_findSorted _ _).trans_le hlength)
  have hmem {l : LedgerLine} : l ∈ job.lines t ↔ l ∈ t.findMany job.wants := by
    rw [hlines, Table.mem_findSorted, mem_findMany]
  rw [← List.pairwise_map (f := Prod.fst)
    (R := fun a b : LedgerLine => a.account.id = b.account.id → a.journalEntry.date ≤ b.journalEntry.date),
    map_fst_ledgerRows]
  constructor
  · intro hdates a ha b hb hsame hlt
    -- of two lines one comes first, and it is the one with the smaller id
    let R (x y : LedgerLine) : Prop :=
      (x.account.id = y.account.id → x.journalEntry.date ≤ y.journalEntry.date) ∧ LedgerJob.byAccount x y = true
    have hsymm : Std.Symm fun x y => R x y ∨ R y x := ⟨fun _ _ => Or.symm⟩
    have hpairs : (job.lines t).Pairwise fun x y => R x y ∨ R y x := (hdates.and pairwise_lines).imp Or.inl
    have hne : a ≠ b := fun hab => hlt.ne (congrArg LedgerLine.id hab)
    rcases hpairs.forall (hmem.mpr ha) (hmem.mpr hb) hne with h | h
    · exact h.1 hsame
    · have hle := h.2
      simp only [LedgerJob.byAccount, Bool.or_eq_true, cond_iff] at hle
      omega
  · intro hids
    refine pairwise_lines.imp_of_mem fun {a b} ha hb hle hsame => ?_
    have hid : a.id ≤ b.id := by
      simp only [LedgerJob.byAccount, Bool.or_eq_true, cond_iff] at hle
      omega
    rcases hid.lt_or_eq with hlt | heq
    · exact hids a (hmem.mp ha) b (hmem.mp hb) hsame hlt
    · have hab := eq_of_key_eq
        (mem_findMany.mp (hmem.mp ha)).1 (mem_findMany.mp (hmem.mp hb)).1 heq
      rw [hab]

theorem showsLedger_iff (number : ℚ → ℚ) (job : LedgerJob) (t : Table LedgerLine.id) :
    ShowsLedger number (t.findMany job.wants) (ledgerRows job t) ↔
      (t.findMany job.wants).length ≤ 5000 ∧
        ∀ a ∈ t.findMany job.wants, ∀ b ∈ t.findMany job.wants, a.account.id = b.account.id → a.id < b.id →
          a.journalEntry.date ≤ b.journalEntry.date := by
  constructor
  · intro h
    have hlength := once_iff.mp h.once
    exact ⟨hlength, (inOrder_iff hlength).mp h.inOrder⟩
  · rintro ⟨hlength, horder⟩
    exact
      { balance := fun _ _ _ h hafter => balance_of_length_le number hlength h hafter
        inOrder := (inOrder_iff hlength).mpr horder
        once := once_iff.mpr hlength }

def backdated : Table LedgerLine.id where
  rows :=
    let account : LedgerAccount := ⟨1, 1, 1, "1201", "Piutang", .asset⟩
    [⟨1, account, ⟨"JE-1", 2, "SALE", "s1", "Penjualan"⟩, 50, 0⟩,
      ⟨2, account, ⟨"JE-2", 1, "SALE", "s2", "Penjualan"⟩, 30, 0⟩]
  nodup := by decide

theorem not_showsLedger_backdated :
    ¬ ShowsLedger id (backdated.findMany (LedgerJob.mk .receivables 1 1 5).wants)
      (ledgerRows ⟨.receivables, 1, 1, 5⟩ backdated) := by
  intro h
  have hdates := (inOrder_iff (by decide)).mp h.inOrder
  exact absurd (hdates _ (mem_cons_self) _ (mem_cons_of_mem _ mem_cons_self) rfl (by decide)) (by decide)

end Mayatoko.Reports
