import Mayatoko.Analytics.DailySummaries

/-!
# The days of the daily summaries

Building the summaries of a date again replaces those of one day by what the sales and the lines of that day come
to, and leaves the other days alone. The day is the date that was requested exactly where the clock of the server
is not ahead of UTC at its midnight and the date is not in the years 0 to 99. Then the summaries of a range of
dates count each sale and each line of the range once, and building a date once more changes no row.
-/

namespace Mayatoko.Analytics

open Core
open Transit (TenantScope)
open Extensions (isDateOnly)

/-! ### What summaries are to be -/

namespace SourceDb

def salesSummaries (src : SourceDb) (scope : TenantScope) (day : ℤ) : List DailySalesSummary :=
  let sales := src.salesAt scope fun t => dayOf t = day
  (keysOf (fun sale => sale.channel.name) sales).map fun channel =>
    salesRow scope (day * msPerDay) (channel, totalOf (fun sale => sale.channel.name) Sale.totals sales channel)

def financeSummaries (src : SourceDb) (scope : TenantScope) (day : ℤ) : List DailyFinanceSummary :=
  let lines := src.linesAt scope fun t => dayOf t = day
  (keysOf JournalLine.accountId lines).map fun accountId =>
    financeRow scope (day * msPerDay) (accountId, totalOf JournalLine.accountId JournalLine.amounts lines accountId)

end SourceDb

def DailySalesSummary.On (scope : TenantScope) (day : ℤ) (row : DailySalesSummary) : Prop :=
  row.branchId = scope.branchId ∧ row.businessDate = day * msPerDay

def DailyFinanceSummary.On (scope : TenantScope) (day : ℤ) (row : DailyFinanceSummary) : Prop :=
  row.branchId = scope.branchId ∧ row.businessDate = day * msPerDay

instance (scope : TenantScope) (day : ℤ) : DecidablePred (DailySalesSummary.On scope day) :=
  fun row => inferInstanceAs (Decidable (row.branchId = scope.branchId ∧ row.businessDate = day * msPerDay))

instance (scope : TenantScope) (day : ℤ) : DecidablePred (DailyFinanceSummary.On scope day) :=
  fun row => inferInstanceAs (Decidable (row.branchId = scope.branchId ∧ row.businessDate = day * msPerDay))

structure SummaryDb.Belongs (db : SummaryDb) (scope : TenantScope) : Prop where
  branch : ∃ branch ∈ db.branches, branch.id = scope.branchId ∧ branch.companyId = scope.companyId
  sales : ∀ row ∈ db.dailySales, ∀ branch ∈ db.branches, branch.id = row.branchId → branch.companyId = row.companyId
  finance : ∀ row ∈ db.dailyFinance, ∀ branch ∈ db.branches, branch.id = row.branchId →
    branch.companyId = row.companyId

structure SummaryDb.Summarizes (db : SummaryDb) (scope : TenantScope) (day : ℤ) : Prop where
  sales : db.dailySales.findMany (fun row => row.On scope day) = db.salesSummaries scope day
  finance : db.dailyFinance.findMany (fun row => row.On scope day) = db.financeSummaries scope day

structure SummaryDb.CountsOnce (db : SummaryDb) (scope : TenantScope) (days : List ℤ) : Prop where
  sales : ((db.dailySales.findMany fun row => row.branchId = scope.branchId ∧
      row.businessDate ∈ days.map (· * msPerDay)).map DailySalesSummary.toSalesTotals).sum =
    ((db.salesAt scope fun t => dayOf t ∈ days).map Sale.totals).sum
  finance : ((db.dailyFinance.findMany fun row => row.branchId = scope.branchId ∧
      row.businessDate ∈ days.map (· * msPerDay)).map fun row => (row.debit, row.credit)).sum =
    ((db.linesAt scope fun t => dayOf t ∈ days).map JournalLine.amounts).sum

def SummaryDb.SameSummaries (db db' : SummaryDb) : Prop :=
  (∀ row, row ∈ db'.dailySales ↔ row ∈ db.dailySales) ∧ ∀ row, row ∈ db'.dailyFinance ↔ row ∈ db.dailyFinance

def Materializes (host : Host) (userId : ℕ) (scope : TenantScope) (db : SummaryDb) (d : CalendarDate)
    (db' : SummaryDb) : Prop :=
  ∃ result, Commits (materializeDailySummaries host { businessDate := some d.text } userId scope) db result db'

/-- The summaries of the dates of a range are stored as they should be, count everything once, and stay as they
are where a date is done again. -/
structure SummarizesRight (host : Host) (dates : List CalendarDate) : Prop where
  stores : ∀ userId scope db, SummaryDb.Belongs db scope → ∀ d ∈ dates,
    ∃ db', Materializes host userId scope db d db' ∧ db'.toSourceDb = db.toSourceDb ∧ db'.Summarizes scope d.day
  counts : dates.Nodup → ∀ userId scope db db', SummaryDb.Belongs db scope →
    Run (Materializes host userId scope) db dates db' →
      db'.toSourceDb = db.toSourceDb ∧ db'.CountsOnce scope (dates.map CalendarDate.day)
  again : ∀ userId scope db db' db'', SummaryDb.Belongs db scope →
    Run (Materializes host userId scope) db dates db' →
      ∀ d ∈ dates, Materializes host userId scope db' d db'' → db'.SameSummaries db''

section Replaced

variable {ρ : Type} {l new : List ρ} {p q : ρ → Bool}

lemma filter_replaced (hnew : ∀ r ∈ new, p r = true) : (l.filter (fun r => !p r) ++ new).filter p = new := by
  rw [filter_append, List.filter_filter, List.filter_eq_self.mpr hnew, filter_eq_nil_iff.mpr, nil_append]
  intro r _ h
  simp at h

lemma filter_replaced_of_not (hnew : ∀ r ∈ new, q r = false) (hq : ∀ r, q r = true → p r = false) :
    (l.filter (fun r => !p r) ++ new).filter q = l.filter q := by
  have hnone : new.filter q = [] := filter_eq_nil_iff.mpr fun r hr => by simp [hnew r hr]
  rw [filter_append, List.filter_filter, hnone, append_nil]
  refine filter_congr fun r _ => ?_
  cases hr : q r with
  | false => rfl
  | true => simp [hq r hr]

lemma mem_replaced (h : l.filter p = new) (r : ρ) : r ∈ l.filter (fun r => !p r) ++ new ↔ r ∈ l := by
  rw [mem_append, ← h, mem_filter, mem_filter]
  cases p r <;> simp

end Replaced

/-! ### One request -/

structure Rebuilt (scope : TenantScope) (day : ℤ) (db db' : SummaryDb) : Prop where
  sources : db'.toSourceDb = db.toSourceDb
  sales : db'.dailySales.rows = db.dailySales.rows.filter (fun row => !decide (row.On scope day)) ++
    db.salesSummaries scope day
  finance : db'.dailyFinance.rows = db.dailyFinance.rows.filter (fun row => !decide (row.On scope day)) ++
    db.financeSummaries scope day

def Host.dayOf (host : Host) (d : CalendarDate) : ℤ := Core.dayOf (businessDateOf (host.zone.instant d.start))

variable {host : Host} {userId : ℕ} {scope : TenantScope} {db db' db'' : SummaryDb} {d : CalendarDate} {day : ℤ}
  {dates : List CalendarDate}

lemma isDateOnly_text (d : CalendarDate) : isDateOnly d.text = true := by
  have hyear := d.year_lt
  have hmonth := d.month_lt
  have hdate := d.date_le_31
  have hhigh := isDigit_twoDigits (n := d.year / 100) (by omega)
  have hlow := isDigit_twoDigits (n := d.year % 100) (by omega)
  have hmonths := isDigit_twoDigits (n := d.month + 1) (by omega)
  have hdates := isDigit_twoDigits (n := d.date) (by omega)
  rw [isDateOnly, d.toList_text]
  simp only [twoDigits, cons_append, nil_append, List.all_cons, List.all_nil, Bool.and_true,
    Bool.and_eq_true] at hhigh hlow hmonths hdates ⊢
  exact ⟨hhigh.1, hhigh.2, hlow.1, hlow.2, hmonths.1, hmonths.2, hdates.1, hdates.2⟩

lemma text_ne_empty (d : CalendarDate) : d.text ≠ "" := by
  intro h
  have hlist := congrArg String.toList h
  rw [d.toList_text] at hlist
  simp [twoDigits] at hlist

lemma commits_requestedTime (d : CalendarDate) :
    Commits (requestedTime host { businessDate := some d.text }) db (host.zone.instant d.start) db := by
  have hfilter : (some d.text).filter (fun text => decide (text ≠ "")) = some d.text := by
    simp [Option.filter, text_ne_empty d]
  rw [requestedTime, hfilter]
  dsimp only
  rw [boundaryDate, if_pos (isDateOnly_text d), d.localTime_text]
  exact commits_orThrow.mpr ⟨rfl, rfl⟩

lemma businessDateOf_eq (host : Host) (d : CalendarDate) :
    businessDateOf (host.zone.instant d.start) = host.dayOf d * msPerDay :=
  (dayStart_dateUTC _ _ _).symm

lemma on_day_iff (day t : ℤ) : day * msPerDay ≤ t ∧ t < day * msPerDay + 86400000 ↔ Core.dayOf t = day := by
  rw [Core.dayOf, msPerDay]
  omega

lemma on_salesSummaries {src : SourceDb} : ∀ row ∈ src.salesSummaries scope day, row.On scope day := by
  intro row hrow
  obtain ⟨_, _, rfl⟩ := mem_map.mp hrow
  exact ⟨rfl, rfl⟩

lemma on_financeSummaries {src : SourceDb} : ∀ row ∈ src.financeSummaries scope day, row.On scope day := by
  intro row hrow
  obtain ⟨_, _, rfl⟩ := mem_map.mp hrow
  exact ⟨rfl, rfl⟩

lemma nodup_salesSummaries (src : SourceDb) :
    ((src.salesSummaries scope day).map DailySalesSummary.key).Nodup := by
  rw [SourceDb.salesSummaries, map_map]
  refine (nodup_keysOf _).map fun x y h => ?_
  exact congrArg (fun key : ℕ × ℤ × String => key.2.2) h

lemma nodup_financeSummaries (src : SourceDb) :
    ((src.financeSummaries scope day).map DailyFinanceSummary.key).Nodup := by
  rw [SourceDb.financeSummaries, map_map]
  refine (nodup_keysOf _).map fun x y h => ?_
  exact congrArg (fun key : ℕ × ℤ × ℕ => key.2.2) h

def SummaryDb.salesLeft (db : SummaryDb) (scope : TenantScope) (day : ℤ) : Table DailySalesSummary.key :=
  db.dailySales.deleteMany fun row => row.companyId = scope.companyId ∧ row.branchId = scope.branchId ∧
    row.businessDate = day * msPerDay

def SummaryDb.financeLeft (db : SummaryDb) (scope : TenantScope) (day : ℤ) : Table DailyFinanceSummary.key :=
  db.dailyFinance.deleteMany fun row => row.companyId = scope.companyId ∧ row.branchId = scope.branchId ∧
    row.businessDate = day * msPerDay

lemma SummaryDb.Belongs.rows_salesLeft (hdb : db.Belongs scope) (day : ℤ) :
    (db.salesLeft scope day).rows = db.dailySales.rows.filter fun row => !decide (row.On scope day) := by
  refine filter_congr fun row hrow => ?_
  obtain ⟨branch, hbranch, hid, hcompany⟩ := hdb.branch
  congr 1
  rw [decide_eq_decide]
  constructor
  · exact fun h => h.2
  · intro h
    refine ⟨?_, h⟩
    exact (hdb.sales row hrow branch hbranch (hid.trans h.1.symm)).symm.trans hcompany

lemma SummaryDb.Belongs.rows_financeLeft (hdb : db.Belongs scope) (day : ℤ) :
    (db.financeLeft scope day).rows = db.dailyFinance.rows.filter fun row => !decide (row.On scope day) := by
  refine filter_congr fun row hrow => ?_
  obtain ⟨branch, hbranch, hid, hcompany⟩ := hdb.branch
  congr 1
  rw [decide_eq_decide]
  constructor
  · exact fun h => h.2
  · intro h
    refine ⟨?_, h⟩
    exact (hdb.finance row hrow branch hbranch (hid.trans h.1.symm)).symm.trans hcompany

lemma key_notMem_sales {l : List DailySalesSummary} {row : DailySalesSummary} (hrow : row.On scope day) :
    row.key ∉ (l.filter fun r => !decide (r.On scope day)).map DailySalesSummary.key := by
  intro h
  obtain ⟨r, hr, hkey⟩ := mem_map.mp h
  have hbranch : r.branchId = row.branchId := congrArg (fun key : ℕ × ℤ × String => key.1) hkey
  have hdate : r.businessDate = row.businessDate := congrArg (fun key : ℕ × ℤ × String => key.2.1) hkey
  have hon : r.On scope day := ⟨hbranch.trans hrow.1, hdate.trans hrow.2⟩
  simpa [hon] using (mem_filter.mp hr).2

lemma key_notMem_finance {l : List DailyFinanceSummary} {row : DailyFinanceSummary} (hrow : row.On scope day) :
    row.key ∉ (l.filter fun r => !decide (r.On scope day)).map DailyFinanceSummary.key := by
  intro h
  obtain ⟨r, hr, hkey⟩ := mem_map.mp h
  have hbranch : r.branchId = row.branchId := congrArg (fun key : ℕ × ℤ × ℕ => key.1) hkey
  have hdate : r.businessDate = row.businessDate := congrArg (fun key : ℕ × ℤ × ℕ => key.2.1) hkey
  have hon : r.On scope day := ⟨hbranch.trans hrow.1, hdate.trans hrow.2⟩
  simpa [hon] using (mem_filter.mp hr).2

/-- A request for a date succeeds and builds the summaries of one day again. -/
lemma materializes_rebuilt (host : Host) (userId : ℕ) (hdb : db.Belongs scope) (d : CalendarDate) :
    ∃ db', Materializes host userId scope db d db' ∧ Rebuilt scope (host.dayOf d) db db' := by
  have htimes : (fun t => decide (host.dayOf d * msPerDay ≤ t ∧ t < host.dayOf d * msPerDay + 86400000)) =
      fun t => decide (Core.dayOf t = host.dayOf d) := by
    funext t
    rw [decide_eq_decide]
    exact on_day_iff _ _
  have hsales := hdb.rows_salesLeft (host.dayOf d)
  have hfinance := hdb.rows_financeLeft (host.dayOf d)
  have hnewSales : ∀ row ∈ db.salesSummaries scope (host.dayOf d), row.key ∉
      (db.salesLeft scope (host.dayOf d)).rows.map DailySalesSummary.key := fun row hrow =>
    hsales ▸ key_notMem_sales (on_salesSummaries row hrow)
  have hnewFinance : ∀ row ∈ db.financeSummaries scope (host.dayOf d), row.key ∉
      (db.financeLeft scope (host.dayOf d)).rows.map DailyFinanceSummary.key := fun row hrow =>
    hfinance ▸ key_notMem_finance (on_financeSummaries row hrow)
  have hrun : ∃ logs result, Commits
      (materializeDailySummaries host { businessDate := some d.text } userId scope) db result
      { db with
        dailySales := (db.salesSummaries scope (host.dayOf d)).foldl Table.put (db.salesLeft scope (host.dayOf d))
        dailyFinance := (db.financeSummaries scope (host.dayOf d)).foldl Table.put (db.financeLeft scope (host.dayOf d))
        auditLogs := logs } := by
    apply Exists.intro
    apply Exists.intro
    simp only [materializeDailySummaries, commits_bind]
    refine ⟨_, _, commits_requestedTime d, ?_⟩
    rw [businessDateOf_eq, htimes]
    refine ⟨_, _, commits_get.mpr ⟨rfl, rfl⟩, (), { db with dailySales := db.salesLeft scope (host.dayOf d) },
      TableOf.commits_deleteMany.mpr rfl, (), { db with
        dailySales := db.salesLeft scope (host.dayOf d)
        dailyFinance := db.financeLeft scope (host.dayOf d) }, TableOf.commits_deleteMany.mpr rfl, ?_⟩
    rw [rows_tally, rows_tally, map_map, map_map]
    refine ⟨(), _, TableOf.commits_forM_create (fun _ _ => rfl) (fun _ _ _ => rfl) (fun _ => rfl)
      (nodup_salesSummaries db.toSourceDb) hnewSales, (), _, TableOf.commits_forM_create (fun _ _ => rfl)
      (fun _ _ _ => rfl) (fun _ => rfl) (nodup_financeSummaries db.toSourceDb) hnewFinance, (), _,
      commits_modify.mpr rfl, commits_pure.mpr ⟨rfl, rfl⟩⟩
  obtain ⟨logs, result, hcommits⟩ := hrun
  refine ⟨_, ⟨result, hcommits⟩, rfl, ?_, ?_⟩
  · exact (Table.rows_foldl_put (nodup_salesSummaries _) hnewSales).trans (congrArg (· ++ _) hsales)
  · exact (Table.rows_foldl_put (nodup_financeSummaries _) hnewFinance).trans (congrArg (· ++ _) hfinance)

lemma Materializes.rebuilt (h : Materializes host userId scope db d db') (hdb : db.Belongs scope) :
    Rebuilt scope (host.dayOf d) db db' := by
  obtain ⟨t, ⟨_, ht⟩, hrebuilt⟩ := materializes_rebuilt host userId hdb d
  obtain ⟨_, hc⟩ := h
  obtain ⟨_, rfl⟩ := hc.unique ht
  exact hrebuilt

namespace Rebuilt

variable {other : ℤ}

lemma belongs (h : Rebuilt scope day db db') (hdb : db.Belongs scope) : db'.Belongs scope := by
  have hbranches : db'.branches = db.branches := congrArg SourceDb.branches h.sources
  obtain ⟨branch, hbranch, hid, hcompany⟩ := hdb.branch
  have hscope : ∀ b ∈ db.branches, b.id = scope.branchId → b.companyId = scope.companyId := by
    intro b hb hbid
    rw [eq_of_key_eq hb hbranch (hbid.trans hid.symm), hcompany]
  refine ⟨⟨branch, hbranches ▸ hbranch, hid, hcompany⟩, ?_, ?_⟩
  · intro row hrow b hb hbid
    rw [hbranches] at hb
    rw [mem_rows, h.sales, mem_append] at hrow
    obtain hold | hnew := hrow
    · exact hdb.sales row (List.mem_of_mem_filter hold) b hb hbid
    · obtain ⟨_, _, rfl⟩ := mem_map.mp hnew
      exact hscope b hb hbid
  · intro row hrow b hb hbid
    rw [hbranches] at hb
    rw [mem_rows, h.finance, mem_append] at hrow
    obtain hold | hnew := hrow
    · exact hdb.finance row (List.mem_of_mem_filter hold) b hb hbid
    · obtain ⟨_, _, rfl⟩ := mem_map.mp hnew
      exact hscope b hb hbid

lemma summarizes (h : Rebuilt scope day db db') : db'.Summarizes scope day := by
  constructor
  · rw [Table.findMany, h.sales, h.sources]
    exact filter_replaced fun row hrow => decide_eq_true (on_salesSummaries row hrow)
  · rw [Table.findMany, h.finance, h.sources]
    exact filter_replaced fun row hrow => decide_eq_true (on_financeSummaries row hrow)

lemma ne_of_mul_msPerDay (hne : other ≠ day) : day * msPerDay ≠ other * msPerDay := by
  rw [msPerDay]
  omega

lemma sales_of_ne (h : Rebuilt scope day db db') (hne : other ≠ day) :
    db'.dailySales.findMany (fun row => row.On scope other) = db.dailySales.findMany fun row => row.On scope other := by
  have hdays := ne_of_mul_msPerDay hne
  rw [Table.findMany, h.sales]
  refine filter_replaced_of_not (fun row hrow => ?_) fun row hrow => ?_
  · exact decide_eq_false fun hon => hdays ((on_salesSummaries row hrow).2.symm.trans hon.2)
  · exact decide_eq_false fun hon => hdays (hon.2.symm.trans (of_decide_eq_true hrow).2)

lemma finance_of_ne (h : Rebuilt scope day db db') (hne : other ≠ day) :
    db'.dailyFinance.findMany (fun row => row.On scope other) =
      db.dailyFinance.findMany fun row => row.On scope other := by
  have hdays := ne_of_mul_msPerDay hne
  rw [Table.findMany, h.finance]
  refine filter_replaced_of_not (fun row hrow => ?_) fun row hrow => ?_
  · exact decide_eq_false fun hon => hdays ((on_financeSummaries row hrow).2.symm.trans hon.2)
  · exact decide_eq_false fun hon => hdays (hon.2.symm.trans (of_decide_eq_true hrow).2)

lemma keeps (h : Rebuilt scope day db db') (hother : db.Summarizes scope other) :
    db'.Summarizes scope other := by
  by_cases hne : other = day
  · exact hne ▸ h.summarizes
  · refine ⟨?_, ?_⟩
    · rw [h.sales_of_ne hne, h.sources]
      exact hother.sales
    · rw [h.finance_of_ne hne, h.sources]
      exact hother.finance

lemma same (h : Rebuilt scope day db db') (hday : db.Summarizes scope day) : db.SameSummaries db' := by
  constructor
  · intro row
    rw [mem_rows, h.sales]
    exact mem_replaced hday.sales row
  · intro row
    rw [mem_rows, h.finance]
    exact mem_replaced hday.finance row

end Rebuilt

/-! ### The dates of a range -/

structure Done (scope : TenantScope) (db : SummaryDb) (dates : List CalendarDate) (db' : SummaryDb) : Prop where
  sources : db'.toSourceDb = db.toSourceDb
  belongs : db'.Belongs scope
  summarizes : ∀ d ∈ dates, db'.Summarizes scope d.day

def Host.Keeps (host : Host) (dates : List CalendarDate) : Prop := ∀ d ∈ dates, host.dayOf d = d.day

lemma keeps_run (hdb : db.Belongs scope) (hday : db.Summarizes scope day)
    (h : Run (Materializes host userId scope) db dates db') : db'.Summarizes scope day := by
  refine (h.invariant (I := fun s => s.Belongs scope ∧ s.Summarizes scope day) ?_ ⟨hdb, hday⟩).2
  rintro s d s' ⟨hs, hsday⟩ hstep
  have hrebuilt := hstep.rebuilt hs
  exact ⟨hrebuilt.belongs hs, hrebuilt.keeps hsday⟩

lemma done_of_run (hkeeps : host.Keeps dates) (hdb : db.Belongs scope)
    (h : Run (Materializes host userId scope) db dates db') : Done scope db dates db' := by
  induction h with
  | nil s => exact ⟨rfl, hdb, fun _ h => absurd h not_mem_nil⟩
  | @cons s t u d ds hstep hrest ih =>
    have hrebuilt := hstep.rebuilt hdb
    have hbelongs := hrebuilt.belongs hdb
    have hdone := ih (fun e he => hkeeps e (mem_cons_of_mem _ he)) hbelongs
    refine ⟨hdone.sources.trans hrebuilt.sources, hdone.belongs, forall_mem_cons.mpr ⟨?_, hdone.summarizes⟩⟩
    rw [← hkeeps d mem_cons_self]
    exact keeps_run hbelongs hrebuilt.summarizes hrest

lemma sum_days {ρ α M : Type} [AddCommMonoid M] {rows : List ρ} {date : ρ → ℤ} {f : ρ → M} {l : List α}
    {dayAt : α → ℤ} {amount : α → M} {days : List ℤ} (hdays : days.Nodup)
    (h : ∀ n ∈ days, ((rows.filter fun r => date r = n * msPerDay).map f).sum =
      ((l.filter fun a => dayAt a = n).map amount).sum) :
    ((rows.filter fun r => date r ∈ days.map (· * msPerDay)).map f).sum =
      ((l.filter fun a => dayAt a ∈ days).map amount).sum := by
  have hstarts : (days.map (· * msPerDay)).Nodup := hdays.map fun x y hxy =>
    mul_right_cancel₀ (by decide) hxy
  rw [sum_filter_mem rows hstarts, sum_filter_mem l hdays, map_map]
  refine congrArg List.sum (map_congr_left fun n hn => ?_)
  rw [Function.comp_apply, ← sum_group, ← sum_group]
  exact h n hn

lemma sum_salesSummaries (src : SourceDb) : ((src.salesSummaries scope day).map DailySalesSummary.toSalesTotals).sum =
    ((src.salesAt scope fun t => dayOf t = day).map Sale.totals).sum := by
  rw [SourceDb.salesSummaries, map_map]
  exact sum_keysOf _

lemma sum_financeSummaries (src : SourceDb) :
    ((src.financeSummaries scope day).map fun row => (row.debit, row.credit)).sum =
      ((src.linesAt scope fun t => dayOf t = day).map JournalLine.amounts).sum := by
  rw [SourceDb.financeSummaries, map_map]
  exact sum_keysOf _

lemma salesAt_eq_filter (src : SourceDb) (f : ℤ → Bool) :
    src.salesAt scope f = (src.salesAt scope fun _ => true).filter fun sale => f sale.createdAt := by
  rw [SourceDb.salesAt, SourceDb.salesAt, Table.findMany, Table.findMany, List.filter_filter]
  refine filter_congr fun sale _ => ?_
  rw [Bool.and_true, Bool.and_comm]

def SourceDb.lineDate (src : SourceDb) (line : JournalLine) : ℤ :=
  (src.journalEntries.find? line.journalEntryId).elim 0 JournalEntry.date

lemma linesAt_eq_filter (src : SourceDb) (f : ℤ → Bool) :
    src.linesAt scope f = (src.linesAt scope fun _ => true).filter fun line => f (src.lineDate line) := by
  rw [SourceDb.linesAt, SourceDb.linesAt, Table.findMany, Table.findMany, List.filter_filter]
  refine filter_congr fun line _ => ?_
  rw [SourceDb.lineDate]
  cases src.journalEntries.find? line.journalEntryId with
  | none => simp
  | some entry => simp [Bool.and_comm]

lemma findMany_and {ρ κ : Type} {key : ρ → κ} (t : Table key) (p q : ρ → Prop) [DecidablePred p]
    [DecidablePred q] :
    t.findMany (fun r => p r ∧ q r) = (t.findMany fun r => p r).filter fun r => q r := by
  rw [Table.findMany, Table.findMany, List.filter_filter]
  exact filter_congr fun r _ => by rw [Bool.and_comm, Bool.decide_and]

lemma countsOnce_of_summarizes {days : List ℤ} (hdays : days.Nodup) (h : ∀ n ∈ days, db.Summarizes scope n) :
    db.CountsOnce scope days := by
  constructor
  · rw [findMany_and, salesAt_eq_filter]
    refine sum_days hdays fun n hn => ?_
    rw [← salesAt_eq_filter (f := fun t => dayOf t = n), ← sum_salesSummaries, ← (h n hn).sales, ← findMany_and]
    rfl
  · rw [findMany_and, linesAt_eq_filter]
    refine sum_days hdays fun n hn => ?_
    rw [← linesAt_eq_filter (f := fun t => dayOf t = n), ← sum_financeSummaries, ← (h n hn).finance,
      ← findMany_and]
    rfl

lemma summarizesRight_of_keeps (hkeeps : host.Keeps dates) : SummarizesRight host dates := by
  constructor
  · intro userId scope db hdb d hd
    obtain ⟨db', hstep, hrebuilt⟩ := materializes_rebuilt host userId hdb d
    rw [hkeeps d hd] at hrebuilt
    exact ⟨db', hstep, hrebuilt.sources, hrebuilt.summarizes⟩
  · intro hdates userId scope db db' hdb hrun
    have hdone := done_of_run hkeeps hdb hrun
    refine ⟨hdone.sources, countsOnce_of_summarizes (hdates.map CalendarDate.day_injective) fun n hn => ?_⟩
    obtain ⟨d, hd, rfl⟩ := mem_map.mp hn
    exact hdone.summarizes d hd
  · intro userId scope db db' db'' hdb hrun d hd hagain
    have hdone := done_of_run hkeeps hdb hrun
    have hrebuilt := hagain.rebuilt hdone.belongs
    rw [hkeeps d hd] at hrebuilt
    exact hrebuilt.same (hdone.summarizes d hd)

/-! ### Requests for another day -/

def sold (createdAt : ℤ) : Sale :=
  { id := 1, branchId := 1, channel := .pos, status := .completed, subtotal := 100, total := 100, costTotal := 60,
    createdAt, items := [1] }

def oneSale (createdAt : ℤ) : SummaryDb where
  branches := Table.empty.put ⟨1, 1⟩
  sales := Table.empty.put (sold createdAt)

lemma oneSale_belongs (t : ℤ) : (oneSale t).Belongs ⟨1, 1⟩ := by
  refine ⟨⟨⟨1, 1⟩, mem_put_self _ _, rfl, rfl⟩, ?_, ?_⟩
  · exact fun row hrow => absurd hrow (not_mem_empty row)
  · exact fun row hrow => absurd hrow (not_mem_empty row)

lemma oneSale_summaries (t : ℤ) : (oneSale t).salesSummaries ⟨1, 1⟩ (dayOf t) ≠ [] := by
  intro h
  have hsale : sold t ∈ (oneSale t).salesAt ⟨1, 1⟩ fun s => dayOf s = dayOf t := by
    refine mem_findMany.mpr ⟨mem_put_self _ _, ?_⟩
    have hbranch : (oneSale t).branches.find? 1 = some ⟨1, 1⟩ := rfl
    simp [sold, hbranch]
  have hkey : SaleChannel.name .pos ∈ keysOf (fun sale => sale.channel.name)
      ((oneSale t).salesAt ⟨1, 1⟩ fun s => dayOf s = dayOf t) := mem_keysOf.mpr ⟨_, hsale, rfl⟩
  rw [List.map_eq_nil_iff.mp h] at hkey
  exact absurd hkey not_mem_nil

lemma SummarizesRight.keeps (h : SummarizesRight host dates) : host.Keeps dates := by
  intro d hd
  by_contra hne
  have hday : dayOf d.start = d.day := Int.mul_ediv_cancel _ (by decide)
  obtain ⟨db', hstep, _, hsummarizes⟩ := h.stores 1 ⟨1, 1⟩ (oneSale d.start) (oneSale_belongs _) d hd
  have hrebuilt := hstep.rebuilt (oneSale_belongs _)
  have hsales := hsummarizes.sales
  rw [hrebuilt.sales_of_ne (Ne.symm hne), hrebuilt.sources] at hsales
  exact oneSale_summaries d.start (hday ▸ hsales.symm)

/-! ### When a request is for its day -/

lemma dayOf_eq_iff (host : Host) (d : CalendarDate) :
    host.dayOf d = d.day ↔ host.zone.offset d.start ≤ 0 ∧ 100 ≤ d.year := by
  obtain ⟨hlow, hhigh⟩ := host.zone.lt_day d.start
  have hyear := d.yearFromTime_start
  have hday : Core.dayOf d.start = d.day := Int.mul_ediv_cancel _ (by decide)
  have hbusiness := businessDateOf_eq host d
  have hinstant : host.zone.instant d.start = d.day * msPerDay - host.zone.offset d.start := rfl
  rw [msPerDay] at hlow hhigh
  by_cases hahead : host.zone.offset d.start ≤ 0
  · -- The instant is on the day in UTC too.
    have hsame : Core.dayOf (host.zone.instant d.start) = d.day := by
      rw [hinstant, Core.dayOf, msPerDay]
      omega
    have hsameYear : yearFromTime (host.zone.instant d.start) = d.year := by
      rw [← hyear, yearFromTime, yearFromTime, hsame, hday]
    by_cases hcentury : 100 ≤ d.year
    · rw [businessDateOf, dateUTC_eq_dayStart (by omega), dayStart, hsame] at hbusiness
      exact iff_of_true (mul_right_cancel₀ (by decide) hbusiness.symm) ⟨hahead, hcentury⟩
    · have hlate := dayStart_lt_dateUTC (t := host.zone.instant d.start) (by omega)
      rw [← businessDateOf, hbusiness, dayStart, hsame] at hlate
      refine iff_of_false (fun heq => ?_) fun h => hcentury h.2
      exact absurd hlate (heq ▸ lt_irrefl _)
  · have hbefore : Core.dayOf (host.zone.instant d.start) = d.day - 1 := by
      rw [hinstant, Core.dayOf, msPerDay]
      omega
    refine iff_of_false (fun heq => ?_) fun h => hahead h.1
    rw [heq] at hbusiness
    by_cases hcentury : 0 ≤ yearFromTime (host.zone.instant d.start) ∧ yearFromTime (host.zone.instant d.start) ≤ 99
    · have hlate := dayStart_add_lt_dateUTC hcentury
      rw [← businessDateOf, hbusiness, dayStart, hbefore, msPerDay] at hlate
      omega
    · rw [businessDateOf, dateUTC_eq_dayStart (by omega), dayStart, hbefore, msPerDay] at hbusiness
      omega

/-- The summaries of some dates are right exactly if at the midnight of each of them the clock of the server is
not ahead of UTC, and none of them is in the years 0 to 99. -/
theorem summarizesRight_iff (host : Host) (dates : List CalendarDate) :
    SummarizesRight host dates ↔ ∀ d ∈ dates, host.zone.offset d.start ≤ 0 ∧ 100 ≤ d.year := by
  have hkeeps : SummarizesRight host dates ↔ host.Keeps dates :=
    ⟨SummarizesRight.keeps, summarizesRight_of_keeps⟩
  rw [hkeeps]
  exact forall₂_congr fun d _ => dayOf_eq_iff host d

def jakarta : Host where
  zone := { offset := fun _ => 25200000, lt_day := fun _ => by decide }
  now := 0
  newDate := fun _ => none

def midMarch : CalendarDate where
  year := 2024
  month := 2
  date := 15
  year_lt := by decide
  month_lt := by decide
  date_pos := by decide
  date_le := by decide

/-- There the summaries that are requested for a date are those of the day before. -/
theorem not_summarizesRight_jakarta : ¬ SummarizesRight jakarta [midMarch] := by
  intro h
  have hday := h.keeps midMarch mem_cons_self
  rw [dayOf_eq_iff] at hday
  exact absurd hday.1 (by decide)

end Mayatoko.Analytics
