import Mayatoko.Payroll.GrossUp

/-!
# Allocated amounts

A row is allocated to the segments that it has a day in, and the last of them gets what the others leave: its
amount is kept to the cent, whatever is rounded. A row without a day in a segment is lost. In a period on one
side of the end of the year 99 the days of a row are in segments, and the net amount after tax is the one
before it with what the methods add and deduct.
-/

namespace Mayatoko.Payroll

open Core

/-! ### Rows and segments -/

section Rows

variable {row : TemporalAmount} {rows : List TemporalAmount} {segments : List Segment} {items : List (ℕ × ℤ)}
  {allocated : List ℚ} {recognized amount : ℚ} {i : ℕ}

def TemporalAmount.Placed (row : TemporalAmount) (segments : List Segment) : Prop :=
  row.days ≠ 0 ∧ row.overlaps segments ≠ []

instance (row : TemporalAmount) (segments : List Segment) : Decidable (row.Placed segments) :=
  inferInstanceAs (Decidable (_ ∧ _))

lemma IsCents.sum {amounts : List ℚ} (h : ∀ a ∈ amounts, IsCents a) : IsCents amounts.sum := by
  induction amounts with
  | nil => exact isCents_zero
  | cons a amounts ih =>
    rw [sum_cons]
    exact (h a mem_cons_self).add (ih fun b hb => h b (mem_cons_of_mem a hb))

lemma isCents_modify (h : ∀ a ∈ allocated, IsCents a) :
    ∀ a ∈ allocated.modify i fun a => money (a + amount), IsCents a := by
  induction allocated generalizing i with
  | nil =>
    rw [List.modify_nil]
    exact h
  | cons b allocated ih =>
    obtain ⟨hb, hrest⟩ := forall_mem_cons.mp h
    cases i with
    | zero => exact forall_mem_cons.mpr ⟨isCents_money _, hrest⟩
    | succ i => exact forall_mem_cons.mpr ⟨hb, ih hrest⟩

lemma sum_modify (h : ∀ a ∈ allocated, IsCents a) (hamount : IsCents amount) (hi : i < allocated.length) :
    (allocated.modify i fun a => money (a + amount)).sum = allocated.sum + amount := by
  induction allocated generalizing i with
  | nil => exact absurd hi (Nat.not_lt_zero i)
  | cons b allocated ih =>
    obtain ⟨hb, hrest⟩ := forall_mem_cons.mp h
    cases i with
    | zero =>
      rw [List.modify_zero_cons, sum_cons, sum_cons, money_of_isCents (hb.add hamount)]
      ring
    | succ i =>
      rw [List.modify_succ_cons, sum_cons, sum_cons, ih hrest (Nat.lt_of_succ_lt_succ hi), add_assoc]

lemma isCents_recognize (h : ∀ a ∈ allocated, IsCents a) :
    ∀ a ∈ recognize row items allocated recognized, IsCents a := by
  induction items generalizing allocated recognized with
  | nil => exact h
  | cons item items ih => exact ih (isCents_modify h)

lemma length_recognize : (recognize row items allocated recognized).length = allocated.length := by
  induction items generalizing allocated recognized with
  | nil => rfl
  | cons item items ih => exact ih.trans (List.length_modify ..)

lemma length_allocateRow : (allocateRow segments allocated row).length = allocated.length := by
  rw [allocateRow]
  split_ifs
  · rfl
  · exact length_recognize

lemma length_allocate : (allocateTemporalAmounts segments rows).length = segments.length := by
  have hrows (allocated : List ℚ) : (rows.foldl (allocateRow segments) allocated).length =
      allocated.length := by
    induction rows generalizing allocated with
    | nil => rfl
    | cons row rows ih => exact (ih _).trans length_allocateRow
  exact (hrows _).trans (length_map _)

lemma sum_recognize (hitems : items ≠ []) (hlt : ∀ item ∈ items, item.1 < allocated.length)
    (h : ∀ a ∈ allocated, IsCents a) (hamount : IsCents row.amount) (hrecognized : IsCents recognized) :
    (recognize row items allocated recognized).sum = allocated.sum + (row.amount - recognized) := by
  induction items generalizing allocated recognized with
  | nil => exact absurd rfl hitems
  | cons item items ih =>
    obtain ⟨hitem, hrest⟩ := forall_mem_cons.mp hlt
    rw [recognize]
    by_cases hlast : items = []
    · subst hlast
      rw [if_pos rfl, recognize, sum_modify h (isCents_money _) hitem,
        money_of_isCents (hamount.sub hrecognized)]
    · rw [if_neg hlast]
      obtain ⟨part, hpart⟩ : ∃ part, part = money (row.amount * item.2 / row.days) := ⟨_, rfl⟩
      have hcents : IsCents part := hpart ▸ isCents_money _
      rw [← hpart, ih hlast (fun next hnext => by rw [List.length_modify]; exact hrest next hnext)
        (isCents_modify h) (isCents_money _), sum_modify h hcents hitem,
        money_of_isCents (hrecognized.add hcents)]
      ring

lemma lt_length_of_mem_overlaps {item : ℕ × ℤ} (h : item ∈ row.overlaps segments) :
    item.1 < segments.length := by
  rw [TemporalAmount.overlaps, mem_filter, mem_map] at h
  obtain ⟨⟨s, hs, rfl⟩, _⟩ := h
  exact List.snd_lt_of_mem_zipIdx hs

structure Allots (segments : List Segment) (allocated : List ℚ) (total : ℚ) : Prop where
  length : allocated.length = segments.length
  cents : ∀ a ∈ allocated, IsCents a
  sum : allocated.sum = total

lemma Allots.allocateRow {total : ℚ} (h : Allots segments allocated total) (hamount : IsCents row.amount) :
    Allots segments (Payroll.allocateRow segments allocated row)
      (total + if row.Placed segments then row.amount else 0) := by
  by_cases hzero : row.days = 0 ∨ row.amount = 0
  · rw [Payroll.allocateRow, if_pos hzero]
    have hnone : (if row.Placed segments then row.amount else 0) = 0 := by
      split_ifs with hplaced
      · exact hzero.resolve_left hplaced.1
      · rfl
    rw [hnone, add_zero]
    exact h
  · rw [Payroll.allocateRow, if_neg hzero]
    refine ⟨length_recognize.trans h.length, isCents_recognize h.cents, ?_⟩
    by_cases hplaced : row.overlaps segments = []
    · rw [hplaced, recognize, if_neg (fun hp => hp.2 hplaced), add_zero, h.sum]
    · have hlt : ∀ item ∈ row.overlaps segments, item.1 < allocated.length := by
        intro item hitem
        rw [h.length]
        exact lt_length_of_mem_overlaps hitem
      rw [if_pos ⟨(not_or.mp hzero).1, hplaced⟩, sum_recognize hplaced hlt h.cents hamount isCents_zero, h.sum,
        sub_zero]

lemma Allots.allocateRows {total : ℚ} (h : Allots segments allocated total)
    (hrows : ∀ row ∈ rows, IsCents row.amount) :
    Allots segments (rows.foldl (Payroll.allocateRow segments) allocated)
      (total + totalAmount (rows.filter fun row => row.Placed segments)) := by
  induction rows generalizing allocated total with
  | nil => exact (add_zero total).symm ▸ h
  | cons row rows ih =>
    obtain ⟨hrow, hrest⟩ := forall_mem_cons.mp hrows
    have hrows := ih (h.allocateRow hrow) hrest
    rw [add_assoc] at hrows
    rw [List.foldl_cons, List.filter_cons]
    by_cases hplaced : row.Placed segments
    · rw [if_pos hplaced] at hrows
      rw [if_pos (decide_eq_true hplaced), totalAmount, map_cons, sum_cons]
      exact hrows
    · rw [if_neg hplaced, zero_add] at hrows
      rw [if_neg (by rw [decide_eq_true_eq]; exact hplaced)]
      exact hrows

lemma allots_allocate (hrows : ∀ row ∈ rows, IsCents row.amount) :
    Allots segments (allocateTemporalAmounts segments rows)
      (totalAmount (rows.filter fun row => row.Placed segments)) := by
  have hstart : Allots segments (segments.map fun _ => 0) 0 := by
    have hzero : ∀ a ∈ segments.map fun _ => (0 : ℚ), a = 0 := fun _ => List.eq_of_mem_map_const
    exact ⟨length_map _, fun a ha => hzero a ha ▸ isCents_zero, List.sum_eq_zero hzero⟩
  have hall := hstart.allocateRows hrows
  rw [zero_add] at hall
  exact hall

end Rows

/-! ### Days put together in order -/

section Days

variable {p : PeriodDates} {s t x : ℤ}

lemma utcDayStart_dayStart (t : ℤ) : utcDayStart (dayStart t) = utcDayStart t := by
  have hday : dayOf (dayStart t) = dayOf t := by
    rw [dayStart, dayOf, Int.mul_ediv_cancel _ (by decide)]
  have hdays : dayInYear (dayStart t) = dayInYear t := by
    rw [dayInYear, dayInYear, hday, yearFromTime_dayStart]
  have hmonth : monthFromTime (dayStart t) = monthFromTime t := by
    rw [monthFromTime, monthFromTime, hdays, yearFromTime_dayStart]
  rw [utcDayStart, utcDayStart, dateFromTime, dateFromTime, hdays, hmonth, yearFromTime_dayStart]

lemma utcDayStart_mono (hle : dayStart s ≤ dayStart t) (h : yearFromTime t ≤ 99 ∨ 99 < yearFromTime s) :
    utcDayStart s ≤ utcDayStart t := by
  have hyear := yearFromTime_mono hle
  rw [yearFromTime_dayStart, yearFromTime_dayStart] at hyear
  by_cases hearly : 0 ≤ yearFromTime s ∧ yearFromTime s ≤ 99
  · rcases hle.eq_or_lt with hsame | hlt
    · rw [← utcDayStart_dayStart, hsame, utcDayStart_dayStart]
    · have hs := (dateUTC_bounds hearly).2
      have ht := (dateUTC_bounds (t := t) (by omega)).1
      have hnext := (add_msPerDay_le_iff (dayStart_dayStart s) (dayStart_dayStart t)).mpr hlt
      rw [utcDayStart, utcDayStart]
      omega
  · calc utcDayStart s = dayStart s := (utcDayStart_eq_iff s).mpr (by omega)
      _ ≤ dayStart t := hle
      _ ≤ utcDayStart t := dayStart_le_utcDayStart t

/-- The period does not run across the end of the year 99. -/
def PeriodDates.OneSided (p : PeriodDates) : Prop := yearFromTime p.endDate ≤ 99 ∨ 99 < yearFromTime p.startDate

def PeriodDates.Has (p : PeriodDates) (t : ℤ) : Prop :=
  dayStart p.startDate ≤ dayStart t ∧ dayStart t ≤ dayStart p.endDate

lemma PeriodDates.OneSided.mono (h : p.OneSided) (hs : p.Has s) (ht : p.Has t) (hle : dayStart s ≤ dayStart t) :
    utcDayStart s ≤ utcDayStart t := by
  refine utcDayStart_mono hle (h.imp (fun hend => ?_) fun hstart => ?_)
  · have hyear := yearFromTime_mono ht.2
    rw [yearFromTime_dayStart, yearFromTime_dayStart] at hyear
    omega
  · have hyear := yearFromTime_mono hs.1
    rw [yearFromTime_dayStart, yearFromTime_dayStart] at hyear
    omega

lemma PeriodDates.has_startDate (p : PeriodDates) : p.Has p.startDate := ⟨le_rfl, dayStart_mono p.startDate_le⟩

lemma PeriodDates.has_endDate (p : PeriodDates) : p.Has p.endDate := ⟨dayStart_mono p.startDate_le, le_rfl⟩

lemma inclusiveUtcDays_pos_iff : 0 < inclusiveUtcDays s t ↔ utcDayStart s ≤ utcDayStart t := by
  rw [inclusiveUtcDays]
  split_ifs with hlt
  · exact iff_of_false (lt_irrefl 0) (not_le.mpr hlt)
  · have hdiv : 0 ≤ (utcDayStart t - utcDayStart s) / msPerDay :=
      Int.ediv_nonneg (sub_nonneg.mpr (not_lt.mp hlt)) (by decide)
    exact iff_of_true (by omega) (not_lt.mp hlt)

variable {rows : List EffectiveRange}

lemma breakpoint_spec (hle : utcDayStart p.startDate ≤ utcDayStart p.endDate)
    (hx : x ∈ breakpoints p.startDate p.endDate rows) :
    utcDayStart p.startDate ≤ x ∧ x ≤ utcDayStart p.endDate + msPerDay ∧
      (utcDayStart x = x ∨ utcDayStart (x - msPerDay) = x - msPerDay) := by
  have hday : 0 < msPerDay := by decide
  obtain rfl | rfl | ⟨row, _, o, hpart, rfl | rfl⟩ := exists_part_of_mem_breakpoints hle hx
  · exact ⟨le_rfl, by omega, .inl (utcDayStart_utcDayStart _)⟩
  · refine ⟨by omega, le_rfl, .inr ?_⟩
    rw [add_sub_cancel_right]
    exact utcDayStart_utcDayStart _
  · have horder := hpart.order
    have hlast := hpart.last
    exact ⟨hpart.first, by omega, .inl hpart.fromDay⟩
  · have hfirst := hpart.first
    have horder := hpart.order
    have hlast := hpart.last
    refine ⟨by omega, by omega, .inr ?_⟩
    rw [add_sub_cancel_right]
    exact hpart.toDay

lemma dayStart_breakpoint (h : utcDayStart x = x ∨ utcDayStart (x - msPerDay) = x - msPerDay) :
    dayStart x = x := by
  rcases h with h | h
  · exact dayStart_of_utcDayStart h
  · have hnext := dayStart_add_msPerDay (dayStart_of_utcDayStart h)
    rwa [sub_add_cancel] at hnext

/-- Where a piece starts no later than a day of the period, its start is put together no later either. Only the
first day of the year 0 can start a piece and be put together as another day. -/
lemma PeriodDates.OneSided.breakpoint_le (h : p.OneSided) (ht : p.Has t)
    (hx : x ∈ breakpoints p.startDate p.endDate rows) (hle : x ≤ utcDayStart t) :
    utcDayStart x ≤ utcDayStart t := by
  have hperiod := h.mono p.has_startDate p.has_endDate (dayStart_mono p.startDate_le)
  obtain ⟨hfirst, _, hspec⟩ := breakpoint_spec hperiod hx
  have hxday := dayStart_breakpoint hspec
  rcases hspec with hspec | hspec
  · rw [hspec]
    exact hle
  by_cases hearly : 0 ≤ yearFromTime x ∧ yearFromTime x ≤ 99
  · have hday : 0 < msPerDay := by decide
    have hprevyear : yearFromTime (x - msPerDay) < 0 := by
      have hmono := yearFromTime_mono (show x - msPerDay ≤ x by omega)
      have hoff := (utcDayStart_eq_iff (x - msPerDay)).mp (hspec.trans (dayStart_of_utcDayStart hspec).symm)
      omega
    have hxt : x ≤ dayStart t := by
      by_contra hcon
      have hbefore := (add_msPerDay_le_iff (dayStart_dayStart t) hxday).mpr (not_le.mp hcon)
      have hyear := yearFromTime_mono (show dayStart t ≤ x - msPerDay by omega)
      rw [yearFromTime_dayStart] at hyear
      rw [(utcDayStart_eq_iff t).mpr (by omega)] at hle
      exact hcon hle
    refine utcDayStart_mono (by rw [hxday]; exact hxt) ?_
    have hstart : yearFromTime p.startDate ≤ yearFromTime x := by
      have hmono := yearFromTime_mono ((dayStart_le_utcDayStart p.startDate).trans hfirst)
      rwa [yearFromTime_dayStart] at hmono
    have hend := yearFromTime_mono ht.2
    rw [yearFromTime_dayStart, yearFromTime_dayStart] at hend
    exact h.imp (fun hlast => by omega) fun hlast => by omega
  · rw [(utcDayStart_eq_iff x).mpr (by omega), hxday]
    exact hle

/-- Each day of the period is in the days of a segment. -/
lemma PeriodDates.OneSided.exists_segment (h : p.OneSided) (ht : p.Has t) (rows : List EffectiveRange) :
    ∃ s ∈ buildEffectiveSegments p.startDate p.endDate rows,
      utcDayStart s.start ≤ utcDayStart t ∧ utcDayStart t ≤ utcDayStart s.finish := by
  have hperiod := h.mono p.has_startDate p.has_endDate (dayStart_mono p.startDate_le)
  have hfirst := h.mono p.has_startDate ht ht.1
  have hlast := h.mono ht p.has_endDate ht.2
  have hday : 0 < msPerDay := by decide
  have hpairwise := pairwise_breakpoints p.startDate p.endDate rows
  obtain ⟨rest, hrest, hgetLast⟩ := exists_eq_cons hpairwise (mem_breakpoints.mpr (Or.inl rfl))
    (fun x hx => (breakpoint_spec hperiod hx).1) (mem_breakpoints.mpr (Or.inr (Or.inl rfl)))
    (fun x hx => (breakpoint_spec hperiod hx).2.1)
  obtain ⟨piece, hpiece, hle, hlt⟩ := exists_mem_pieces (hrest ▸ hpairwise) hfirst (by rw [hgetLast]; omega)
  rw [← hrest] at hpiece
  obtain ⟨hfst, hsnd⟩ := mem_of_mem_pieces hpiece
  have hstart := h.breakpoint_le ht hfst hle
  have hfinish : utcDayStart t ≤ utcDayStart (piece.2 - msPerDay) := by
    have hsndDay := dayStart_breakpoint (breakpoint_spec hperiod hsnd).2.2
    have hnext := (add_msPerDay_le_iff (dayStart_utcDayStart t) hsndDay).mpr hlt
    have hlate := dayStart_le_utcDayStart (piece.2 - msPerDay)
    rw [dayStart_sub_msPerDay hsndDay] at hlate
    omega
  refine ⟨segment (inclusiveUtcDays (utcDayStart p.startDate) (utcDayStart p.endDate)) piece, ?_, hstart,
    hfinish⟩
  rw [buildEffectiveSegments, mem_filter]
  exact ⟨mem_map_of_mem hpiece, decide_eq_true (inclusiveUtcDays_pos_iff.mpr (hstart.trans hfinish))⟩

end Days

/-! ### Rows of a period -/

section Period

variable {p : PeriodDates} {row : TemporalAmount} {rows : List TemporalAmount}

structure TemporalAmount.Within (row : TemporalAmount) (p : PeriodDates) : Prop where
  cents : IsCents row.amount
  first : p.Has row.effectiveFrom
  last : p.Has row.effectiveTo
  order : dayStart row.effectiveFrom ≤ dayStart row.effectiveTo

lemma daysIn_pos_iff {s : Segment} : 0 < row.daysIn s ↔
    max (utcDayStart row.effectiveFrom) (utcDayStart s.start) ≤
      min (utcDayStart row.effectiveTo) (utcDayStart s.finish) := by
  rw [TemporalAmount.daysIn]
  simp only [← max_def_lt]
  rw [inclusiveUtcDays_pos_iff, utcDayStart_max (utcDayStart_utcDayStart _) (utcDayStart_utcDayStart _),
    ← min_def_lt, min_comm, utcDayStart_min (utcDayStart_utcDayStart _) (utcDayStart_utcDayStart _)]

lemma overlaps_ne_nil {segments : List Segment} {s : Segment} (hs : s ∈ segments) (h : 0 < row.daysIn s) :
    row.overlaps segments ≠ [] := by
  obtain ⟨i, hi⟩ := List.getElem?_of_mem hs
  refine List.ne_nil_of_mem (a := (i, row.daysIn s)) ?_
  rw [TemporalAmount.overlaps, mem_filter, mem_map]
  exact ⟨⟨(s, i), List.mk_mem_zipIdx_iff_getElem?.mpr hi, rfl⟩, decide_eq_true h⟩

lemma PeriodDates.OneSided.placed (h : p.OneSided) (hrow : row.Within p) (ranges : List EffectiveRange) :
    row.Placed (buildEffectiveSegments p.startDate p.endDate ranges) := by
  have horder := h.mono hrow.first hrow.last hrow.order
  constructor
  · have hdays : 0 < row.days := by
      rw [TemporalAmount.days, inclusiveUtcDays_pos_iff, utcDayStart_utcDayStart, utcDayStart_utcDayStart]
      exact horder
    exact hdays.ne'
  · obtain ⟨s, hs, hstart, hfinish⟩ := h.exists_segment hrow.first ranges
    refine overlaps_ne_nil hs (daysIn_pos_iff.mpr ?_)
    rw [max_eq_left hstart]
    exact le_min horder hfinish

lemma PeriodDates.OneSided.allots (h : p.OneSided) (hrows : ∀ row ∈ rows, row.Within p)
    (ranges : List EffectiveRange) :
    Allots (buildEffectiveSegments p.startDate p.endDate ranges)
      (allocateTemporalAmounts (buildEffectiveSegments p.startDate p.endDate ranges) rows)
      (totalAmount rows) := by
  have hall :
      rows.filter (fun row => row.Placed (buildEffectiveSegments p.startDate p.endDate ranges)) = rows :=
    List.filter_eq_self.mpr fun row hrow => decide_eq_true (h.placed (hrows row hrow) ranges)
  rw [← congrArg totalAmount hall]
  exact allots_allocate fun row hrow => (hrows row hrow).cents

lemma isCents_totalAmount (hrows : ∀ row ∈ rows, row.Within p) : IsCents (totalAmount rows) := by
  refine IsCents.sum fun a ha => ?_
  obtain ⟨row, hrow, rfl⟩ := mem_map.mp ha
  exact (hrows row hrow).cents

end Period

/-! ### The net amount -/

section Net

variable {taxCalculator : ℚ → ℚ} {taxableIncome income net : ℚ} {g : GrossUp} {result : PayrollTaxMethodResult}
  {totals : SegmentTotals} {profiles : List EmployeeTaxProfile} {ruleSets : List TaxRuleSet}

lemma isCents_solveGrossUp (hok : solveGrossUp taxableIncome taxCalculator = .ok g) :
    g.allowance = g.tax ∧ IsCents g.tax := by
  rcases le_or_gt taxableIncome 0 with hnone | hincome
  · rw [solveGrossUp, if_pos hnone] at hok
    obtain rfl := pure_eq_ok.mp hok
    exact ⟨rfl, isCents_zero⟩
  · obtain ⟨hsame, hfix⟩ := solveGrossUp_eq_ok hincome hok
    exact ⟨hsame, hsame ▸ hfix ▸ isCents_taxWith⟩

structure PayrollTaxMethodResult.Balances (result : PayrollTaxMethodResult) (net : ℚ) : Prop where
  gross : IsCents result.grossAdjustment
  deduction : IsCents result.employeeTaxDeduction
  net : result.netAfterTax = net + result.grossAdjustment - result.employeeTaxDeduction

lemma balances_applyPayrollTaxMethod {method : String}
    (hok : applyPayrollTaxMethod method income net taxCalculator = .ok result) (hnet : IsCents net) :
    result.Balances net := by
  rw [applyPayrollTaxMethod] at hok
  dsimp only at hok
  split_ifs at hok with hmethod hgrossUp hnetMethod
  · rw [bind_eq_ok] at hok
    obtain ⟨solved, hsolved, hok⟩ := hok
    obtain rfl := pure_eq_ok.mp hok
    obtain ⟨hsame, hcents⟩ := isCents_solveGrossUp hsolved
    refine ⟨hsame ▸ hcents, hcents, ?_⟩
    exact money_of_isCents ((hnet.add (hsame ▸ hcents)).sub hcents)
  · obtain rfl := pure_eq_ok.mp hok
    refine ⟨isCents_zero, isCents_zero, ?_⟩
    dsimp only
    rw [money_of_isCents hnet, add_zero, sub_zero]
  · obtain rfl := pure_eq_ok.mp hok
    refine ⟨isCents_zero, isCents_money _, ?_⟩
    dsimp only
    rw [money_of_isCents (hnet.sub (isCents_money _)), add_zero]

structure SegmentTotals.Balances (totals : SegmentTotals) (net : ℚ) : Prop where
  gross : IsCents totals.grossAdjustment
  deduction : IsCents totals.employeeDeduction
  net : totals.netAfterTax = net + totals.grossAdjustment - totals.employeeDeduction

namespace SegmentTotals.Balances

lemma review (h : totals.Balances net) {segment : Segment} {taxable more : ℚ} {reason : String} :
    (totals.review segment taxable more reason).Balances (net + more) := by
  refine ⟨h.gross, h.deduction, ?_⟩
  change totals.netAfterTax + more = net + more + totals.grossAdjustment - totals.employeeDeduction
  rw [h.net]
  ring

lemma add (h : totals.Balances net) {segment : Segment} {taxable more : ℚ} {trace : TaxTrace}
    (hresult : result.Balances more) :
    (totals.add segment taxable more result trace).Balances (net + more) := by
  refine ⟨h.gross.add hresult.gross, h.deduction.add hresult.deduction, ?_⟩
  rw [SegmentTotals.add, h.net, hresult.net]
  ring

lemma addSegment (h : totals.Balances net) {piece : Segment × ℚ × ℚ} (hpiece : IsCents piece.2.2) :
    (Payroll.addSegment profiles ruleSets totals piece).Balances (net + piece.2.2) := by
  rw [Payroll.addSegment]
  split
  next => exact h.review
  next => exact h.review
  next =>
    rw [taxSegment]
    dsimp only
    split
    next hok => exact h.add (balances_applyPayrollTaxMethod hok hpiece)
    next => exact h.review

lemma foldl {pieces : List (Segment × ℚ × ℚ)} (h : totals.Balances net)
    (hpieces : ∀ piece ∈ pieces, IsCents piece.2.2) :
    (pieces.foldl (Payroll.addSegment profiles ruleSets) totals).Balances
      (net + (pieces.map fun piece => piece.2.2).sum) := by
  induction pieces generalizing totals net with
  | nil => exact (add_zero net).symm ▸ h
  | cons piece pieces ih =>
    obtain ⟨hpiece, hrest⟩ := forall_mem_cons.mp hpieces
    rw [map_cons, sum_cons, ← add_assoc]
    exact ih (h.addSegment hpiece) hrest

lemma rounded (h : totals.Balances net) (hnet : IsCents net) : totals.rounded.Balances net := by
  refine ⟨isCents_money _, isCents_money _, ?_⟩
  have hafter : IsCents totals.netAfterTax := h.net ▸ (hnet.add h.gross).sub h.deduction
  change money totals.netAfterTax = net + money totals.grossAdjustment - money totals.employeeDeduction
  rw [money_of_isCents hafter, money_of_isCents h.gross, money_of_isCents h.deduction, h.net]

end SegmentTotals.Balances

end Net

section Conserves

variable {p : PeriodDates}

lemma PeriodDates.OneSided.balances (h : p.OneSided) {taxableRows netRows : List TemporalAmount}
    (htaxable : ∀ row ∈ taxableRows, row.Within p) (hnet : ∀ row ∈ netRows, row.Within p)
    (profiles : List EmployeeTaxProfile) (ruleSets : List TaxRuleSet) :
    (calculateTaxAcrossSegments taxableRows netRows profiles ruleSets p.startDate p.endDate).Balances
      (totalAmount netRows) := by
  have hcents := isCents_totalAmount hnet
  rw [calculateTaxAcrossSegments]
  dsimp only
  split_ifs
  · refine ⟨isCents_zero, isCents_zero, ?_⟩
    rw [money_of_isCents hcents, add_zero, sub_zero]
  · have htaxable := h.allots htaxable (profiles.map EmployeeTaxProfile.range ++ ruleSets.map TaxRuleSet.range)
    have hnet := h.allots hnet (profiles.map EmployeeTaxProfile.range ++ ruleSets.map TaxRuleSet.range)
    rw [← taxSegments] at htaxable hnet
    generalize taxSegments profiles ruleSets p.startDate p.endDate = segments at htaxable hnet ⊢
    generalize allocateTemporalAmounts segments taxableRows = taxable at htaxable ⊢
    generalize allocateTemporalAmounts segments netRows = nets at hnet ⊢
    have hnets : (segments.zip (taxable.zip nets)).map (fun piece => piece.2.2) = nets := by
      have hinner : (taxable.zip nets).map Prod.snd = nets :=
        List.map_snd_zip (by rw [hnet.length, htaxable.length])
      have houter : (segments.zip (taxable.zip nets)).map Prod.snd = taxable.zip nets :=
        List.map_snd_zip (by rw [List.length_zip, hnet.length, htaxable.length, min_self])
      calc (segments.zip (taxable.zip nets)).map (fun piece => piece.2.2)
          = ((segments.zip (taxable.zip nets)).map Prod.snd).map Prod.snd := (map_map ..).symm
        _ = nets := by rw [houter, hinner]
    have hstart : ({} : SegmentTotals).Balances 0 := ⟨isCents_zero, isCents_zero, by norm_num⟩
    have hfold : ((segments.zip (taxable.zip nets)).foldl (addSegment profiles ruleSets) {}).Balances
        (0 + ((segments.zip (taxable.zip nets)).map fun piece => piece.2.2).sum) :=
      hstart.foldl fun piece hpiece => hnet.cents _ (hnets ▸ mem_map_of_mem hpiece)
    rw [hnets, hnet.sum, zero_add] at hfold
    exact hfold.rounded hcents

/-- The amounts of all rows of the period are allocated whatever it is cut by, and the net amount after tax is
the one before with what is added and deducted. -/
structure PeriodDates.Conserves (p : PeriodDates) : Prop where
  allocated : ∀ (ranges : List EffectiveRange) (rows : List TemporalAmount), (∀ row ∈ rows, row.Within p) →
    (allocateTemporalAmounts (buildEffectiveSegments p.startDate p.endDate ranges) rows).sum = totalAmount rows
  net : ∀ (taxableRows netRows : List TemporalAmount) (profiles : List EmployeeTaxProfile)
      (ruleSets : List TaxRuleSet),
    (∀ row ∈ taxableRows, row.Within p) → (∀ row ∈ netRows, row.Within p) →
    (calculateTaxAcrossSegments taxableRows netRows profiles ruleSets p.startDate p.endDate).netAfterTax =
      money (totalAmount netRows) +
        (calculateTaxAcrossSegments taxableRows netRows profiles ruleSets p.startDate p.endDate).grossAdjustment -
        (calculateTaxAcrossSegments taxableRows netRows profiles ruleSets p.startDate p.endDate).employeeDeduction

/-- A row of the last day of the year 99 and the first of the year 100. -/
def turnOf100 : TemporalAmount where
  amount := 1
  effectiveFrom := -59011545600000
  effectiveTo := -59011459200000

lemma not_placed_turnOf100 (segments : List Segment) : ¬ turnOf100.Placed segments := by
  have hdays : turnOf100.days = 0 := by decide
  exact fun hplaced => hplaced.1 hdays

lemma turnOf100_within (h : ¬ p.OneSided) : turnOf100.Within p := by
  obtain ⟨hend, hstart⟩ := not_or.mp h
  have hfirst : dayStart p.startDate ≤ -59011545600000 := by
    rw [dayStart_le_iff (by decide)]
    by_contra hcon
    have hyear := yearFromTime_mono (not_lt.mp hcon)
    have hturn : yearFromTime (-59011545600000 + msPerDay) = 100 := by decide
    omega
  have hlast : -59011459200000 ≤ dayStart p.endDate := by
    rw [le_dayStart_iff (by decide)]
    by_contra hcon
    have hyear := yearFromTime_mono (show p.endDate ≤ -59011459200000 - 1 by omega)
    have hturn : yearFromTime (-59011459200000 - 1) = 99 := by decide
    omega
  have hfrom : dayStart turnOf100.effectiveFrom = -59011545600000 := by decide
  have hto : dayStart turnOf100.effectiveTo = -59011459200000 := by decide
  refine ⟨⟨100, by rw [turnOf100]; norm_num⟩, ⟨?_, ?_⟩, ⟨?_, ?_⟩, ?_⟩
  · rwa [hfrom]
  · rw [hfrom]
    omega
  · rw [hto]
    omega
  · rwa [hto]
  · rw [hfrom, hto]
    decide

lemma not_conserves_of_not_oneSided (h : ¬ p.OneSided) : ¬ p.Conserves := by
  intro hconserves
  have hwithin : ∀ row ∈ [turnOf100], row.Within p := List.forall_mem_singleton.mpr (turnOf100_within h)
  have hsum := hconserves.allocated [] [turnOf100] hwithin
  rw [(allots_allocate fun row hrow => (hwithin row hrow).cents).sum, List.filter_cons, if_neg (by
    rw [decide_eq_true_eq]
    exact not_placed_turnOf100 _), List.filter_nil] at hsum
  exact absurd hsum (by decide +kernel)

/-- A period keeps the amounts of its rows exactly if it does not run across the end of the year 99. -/
theorem conserves_iff (p : PeriodDates) :
    p.Conserves ↔ yearFromTime p.endDate ≤ 99 ∨ 99 < yearFromTime p.startDate := by
  constructor
  · intro hconserves
    by_contra hcon
    exact not_conserves_of_not_oneSided hcon hconserves
  · intro h
    have h : p.OneSided := h
    refine ⟨fun ranges rows hrows => (h.allots hrows ranges).sum, ?_⟩
    intro taxableRows netRows profiles ruleSets htaxable hnet
    rw [money_of_isCents (isCents_totalAmount hnet)]
    exact (h.balances htaxable hnet profiles ruleSets).net

def winterOf99 : PeriodDates where
  startDate := -59014137600000
  endDate := -59008780800001
  startDate_le := by decide

/-- The amount of a row of both years is allocated to no segment. -/
theorem not_conserves_winterOf99 :
    (allocateTemporalAmounts (buildEffectiveSegments winterOf99.startDate winterOf99.endDate [])
        [turnOf100]).sum =
      0 ∧ totalAmount [turnOf100] = 1 ∧ turnOf100.Within winterOf99 ∧ ¬ winterOf99.Conserves := by
  have hyears : ¬ winterOf99.OneSided := by
    rw [PeriodDates.OneSided]
    decide +kernel
  exact ⟨by decide +kernel, by decide +kernel, turnOf100_within hyears, not_conserves_of_not_oneSided hyears⟩

end Conserves

end Mayatoko.Payroll
