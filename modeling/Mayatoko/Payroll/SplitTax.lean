import Mayatoko.Core.Proportion
import Mayatoko.Payroll.Allocation

/-!
# The tax of a split period

Segments that all have the same terms tax their shares of the rows of a period as fractions of what the whole
income is taxed with. The tax of a period rises by no more than its income, so the tax of the segments together
is off from that of the whole period by no more than the shares are, and by the roundings.
-/

namespace Mayatoko.Payroll

open Core

section Shares

variable {row : TemporalAmount} {rows : List TemporalAmount} {segments : List Segment} {allocated : List ℚ}

lemma money_add_money (x y : ℚ) : money (x + money y) = money x + money y := by
  have hshift : roundCents (100 * (x + money y)) = roundCents (100 * x) + roundCents (100 * y) := by
    have hcents : 100 * (x + money y) + 100 * epsilon + 1 / 2 =
        100 * x + 100 * epsilon + 1 / 2 + roundCents (100 * y) := by
      rw [money_eq y]
      ring
    rw [roundCents, hcents, Int.floor_add_intCast, ← roundCents]
  rw [money_eq, hshift, money_eq x, money_eq y]
  push_cast
  ring

lemma rounds_money : Rounds money (1 / 200 + epsilon) where
  near := abs_money_sub_le
  zero := money_zero
  add_round := money_add_money

lemma modify_length_append (f : ℚ → ℚ) (before : List ℚ) (a : ℚ) (after : List ℚ) :
    (before ++ a :: after).modify before.length f = before ++ f a :: after := by
  induction before with
  | nil => rfl
  | cons b before ih => exact congrArg (b :: ·) ih

lemma recognize_eq (row : TemporalAmount) (days : List ℤ) (before after : List ℚ)
    (hlength : after.length = days.length) (recognized : ℚ) :
    recognize row ((days.zipIdx before.length).map fun item => (item.2, item.1)) (before ++ after) recognized =
      before ++ List.zipWith (fun a share => money (a + share)) after
        (roundedParts money row.amount (days.map fun d : ℤ => (d : ℚ) / row.days) recognized) := by
  induction days generalizing before after recognized with
  | nil =>
    obtain rfl := List.length_eq_zero_iff.mp hlength
    rfl
  | cons d days ih =>
    match after, hlength with
    | a :: after, hlength =>
      have hstep (share : ℚ) := ih (before ++ [money (a + share)]) after (Nat.succ.inj hlength)
        (money (recognized + share))
      simp only [List.length_append, List.length_singleton, append_assoc, List.singleton_append] at hstep
      rw [List.zipIdx_cons, map_cons, recognize]
      dsimp only
      rw [modify_length_append, hstep, map_cons, roundedParts]
      by_cases hlast : days = []
      · subst hlast
        rfl
      · rw [if_neg (by simpa using hlast), if_neg (by simpa using hlast), mul_div_assoc]
        rfl

end Shares

/-! ### Segments of a period -/

section Period

variable {p : PeriodDates} {row : TemporalAmount} {rows : List TemporalAmount} {ranges : List EffectiveRange}
  {s : Segment} {allocated : List ℚ} {total err q : ℚ}

/-- A row from the first day of the period to the last. -/
structure TemporalAmount.Whole (row : TemporalAmount) (p : PeriodDates) : Prop where
  first : dayStart row.effectiveFrom = dayStart p.startDate
  last : dayStart row.effectiveTo = dayStart p.endDate

def PeriodDates.segments (p : PeriodDates) (ranges : List EffectiveRange) : List Segment :=
  buildEffectiveSegments p.startDate p.endDate ranges

lemma factor_eq (hs : s ∈ p.segments ranges) : 0 < s.activeDays ∧
      s.factor = s.activeDays / inclusiveUtcDays (utcDayStart p.startDate) (utcDayStart p.endDate) := by
  rw [PeriodDates.segments, buildEffectiveSegments, mem_filter, mem_map] at hs
  obtain ⟨⟨piece, _, rfl⟩, hpos⟩ := hs
  exact ⟨of_decide_eq_true hpos, rfl⟩

lemma days_whole (hrow : row.Whole p) :
    row.days = inclusiveUtcDays (utcDayStart p.startDate) (utcDayStart p.endDate) := by
  rw [TemporalAmount.days, ← utcDayStart_dayStart row.effectiveFrom, hrow.first, utcDayStart_dayStart,
    ← utcDayStart_dayStart row.effectiveTo, hrow.last, utcDayStart_dayStart]

lemma parts_eq (hrow : row.Whole p) :
    ((p.segments ranges).map Segment.activeDays).map (fun d : ℤ => (d : ℚ) / row.days) =
      (p.segments ranges).map Segment.factor := by
  rw [map_map]
  refine map_congr_left fun s hs => ?_
  rw [(factor_eq hs).2, Function.comp_apply, days_whole hrow]

namespace PeriodDates.Clear

variable (h : p.Clear)
include h

lemma days_eq : inclusiveUtcDays (utcDayStart p.startDate) (utcDayStart p.endDate) =
    ((p.segments ranges).map Segment.activeDays).sum := by
  rw [PeriodDates.segments, (cutRight_of_clear h ranges).total, utcDayStart_startDate h, utcDayStart_endDate h,
    inclusiveUtcDays_eq ((utcDayStart_dayStart _).trans (utcDayStart_startDate h))
      ((utcDayStart_dayStart _).trans (utcDayStart_endDate h)) (dayStart_mono p.startDate_le)]
  simp only [dayOf, dayStart, msPerDay]
  omega

lemma days_pos : 0 < inclusiveUtcDays (utcDayStart p.startDate) (utcDayStart p.endDate) := by
  rw [inclusiveUtcDays_pos_iff, utcDayStart_utcDayStart, utcDayStart_utcDayStart, utcDayStart_startDate h,
    utcDayStart_endDate h]
  exact dayStart_mono p.startDate_le

lemma bounds_segment (hs : s ∈ p.segments ranges) :
    dayStart p.startDate ≤ s.start ∧ utcDayStart s.start = s.start ∧ s.finish ≤ dayStart p.endDate ∧
      utcDayStart s.finish = s.finish ∧ s.start ≤ s.finish := by
  have hcut := cutRight_of_clear h ranges
  have hday : 0 < msPerDay := by decide
  obtain ⟨hstartDay, hfinishDay⟩ := hcut.whole s hs
  have horder := hcut.nonempty s hs
  have hstart := (hcut.covered s.start hstartDay).mp ⟨s, hs, le_rfl, horder⟩
  have hfinish := (hcut.covered s.finish hfinishDay).mp ⟨s, hs, horder, le_rfl⟩
  refine ⟨hstart.1, ?_, hfinish.2, ?_, horder⟩
  · exact (utcDayStart_of_clear h hstart.1 (by omega)).trans hstartDay
  · exact (utcDayStart_of_clear h hfinish.1 (by omega)).trans hfinishDay

lemma daysIn_whole (hrow : row.Whole p) (hs : s ∈ p.segments ranges) : row.daysIn s = s.activeDays := by
  obtain ⟨hfirst, hstart, hlast, hfinish, horder⟩ := bounds_segment h hs
  have hrowStart : utcDayStart row.effectiveFrom = dayStart p.startDate := by
    rw [← utcDayStart_dayStart, hrow.first, utcDayStart_dayStart, utcDayStart_startDate h]
  have hrowEnd : utcDayStart row.effectiveTo = dayStart p.endDate := by
    rw [← utcDayStart_dayStart, hrow.last, utcDayStart_dayStart, utcDayStart_endDate h]
  rw [TemporalAmount.daysIn, (cutRight_of_clear h ranges).days s hs, hrowStart, hrowEnd, hstart, hfinish]
  simp only [← max_def_lt, ← min_def_lt]
  rw [max_eq_right hfirst, min_eq_left hlast, inclusiveUtcDays_eq hstart hfinish horder]

lemma overlaps_whole (hrow : row.Whole p) : row.overlaps (p.segments ranges) =
      (((p.segments ranges).map Segment.activeDays).zipIdx 0).map fun item => (item.2, item.1) := by
  have hdays : (p.segments ranges).zipIdx.map (fun s => (s.2, row.daysIn s.1)) =
      (p.segments ranges).zipIdx.map fun s => (s.2, s.1.activeDays) := by
    refine map_congr_left fun s hs => ?_
    rw [daysIn_whole h hrow (List.fst_mem_of_mem_zipIdx hs)]
  rw [TemporalAmount.overlaps, hdays, List.filter_eq_self.mpr, List.zipIdx_map, map_map]
  · rfl
  · intro item hitem
    obtain ⟨s, hs, rfl⟩ := mem_map.mp hitem
    exact decide_eq_true (factor_eq (List.fst_mem_of_mem_zipIdx hs)).1

lemma allocateRow_whole (hrow : row.Whole p) (hamount : row.amount ≠ 0)
    (hlength : allocated.length = (p.segments ranges).length) :
    allocateRow (p.segments ranges) allocated row =
      List.zipWith (fun a share => money (a + share)) allocated
        (roundedParts money row.amount ((p.segments ranges).map Segment.factor) 0) := by
  have hdays : row.days ≠ 0 := (days_whole hrow).trans_ne (days_pos h).ne'
  have hshares := recognize_eq row ((p.segments ranges).map Segment.activeDays) [] allocated
    (hlength.trans (length_map _).symm) 0
  rw [List.length_nil, nil_append, nil_append, parts_eq hrow] at hshares
  rw [allocateRow, if_neg (not_or.mpr ⟨hdays, hamount⟩), overlaps_whole h hrow, hshares]

lemma factor_pos : ∀ factor ∈ (p.segments ranges).map Segment.factor, 0 < factor := by
  intro factor hfactor
  obtain ⟨s, hs, rfl⟩ := mem_map.mp hfactor
  obtain ⟨hpos, heq⟩ := factor_eq hs
  rw [heq]
  exact div_pos (by exact_mod_cast hpos) (by exact_mod_cast days_pos h)

lemma sum_factor (ranges : List EffectiveRange) : ((p.segments ranges).map Segment.factor).sum = 1 := by
  have hdays : (inclusiveUtcDays (utcDayStart p.startDate) (utcDayStart p.endDate) : ℚ) ≠ 0 := by
    exact_mod_cast (days_pos h).ne'
  have hparts : (p.segments ranges).map Segment.factor = ((p.segments ranges).map Segment.activeDays).map
      fun d : ℤ => (d : ℚ) / inclusiveUtcDays (utcDayStart p.startDate) (utcDayStart p.endDate) := by
    rw [map_map]
    exact map_congr_left fun s hs => (factor_eq hs).2
  have hsum (ds : List ℤ) (c : ℚ) : (ds.map fun d : ℤ => (d : ℚ) / c).sum = (ds.sum : ℚ) / c := by
    induction ds with
    | nil => simp
    | cons d ds ih =>
      rw [map_cons, sum_cons, sum_cons, ih]
      push_cast
      ring
  rw [hparts, hsum, ← days_eq h, div_self hdays]

lemma segments_ne_nil (ranges : List EffectiveRange) : (p.segments ranges).map Segment.factor ≠ [] := by
  intro hnil
  have hsum := sum_factor h ranges
  rw [hnil, List.sum_nil] at hsum
  exact absurd hsum (by norm_num)

end PeriodDates.Clear

/-- Amounts for the segments of a period that are off from the parts of a total by no more than `err`. -/
structure NearParts (segments : List Segment) (allocated : List ℚ) (total err : ℚ) : Prop where
  length : allocated.length = segments.length
  cents : ∀ a ∈ allocated, money a = a
  off : off (segments.map Segment.factor) total allocated ≤ err

/-- A whole row adds no more than the roundings of its shares. -/
lemma NearParts.allocateRow (hnear : NearParts (p.segments ranges) allocated total err) (h : p.Clear)
    (hrow : row.Whole p) (hlast : q ≤ ((p.segments ranges).map Segment.factor).getLast (h.segments_ne_nil _))
    (hq : q ≤ (p.segments ranges).length) :
    NearParts (p.segments ranges) (Payroll.allocateRow (p.segments ranges) allocated row)
      (total + money row.amount)
      (err + 2 * (1 / 200 + epsilon) * ((p.segments ranges).length - q)) := by
  have hpos := epsilon_pos
  refine ⟨length_allocateRow.trans hnear.length, ?_, ?_⟩
  · by_cases hzero : row.amount = 0
    · rw [Payroll.allocateRow, if_pos (Or.inr hzero)]
      exact hnear.cents
    · rw [h.allocateRow_whole hrow hzero hnear.length]
      intro a ha
      obtain ⟨i, hi, rfl⟩ := List.mem_iff_getElem.mp ha
      rw [List.getElem_zipWith]
      exact money_money _
  · by_cases hzero : row.amount = 0
    · rw [Payroll.allocateRow, if_pos (Or.inr hzero), hzero, money_zero, add_zero]
      have hmore : 0 ≤ 2 * (1 / 200 + epsilon) * ((p.segments ranges).length - q) :=
        mul_nonneg (by linarith) (sub_nonneg.mpr hq)
      exact hnear.off.trans (le_add_of_nonneg_right hmore)
    · have hshares := rounds_money.off_roundedParts_le row.amount (h.segments_ne_nil _)
        (fun factor hfactor => (h.factor_pos factor hfactor).le) hlast money_zero
      rw [h.sum_factor, sub_self, zero_mul, sub_zero, abs_zero, zero_add, length_map, sub_add_cancel] at hshares
      rw [h.allocateRow_whole hrow hzero hnear.length]
      exact (off_add_le rounds_money hnear.cents rounds_money.fixed_roundedParts).trans
        (add_le_add hnear.off hshares)

def roundedTotal (rows : List TemporalAmount) : ℚ := (rows.map fun row => money row.amount).sum

lemma nearParts_allocate (h : p.Clear) (hrows : ∀ row ∈ rows, row.Whole p)
    (hlast : q ≤ ((p.segments ranges).map Segment.factor).getLast (h.segments_ne_nil _))
    (hq : q ≤ (p.segments ranges).length) :
    NearParts (p.segments ranges) (allocateTemporalAmounts (p.segments ranges) rows) (roundedTotal rows)
      (rows.length * (2 * (1 / 200 + epsilon) * ((p.segments ranges).length - q))) := by
  have hfold {allocated : List ℚ} {total err : ℚ} (hnear : NearParts (p.segments ranges) allocated total err) :
      NearParts (p.segments ranges) (rows.foldl (Payroll.allocateRow (p.segments ranges)) allocated)
        (total + roundedTotal rows)
        (err + rows.length * (2 * (1 / 200 + epsilon) * ((p.segments ranges).length - q))) := by
    induction rows generalizing allocated total err with
    | nil =>
      rw [roundedTotal, List.map_nil, List.sum_nil, add_zero, List.length_nil, Nat.cast_zero, zero_mul,
        add_zero]
      exact hnear
    | cons row rows ih =>
      obtain ⟨hrow, hrest⟩ := forall_mem_cons.mp hrows
      have hnext := ih hrest (hnear.allocateRow h hrow hlast hq)
      rw [roundedTotal, map_cons, sum_cons, ← roundedTotal, ← add_assoc, length_cons, Nat.cast_add,
        Nat.cast_one, add_mul, one_mul, add_comm (_ * _), ← add_assoc]
      exact hnext
  have hstart : NearParts (p.segments ranges) ((p.segments ranges).map fun _ => 0) 0 0 := by
    have hzero : ∀ a ∈ (p.segments ranges).map fun _ => (0 : ℚ), a = 0 := fun _ => List.eq_of_mem_map_const
    refine ⟨length_map _, fun a ha => by rw [hzero a ha, money_zero],
      le_of_eq (List.sum_eq_zero fun x hx => ?_)⟩
    obtain ⟨i, hi, rfl⟩ := List.mem_iff_getElem.mp hx
    rw [List.getElem_zipWith, mul_zero, sub_zero, List.getElem_map, abs_zero]
  have hall := hfold hstart
  rw [zero_add, zero_add] at hall
  exact hall

end Period

/-! ### The tax of the segments -/

section Tax

variable {ruleSet ruleSet' : TaxRuleSet} {taxProfile taxProfile' : EmployeeTaxProfile} {fraction income net : ℚ}

structure TaxRuleSet.Alike (ruleSet ruleSet' : TaxRuleSet) : Prop where
  mode : ruleSet.calculationMode = ruleSet'.calculationMode
  parameters : ruleSet.parameters = ruleSet'.parameters
  status : ruleSet.status = ruleSet'.status

lemma taxBy_of_nonpos (hincome : income ≤ 0) : taxBy ruleSet taxProfile fraction income = 0 := by
  rw [taxBy, calculateTaxBase, if_pos hincome]
  rfl

lemma taxBy_congr (h : ruleSet.Alike ruleSet') (hmode : ruleSet'.calculationMode = "ANNUAL_PROGRESSIVE")
    (taxProfile taxProfile' : EmployeeTaxProfile) :
    taxBy ruleSet taxProfile fraction income = taxBy ruleSet' taxProfile' fraction income := by
  by_cases hincome : income ≤ 0
  · rw [taxBy_of_nonpos hincome, taxBy_of_nonpos hincome]
  · by_cases hstatus : ruleSet'.status = "APPROVED"
    · simp only [taxBy, calculateTaxBase, if_neg hincome, filter_approved hstatus,
        filter_approved (h.status.trans hstatus), h.mode, hmode, h.parameters, if_true,
        if_neg (by decide : ¬ "ANNUAL_PROGRESSIVE" = "LOOKUP_TABLE")]
    · rw [taxBy, taxBy, amount_unapproved hstatus, amount_unapproved (h.status ▸ hstatus)]

/-- What is payable of an income under a method that does not gross up. -/
def payable (ruleSet : TaxRuleSet) (taxProfile : EmployeeTaxProfile) (fraction income : ℚ) : ℚ :=
  money (max 0 (taxBy ruleSet taxProfile fraction (max 0 income)))

lemma applyPayrollTaxMethod_payable {method : String} (hmethod : method = "GROSS" ∨ method = "NET")
    (income net : ℚ) (taxCalculator : ℚ → ℚ) :
    ∃ result, applyPayrollTaxMethod method income net taxCalculator = .ok result ∧
      result.taxPayable = money (max 0 (taxCalculator (max 0 income))) := by
  rcases hmethod with rfl | rfl
  · exact ⟨_, rfl, rfl⟩
  · exact ⟨_, rfl, rfl⟩

def InForce (p : PeriodDates) (profiles : List EmployeeTaxProfile)
    (ruleSets : List TaxRuleSet) (method : String)
    (ruleSet : TaxRuleSet) : Prop :=
  ∀ s ∈ taxSegments profiles ruleSets p.startDate p.endDate,
    (∃ profile, rowEffectiveAt EmployeeTaxProfile.range profiles s.start = some profile ∧
      profile.taxMethod = method) ∧
      ∃ ruleSet', rowEffectiveAt TaxRuleSet.range ruleSets s.start = some ruleSet' ∧ ruleSet'.Alike ruleSet

variable {p : PeriodDates} {profiles : List EmployeeTaxProfile} {ruleSets : List TaxRuleSet} {method : String}
  {taxableRows netRows : List TemporalAmount} {totals : SegmentTotals}

lemma amount_addSegment (taxProfile : EmployeeTaxProfile) (hmethod : method = "GROSS" ∨ method = "NET")
    (hmode : ruleSet.calculationMode = "ANNUAL_PROGRESSIVE") {piece : Segment × ℚ × ℚ}
    (hprofile : ∃ profile, rowEffectiveAt EmployeeTaxProfile.range profiles piece.1.start = some profile ∧
      profile.taxMethod = method)
    (hruleSet : ∃ ruleSet', rowEffectiveAt TaxRuleSet.range ruleSets piece.1.start = some ruleSet' ∧
      ruleSet'.Alike ruleSet) :
    (addSegment profiles ruleSets totals piece).amount =
      totals.amount + payable ruleSet taxProfile piece.1.factor piece.2.1 := by
  obtain ⟨profile, hprofile, rfl⟩ := hprofile
  obtain ⟨ruleSet', hruleSet, halike⟩ := hruleSet
  obtain ⟨result, hresult, hpayable⟩ := applyPayrollTaxMethod_payable hmethod piece.2.1 piece.2.2
    (taxBy ruleSet' profile piece.1.factor)
  have hresult' : applyPayrollTaxMethod profile.taxMethod piece.2.1 piece.2.2
      (fun value => (calculateTaxBase value (some profile) (some ruleSet') piece.1.factor).amount) =
        .ok result := hresult
  have hsegment : addSegment profiles ruleSets totals piece =
      taxSegment profile ruleSet' totals piece.1 piece.2.1 piece.2.2 := by
    simp only [addSegment, hprofile, hruleSet]
  rw [hsegment, taxSegment]
  simp only [hresult']
  rw [SegmentTotals.add, hpayable, taxBy_congr halike hmode profile taxProfile]
  rfl

lemma amount_foldl (taxProfile : EmployeeTaxProfile) (hmethod : method = "GROSS" ∨ method = "NET")
    (hmode : ruleSet.calculationMode = "ANNUAL_PROGRESSIVE") (h : InForce p profiles ruleSets method ruleSet)
    {pieces : List (Segment × ℚ × ℚ)}
    (hpieces : ∀ piece ∈ pieces, piece.1 ∈ taxSegments profiles ruleSets p.startDate p.endDate) :
    (pieces.foldl (addSegment profiles ruleSets) totals).amount =
      totals.amount + (pieces.map fun piece => payable ruleSet taxProfile piece.1.factor piece.2.1).sum := by
  induction pieces generalizing totals with
  | nil => exact (add_zero _).symm
  | cons piece pieces ih =>
    obtain ⟨hpiece, hrest⟩ := forall_mem_cons.mp hpieces
    obtain ⟨hprofile, hruleSet⟩ := h piece.1 hpiece
    rw [List.foldl_cons, ih hrest, amount_addSegment taxProfile hmethod hmode hprofile hruleSet,
      map_cons, sum_cons, add_assoc]

/-- The tax of a period whose segments have the same terms. -/
lemma amount_inForce (hmethod : method = "GROSS" ∨ method = "NET")
    (hmode : ruleSet.calculationMode = "ANNUAL_PROGRESSIVE") (h : InForce p profiles ruleSets method ruleSet)
    (htotal : 0 < money (totalAmount taxableRows)) :
    (calculateTaxAcrossSegments taxableRows netRows profiles ruleSets p.startDate p.endDate).amount =
      (List.zipWith (payable ruleSet taxProfile)
        ((taxSegments profiles ruleSets p.startDate p.endDate).map Segment.factor)
        (allocateTemporalAmounts (taxSegments profiles ruleSets p.startDate p.endDate) taxableRows)).sum := by
  rw [calculateTaxAcrossSegments]
  dsimp only
  rw [if_neg (not_le.mpr htotal), SegmentTotals.rounded]
  dsimp only
  have htaxable :
      (allocateTemporalAmounts (taxSegments profiles ruleSets p.startDate p.endDate) taxableRows).length =
      (taxSegments profiles ruleSets p.startDate p.endDate).length := length_allocate
  have hnet : (allocateTemporalAmounts (taxSegments profiles ruleSets p.startDate p.endDate) netRows).length =
      (taxSegments profiles ruleSets p.startDate p.endDate).length := length_allocate
  rw [amount_foldl taxProfile hmethod hmode h fun piece hpiece => (List.of_mem_zip hpiece).1]
  generalize taxSegments profiles ruleSets p.startDate p.endDate = segments at htaxable hnet ⊢
  generalize allocateTemporalAmounts segments taxableRows = taxable at htaxable ⊢
  generalize allocateTemporalAmounts segments netRows = nets at hnet ⊢
  have hpayable : (segments.zip (taxable.zip nets)).map
      (fun piece => payable ruleSet taxProfile piece.1.factor piece.2.1) =
        List.zipWith (payable ruleSet taxProfile) (segments.map Segment.factor) taxable := by
    have htaxable' : (taxable.zip nets).map Prod.fst = taxable := List.map_fst_zip (by rw [hnet, htaxable])
    rw [List.zipWith_map_left, ← List.map_uncurry_zip_eq_zipWith]
    conv_rhs => rw [← htaxable', List.zip_map_right, map_map]
    rfl
  rw [hpayable]
  have hcents :
      IsCents (List.zipWith (payable ruleSet taxProfile) (segments.map Segment.factor) taxable).sum := by
    refine IsCents.sum fun a ha => ?_
    obtain ⟨i, hi, rfl⟩ := List.mem_iff_getElem.mp ha
    rw [List.getElem_zipWith]
    exact isCents_money _
  change money (0 + _) = _
  rw [zero_add, money_of_isCents hcents]

end Tax

/-! ### Splitting and the whole period -/

section Close

variable {p : PeriodDates} {ruleSet : TaxRuleSet} {taxProfile : EmployeeTaxProfile} {method : String}
  {profiles profiles' : List EmployeeTaxProfile} {ruleSets ruleSets' : List TaxRuleSet}
  {taxableRows netRows netRows' : List TemporalAmount}

/-- A fraction of the period is taxed as the fraction of what a map that is not steeper than the identity makes
of the income for the whole period. -/
def Steady (ruleSet : TaxRuleSet) (taxProfile : EmployeeTaxProfile) (g : ℚ → ℚ) : Prop :=
  (∀ x y, |g x - g y| ≤ |x - y|) ∧ ∀ fraction income, 1 / 1000000 ≤ fraction → fraction ≤ 1 →
    payable ruleSet taxProfile fraction income = money (g (income / fraction) * fraction)

lemma steady_zero (h : ∀ fraction income, 0 < income → taxBy ruleSet taxProfile fraction income ≤ 0) :
    Steady ruleSet taxProfile fun _ => 0 := by
  refine ⟨fun x y => by rw [sub_self, abs_zero]; exact abs_nonneg _, fun fraction income _ _ => ?_⟩
  have hnone : taxBy ruleSet taxProfile fraction (max 0 income) ≤ 0 := by
    rcases le_or_gt income 0 with hincome | hincome
    · rw [max_eq_left hincome, taxBy_of_nonpos le_rfl]
    · rw [max_eq_right hincome.le]
      exact h fraction income hincome
  rw [payable, max_eq_left hnone, zero_mul]

lemma fractionOf_eq {fraction : ℚ} (hlow : 1 / 1000000 ≤ fraction) (hhigh : fraction ≤ 1) :
    fractionOf fraction = fraction := by
  rw [fractionOf, min_eq_right hhigh, max_eq_right hlow]

lemma steady_scaled (h : ruleSet.parameters.Scaled 1) (hstatus : ruleSet.status = "APPROVED")
    (hmode : ruleSet.calculationMode = "ANNUAL_PROGRESSIVE") (hbrackets : ruleSet.parameters.brackets ≠ [])
    (hallowance : 0 ≤ ruleSet.parameters.allowance.getD 0) :
    Steady ruleSet taxProfile fun income => ruleSet.parameters.periodTax (max 0 income) := by
  constructor
  · intro x y
    have hmono {a b : ℚ} (hle : a ≤ b) :
        |ruleSet.parameters.periodTax b - ruleSet.parameters.periodTax a| ≤ |b - a| := by
      have hrise := h.periodTax_mono hle
      have hslow := h.periodTax_le_add hle
      rw [abs_of_nonneg (sub_nonneg.mpr hrise), abs_of_nonneg (sub_nonneg.mpr hle)]
      linarith
    have hclip : |max 0 x - max 0 y| ≤ |x - y| := by
      rw [max_comm 0 x, max_comm 0 y]
      exact abs_max_sub_max_le_abs x y 0
    refine le_trans ?_ hclip
    rcases le_total (max 0 x) (max 0 y) with hle | hle
    · rw [abs_sub_comm, abs_sub_comm (max 0 x)]
      exact hmono hle
    · exact hmono hle
  · intro fraction income hlow hhigh
    have hpos : 0 < fraction := lt_of_lt_of_le (by norm_num) hlow
    dsimp only
    rcases le_or_gt income 0 with hincome | hincome
    · have hnone : ruleSet.parameters.annual 0 = 0 := by
        rw [TaxParameters.annual, zero_mul, zero_sub, max_eq_left (neg_nonpos.mpr hallowance)]
      rw [payable, max_eq_left hincome, taxBy_of_nonpos le_rfl, max_self,
        max_eq_left (div_nonpos_of_nonpos_of_nonneg hincome hpos.le), TaxParameters.periodTax, hnone,
        progressiveTax_eq h.ascends, charge_of_le h.ascends le_rfl, zero_div, zero_mul]
    · rw [payable, max_eq_right hincome.le, taxBy,
        amount_progressive hstatus hmode h.periods_pos.ne' hbrackets hincome, fractionOf_eq hlow hhigh,
        max_eq_right (div_pos hincome hpos).le,
        max_eq_right (money_nonneg (mul_nonneg h.periodTax_nonneg hpos.le)), money_money]

lemma exists_steady (taxProfile : EmployeeTaxProfile) (hvalid : validateTaxRuleParameters ruleSet = .ok ())
    (hmode : ruleSet.calculationMode = "ANNUAL_PROGRESSIVE")
    (hallowance : 0 < ruleSet.parameters.periods → 0 ≤ ruleSet.parameters.allowance.getD 0) :
    ∃ g, Steady ruleSet taxProfile g := by
  obtain ⟨hbrackets, hcheck⟩ := checkBrackets_of_validate hvalid hmode
  have hascends := ascends_of_checkBrackets hcheck (rate_le_one_of_checkBrackets hcheck)
  by_cases hstatus : ruleSet.status = "APPROVED"
  · rcases le_or_gt ruleSet.parameters.periods 0 with hnone | hpos
    · exact ⟨_, steady_zero fun fraction income hincome =>
        taxBy_nonpos_of_periods hstatus hmode hbrackets hascends zero_le_one hnone hincome⟩
    · exact ⟨_, steady_scaled ⟨hascends, hpos, zero_le_one⟩ hstatus hmode hbrackets (hallowance hpos)⟩
  · exact ⟨_, steady_zero fun fraction income _ => (amount_unapproved hstatus).le⟩

variable {ranges : List EffectiveRange} {g : ℚ → ℚ}

lemma factor_le_one (h : p.Clear) : ∀ factor ∈ (p.segments ranges).map Segment.factor, factor ≤ 1 := by
  intro factor hfactor
  have hle := List.single_le_sum (fun factor hfactor => (h.factor_pos factor hfactor).le) factor hfactor
  rwa [h.sum_factor] at hle

lemma zipWith_payable (hg : Steady ruleSet taxProfile g) (h : p.Clear)
    (hfactor : ∀ factor ∈ (p.segments ranges).map Segment.factor, 1 / 1000000 ≤ factor) (shares : List ℚ) :
    List.zipWith (payable ruleSet taxProfile) ((p.segments ranges).map Segment.factor) shares =
      List.zipWith (fun factor share => money (g (share / factor) * factor))
        ((p.segments ranges).map Segment.factor) shares := by
  rw [← List.map_uncurry_zip_eq_zipWith, ← List.map_uncurry_zip_eq_zipWith]
  refine map_congr_left fun piece hpiece => ?_
  have hmem := (List.of_mem_zip hpiece).1
  exact hg.2 piece.1 piece.2 (hfactor _ hmem) (factor_le_one h _ hmem)

lemma sum_payable_single (hg : Steady ruleSet taxProfile g) (h : p.Clear)
    (hrows : ∀ row ∈ taxableRows, row.Whole p) (hone : (p.segments ranges).length = 1) :
    (List.zipWith (payable ruleSet taxProfile) ((p.segments ranges).map Segment.factor)
      (allocateTemporalAmounts (p.segments ranges) taxableRows)).sum =
        money (g (roundedTotal taxableRows)) := by
  have hparts : (p.segments ranges).map Segment.factor = [1] := by
    obtain ⟨s, hs⟩ := List.length_eq_one_iff.mp hone
    have hsum := h.sum_factor ranges
    rw [hs, List.map_singleton, List.sum_singleton] at hsum
    rw [hs, List.map_singleton, hsum]
  have hlast : 1 ≤ ((p.segments ranges).map Segment.factor).getLast (h.segments_ne_nil _) := by
    simp only [hparts, List.getLast_singleton, le_refl]
  have hnear := nearParts_allocate h hrows hlast (by rw [hone, Nat.cast_one])
  obtain ⟨a, ha⟩ := List.length_eq_one_iff.mp (hnear.length.trans hone)
  have hoff := hnear.off
  rw [ha, hparts, hone, Nat.cast_one, sub_self, mul_zero, mul_zero, Core.off, List.zipWith_cons_cons,
    List.zipWith_nil_left, List.sum_singleton, one_mul] at hoff
  have hshare : a = roundedTotal taxableRows := sub_eq_zero.mp (abs_nonpos_iff.mp hoff)
  rw [zipWith_payable hg h (by rw [hparts]; norm_num), ha, hparts, List.zipWith_cons_cons,
    List.zipWith_nil_left,
    List.sum_singleton, div_one, mul_one, hshare]

lemma abs_sum_payable_sub_le (hg : Steady ruleSet taxProfile g) (h : p.Clear)
    (hrows : ∀ row ∈ taxableRows, row.Whole p)
    (hfactor : ∀ factor ∈ (p.segments ranges).map Segment.factor, 1 / 1000000 ≤ factor) :
    |(List.zipWith (payable ruleSet taxProfile) ((p.segments ranges).map Segment.factor)
        (allocateTemporalAmounts (p.segments ranges) taxableRows)).sum - g (roundedTotal taxableRows)| ≤
      (p.segments ranges).length * (1 / 200 + epsilon) +
        taxableRows.length * (2 * (1 / 200 + epsilon) * ((p.segments ranges).length - 1 / 1000000)) := by
  have hcount : 1 ≤ (p.segments ranges).length := by
    rw [← length_map (f := Segment.factor)]
    exact List.length_pos_iff.mpr (h.segments_ne_nil _)
  have hcast : (1 : ℚ) ≤ (p.segments ranges).length := by exact_mod_cast hcount
  have hnear := nearParts_allocate h hrows (hfactor _ (List.getLast_mem (h.segments_ne_nil _))) (by linarith)
  have hclose := abs_sum_scaled_sub_le rounds_money (roundedTotal taxableRows) hg.1 h.factor_pos
    (hnear.length.trans (length_map _).symm)
  rw [h.sum_factor, mul_one, length_map, ← zipWith_payable hg h hfactor] at hclose
  exact hclose.trans (add_le_add le_rfl hnear.off)

lemma length_segments_le (h : p.Clear)
    (hfactor : ∀ factor ∈ (p.segments ranges).map Segment.factor, 1 / 1000000 ≤ factor) :
    ((p.segments ranges).length : ℚ) ≤ 1000000 := by
  have hle := List.card_nsmul_le_sum _ _ hfactor
  rw [h.sum_factor, length_map, nsmul_eq_mul] at hle
  linarith

lemma roundings_le {n m : ℕ} (hn : 2 ≤ n) (hn' : (n : ℚ) ≤ 1000000) :
    n * (1 / 200 + epsilon) + m * (2 * (1 / 200 + epsilon) * (n - 1 / 1000000)) + (1 / 200 + epsilon) ≤
      1 / 100 * n * (m + 1) := by
  have hpos := epsilon_pos
  have hsmall := epsilon_le
  have hcast : (2 : ℚ) ≤ n := by exact_mod_cast hn
  have htiny : n * epsilon ≤ 1 / 1000000000 := by
    calc n * epsilon ≤ 1000000 * (1 / 1000000000000000) := mul_le_mul hn' hsmall hpos.le (by norm_num)
      _ = 1 / 1000000000 := by norm_num
  have hrow : 2 * (1 / 200 + epsilon) * (n - 1 / 1000000) ≤ n / 100 := by
    have hexpand : 2 * (1 / 200 + epsilon) * (n - 1 / 1000000) =
        n / 100 + 2 * (n * epsilon) - 1 / 100000000 - 2 * epsilon / 1000000 := by
      ring
    rw [hexpand]
    linarith
  have hrows := mul_le_mul_of_nonneg_left hrow (Nat.cast_nonneg m : (0 : ℚ) ≤ m)
  linarith

lemma roundings_nonneg (n m : ℕ) : (0 : ℚ) ≤ 1 / 100 * n * (m + 1) := by
  positivity

/-- Boundaries that change nothing do not change the tax of a period, but for roundings. The period lies before
the year 0 or after the year 99, so that its days are put together right; the allowance is not negative, and no
segment is less than a millionth of the period, which is the least that the income of a segment is scaled by.
-/
theorem tax_split_close (h : p.Clear) (hvalid : validateTaxRuleParameters ruleSet = .ok ())
    (hmode : ruleSet.calculationMode = "ANNUAL_PROGRESSIVE")
    (hallowance : 0 < ruleSet.parameters.periods → 0 ≤ ruleSet.parameters.allowance.getD 0)
    (hmethod : method = "GROSS" ∨ method = "NET") (hrows : ∀ row ∈ taxableRows, row.Whole p)
    (hsplit : InForce p profiles ruleSets method ruleSet)
    (hfactor : ∀ s ∈ taxSegments profiles ruleSets p.startDate p.endDate, 1 / 1000000 ≤ s.factor)
    (hwhole : InForce p profiles' ruleSets' method ruleSet)
    (hone : (taxSegments profiles' ruleSets' p.startDate p.endDate).length = 1) :
    |(calculateTaxAcrossSegments taxableRows netRows profiles ruleSets p.startDate p.endDate).amount -
        (calculateTaxAcrossSegments taxableRows netRows' profiles' ruleSets' p.startDate p.endDate).amount| ≤
      1 / 100 * (taxSegments profiles ruleSets p.startDate p.endDate).length * (taxableRows.length + 1) := by
  rcases le_or_gt (money (totalAmount taxableRows)) 0 with hnone | htotal
  · rw [calculateTaxAcrossSegments, calculateTaxAcrossSegments]
    dsimp only
    rw [if_pos hnone, if_pos hnone, sub_self, abs_zero]
    exact roundings_nonneg _ _
  · obtain ⟨g, hg⟩ := exists_steady { id := 0, effectiveFrom := 0 } hvalid hmode hallowance
    have hfactors : ∀ factor ∈ (p.segments (profiles.map EmployeeTaxProfile.range ++
        ruleSets.map TaxRuleSet.range)).map Segment.factor, 1 / 1000000 ≤ factor := by
      intro factor hmem
      obtain ⟨s, hs, rfl⟩ := mem_map.mp hmem
      exact hfactor s hs
    rw [amount_inForce hmethod hmode hsplit htotal, amount_inForce hmethod hmode hwhole htotal]
    have hwholeTax := sum_payable_single hg h hrows hone
    have hclose := abs_sum_payable_sub_le hg h hrows hfactors
    have hn := length_segments_le h hfactors
    rw [PeriodDates.segments, ← taxSegments] at hwholeTax hclose hn
    rw [hwholeTax]
    by_cases hn1 : (taxSegments profiles ruleSets p.startDate p.endDate).length = 1
    · have hsplitTax := sum_payable_single hg h hrows hn1
      rw [PeriodDates.segments, ← taxSegments] at hsplitTax
      rw [hsplitTax, sub_self, abs_zero]
      exact roundings_nonneg _ _
    · have hn2 : 2 ≤ (taxSegments profiles ruleSets p.startDate p.endDate).length := by
        have hpos : 0 < (taxSegments profiles ruleSets p.startDate p.endDate).length := by
          have hnil := h.segments_ne_nil
            (profiles.map EmployeeTaxProfile.range ++ ruleSets.map TaxRuleSet.range)
          rw [← length_map (f := Segment.factor)]
          exact List.length_pos_iff.mpr hnil
        omega
      have hround := abs_money_sub_le (g (roundedTotal taxableRows))
      rw [abs_sub_comm] at hround
      exact (abs_sub_le _ (g (roundedTotal taxableRows)) _).trans
        ((add_le_add hclose hround).trans (roundings_le hn2 hn))

def january2024 : PeriodDates where
  startDate := 1704067200000
  endDate := 1706745599999
  startDate_le := by decide

def yearProfile : EmployeeTaxProfile where
  id := 1
  effectiveFrom := 1704067200000

def laterProfile : EmployeeTaxProfile where
  id := 2
  effectiveFrom := 1704153600000

def januaryRow (amount : ℚ) : TemporalAmount where
  amount
  effectiveFrom := 1704067200000
  effectiveTo := 1706659200000

lemma whole_januaryRow (amount : ℚ) : ∀ row ∈ [januaryRow amount], row.Whole january2024 :=
  List.forall_mem_singleton.mpr ⟨by change dayStart 1704067200000 = dayStart 1704067200000; rfl,
    by change dayStart 1706659200000 = dayStart 1706745599999; decide⟩

lemma inForce_of_all (ruleSet : TaxRuleSet) (profile : EmployeeTaxProfile)
    (hall : (taxSegments profiles ruleSets p.startDate p.endDate).all (fun s =>
      rowEffectiveAt EmployeeTaxProfile.range profiles s.start = some profile &&
        rowEffectiveAt TaxRuleSet.range ruleSets s.start = some ruleSet) = true) :
    InForce p profiles ruleSets profile.taxMethod ruleSet := by
  intro s hs
  have hfound := List.all_eq_true.mp hall s hs
  rw [Bool.and_eq_true, decide_eq_true_eq, decide_eq_true_eq] at hfound
  exact ⟨⟨profile, hfound.1, rfl⟩, ruleSet, hfound.2, rfl, rfl, rfl⟩

def tenthAbove (allowance : ℚ) : TaxRuleSet where
  id := 1
  companyId := 1
  code := "PPH21"
  effectiveFrom := 1704067200000
  calculationMode := "ANNUAL_PROGRESSIVE"
  parameters := { brackets := [{ rate := 1 / 10 }], allowance := some allowance }
  status := "APPROVED"

/-- With an allowance of -1200000 a cent is taxed with 10000. Split off, the first day has no part of the cent,
and is not taxed. -/
theorem not_tax_split_close_negative : validateTaxRuleParameters (tenthAbove (-1200000)) = .ok () ∧
    InForce january2024 [yearProfile, laterProfile] [tenthAbove (-1200000)] "GROSS" (tenthAbove (-1200000)) ∧
    InForce january2024 [yearProfile] [tenthAbove (-1200000)] "GROSS" (tenthAbove (-1200000)) ∧
    (taxSegments [yearProfile] [tenthAbove (-1200000)] january2024.startDate january2024.endDate).length = 1 ∧
    (∀ row ∈ [januaryRow (1 / 100)], row.Whole january2024) ∧
    ¬ |(calculateTaxAcrossSegments [januaryRow (1 / 100)] [] [yearProfile, laterProfile] [tenthAbove (-1200000)]
            january2024.startDate january2024.endDate).amount -
          (calculateTaxAcrossSegments [januaryRow (1 / 100)] [] [yearProfile] [tenthAbove (-1200000)]
            january2024.startDate january2024.endDate).amount| ≤
        1 / 100 * (taxSegments [yearProfile, laterProfile] [tenthAbove (-1200000)] january2024.startDate
          january2024.endDate).length * ([januaryRow (1 / 100)].length + 1) :=
  ⟨by decide +kernel, inForce_of_all _ yearProfile (by decide +kernel),
    inForce_of_all _ yearProfile (by decide +kernel),
    by decide +kernel, whole_januaryRow _, by decide +kernel⟩

theorem tax_split_close_january :
    |(calculateTaxAcrossSegments [januaryRow 5000] [] [yearProfile, laterProfile] [tenthAbove 24000]
          january2024.startDate january2024.endDate).amount -
        (calculateTaxAcrossSegments [januaryRow 5000] [] [yearProfile] [tenthAbove 24000]
          january2024.startDate january2024.endDate).amount| ≤
      1 / 100 * (taxSegments [yearProfile, laterProfile] [tenthAbove 24000] january2024.startDate
        january2024.endDate).length * ([januaryRow 5000].length + 1) :=
  tax_split_close (Or.inr (by decide +kernel))
    (by decide +kernel : validateTaxRuleParameters (tenthAbove 24000) = .ok ()) rfl (by decide +kernel)
    (Or.inl rfl)
    (whole_januaryRow 5000) (inForce_of_all _ yearProfile (by decide +kernel)) (by decide +kernel)
    (inForce_of_all _ yearProfile (by decide +kernel)) (by decide +kernel)

end Close

end Mayatoko.Payroll
