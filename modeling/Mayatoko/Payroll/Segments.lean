import Mathlib.Algebra.Order.Field.Rat
import Mathlib.Data.List.Dedup
import Mathlib.Data.List.Find
import Mayatoko.Core.Breakpoints
import Mayatoko.Core.Calendar

/-!
# The segments of a payroll period

The tax and the social security of an employee follow profiles and rule sets that are in force from one day to
another. A period is cut into segments where one of them starts or ends, and each segment is calculated with the
rows in force on its first day.

A day is put together from its year, month and date, and there the years 0 to 99 stand for those of the
twentieth century. A period that lies before or after them is cut right.
-/

namespace Mayatoko.Payroll

open Core

/-! ### Days and ranges -/

structure EffectiveRange where
  effectiveFrom : ℤ
  effectiveTo : Option ℤ := none

structure DateProration where
  factor : ℚ
  (activeDays periodDays activeFrom activeTo : ℤ)

def utcDayStart (value : ℤ) : ℤ := dateUTC (yearFromTime value) (monthFromTime value) (dateFromTime value)

/-- The last day of a range, that of the period where it is open. -/
def EffectiveRange.lastDay (range : EffectiveRange) (finish : ℤ) : ℤ :=
  match range.effectiveTo with
  | some effectiveTo => utcDayStart effectiveTo
  | none => finish

def inclusiveUtcDays (start finish : ℤ) : ℤ :=
  let first := utcDayStart start
  let last := utcDayStart finish
  if last < first then 0 else (last - first) / msPerDay + 1

def dateProration (periodStart periodEnd : ℤ) (range : EffectiveRange) : Option DateProration :=
  let start := utcDayStart periodStart
  let finish := utcDayStart periodEnd
  let effectiveStart := utcDayStart range.effectiveFrom
  let effectiveEnd := range.lastDay finish
  let activeFrom := if start < effectiveStart then effectiveStart else start
  let activeTo := if effectiveEnd < finish then effectiveEnd else finish
  let periodDays := inclusiveUtcDays start finish
  let activeDays := inclusiveUtcDays activeFrom activeTo
  if periodDays = 0 ∨ activeDays = 0 then none
  else some { factor := activeDays / periodDays, activeDays, periodDays, activeFrom, activeTo }

/-! ### Segments -/

def EffectiveRange.has (range : EffectiveRange) (instant : ℤ) : Bool :=
  utcDayStart range.effectiveFrom ≤ utcDayStart instant &&
    match range.effectiveTo with
    | some effectiveTo => decide (utcDayStart instant ≤ utcDayStart effectiveTo)
    | none => true

def rowEffectiveAt {T : Type*} (range : T → EffectiveRange) (rows : List T) (instant : ℤ) : Option T :=
  rows.find? fun row => (range row).has instant

structure Segment where
  (start finish activeDays : ℤ)
  factor : ℚ

/-- The days at which a segment may start; the last of them is the day after the period. -/
def breakpoints (periodStart periodEnd : ℤ) (rows : List EffectiveRange) : List ℤ :=
  let start := utcDayStart periodStart
  let finish := utcDayStart periodEnd
  let points := [start, finish + msPerDay] ++ rows.flatMap fun row =>
    match dateProration start finish row with
    | some overlap => [utcDayStart overlap.activeFrom, utcDayStart overlap.activeTo + msPerDay]
    | none => []
  points.dedup.insertionSort (· ≤ ·)

def segment (periodDays : ℤ) (piece : ℤ × ℤ) : Segment :=
  let activeDays := inclusiveUtcDays piece.1 (piece.2 - msPerDay)
  { start := piece.1, finish := piece.2 - msPerDay, activeDays, factor := activeDays / periodDays }

def buildEffectiveSegments (periodStart periodEnd : ℤ) (rows : List EffectiveRange) : List Segment :=
  let periodDays := inclusiveUtcDays (utcDayStart periodStart) (utcDayStart periodEnd)
  ((pieces (breakpoints periodStart periodEnd rows)).map (segment periodDays)).filter fun s => 0 < s.activeDays

/-- A profile from the tenth of a month on and one that ends in it cut January 2024 at both days. -/
example : (buildEffectiveSegments 1704067200000 1706745599999
    [{ effectiveFrom := 1704844800000 }, { effectiveFrom := 0, effectiveTo := some 1705708800000 }]).map
      Segment.activeDays = [9, 11, 11] := by
  decide +kernel

/-- A period as it is created, its end not before its start. -/
structure PeriodDates where
  (startDate endDate : ℤ)
  startDate_le : startDate ≤ endDate

def Segment.Has (s : Segment) (instant : ℤ) : Prop := s.start ≤ instant ∧ instant < s.finish + msPerDay

/-- The segments cut the days of a period, each row in force over the whole of a segment or not at all. -/
structure CutRight (p : PeriodDates) (rows : List EffectiveRange) (segments : List Segment) : Prop where
  consecutive : segments.IsChain fun s t => t.start = s.finish + msPerDay
  disjoint : segments.Pairwise fun s t => s.finish < t.start
  nonempty : ∀ s ∈ segments, s.start ≤ s.finish
  whole : ∀ s ∈ segments, dayStart s.start = s.start ∧ dayStart s.finish = s.finish
  days : ∀ s ∈ segments, s.activeDays = dayOf s.finish - dayOf s.start + 1
  covered : ∀ d, dayStart d = d →
    ((∃ s ∈ segments, s.start ≤ d ∧ d ≤ s.finish) ↔ dayStart p.startDate ≤ d ∧ d ≤ dayStart p.endDate)
  total : (segments.map Segment.activeDays).sum = dayOf p.endDate - dayOf p.startDate + 1
  constant : ∀ (T : Type) (range : T → EffectiveRange) (list : List T), (∀ row ∈ list, range row ∈ rows) →
    ∀ s ∈ segments, ∀ instant instant', s.Has instant → s.Has instant' →
      rowEffectiveAt range list instant = rowEffectiveAt range list instant'

def PeriodDates.CutsRight (p : PeriodDates) : Prop :=
  ∀ rows, CutRight p rows (buildEffectiveSegments p.startDate p.endDate rows)

lemma dayStart_utcDayStart (t : ℤ) : dayStart (utcDayStart t) = utcDayStart t := dayStart_dateUTC _ _ _

lemma dayStart_le_utcDayStart (t : ℤ) : dayStart t ≤ utcDayStart t := by
  by_cases h : 0 ≤ yearFromTime t ∧ yearFromTime t ≤ 99
  · exact (dayStart_lt_dateUTC h).le
  · exact (dateUTC_eq_dayStart (by omega)).ge

lemma utcDayStart_eq_iff (t : ℤ) : utcDayStart t = dayStart t ↔ yearFromTime t < 0 ∨ 99 < yearFromTime t := by
  constructor
  · intro h
    by_contra hyear
    exact absurd h (dayStart_lt_dateUTC (by omega)).ne'
  · exact dateUTC_eq_dayStart

lemma utcDayStart_utcDayStart (t : ℤ) : utcDayStart (utcDayStart t) = utcDayStart t := by
  have hyear := yearFromTime_dateUTC t
  exact (dateUTC_eq_dayStart hyear).trans (dayStart_utcDayStart t)

variable {periodStart periodEnd : ℤ} {rows : List EffectiveRange}

lemma mem_breakpoints {x : ℤ} : x ∈ breakpoints periodStart periodEnd rows ↔
      x = utcDayStart periodStart ∨ x = utcDayStart periodEnd + msPerDay ∨
        ∃ row ∈ rows, ∃ overlap,
          dateProration (utcDayStart periodStart) (utcDayStart periodEnd) row = some overlap ∧
          (x = utcDayStart overlap.activeFrom ∨ x = utcDayStart overlap.activeTo + msPerDay) := by
  rw [breakpoints, List.mem_insertionSort, List.mem_dedup, List.mem_append, List.mem_pair, List.mem_flatMap,
    or_assoc]
  refine or_congr Iff.rfl (or_congr Iff.rfl (exists_congr fun row => and_congr Iff.rfl ?_))
  cases dateProration (utcDayStart periodStart) (utcDayStart periodEnd) row with
  | none => simp only [List.not_mem_nil, reduceCtorEq, false_and, exists_false]
  | some overlap => simp only [List.mem_pair, Option.some.injEq, exists_eq_left']

lemma pairwise_breakpoints (periodStart periodEnd : ℤ) (rows : List EffectiveRange) :
    (breakpoints periodStart periodEnd rows).Pairwise (· < ·) := by
  rw [breakpoints]
  refine (List.sortedLE_insertionSort.sortedLT_of_nodup ?_).pairwise
  exact (List.perm_insertionSort _ _).nodup_iff.mpr (List.nodup_dedup _)

lemma segment_has_iff {periodDays t : ℤ} {piece : ℤ × ℤ} :
    (segment periodDays piece).Has t ↔ piece.1 ≤ t ∧ t < piece.2 := by
  rw [Segment.Has, segment]
  refine and_congr Iff.rfl ?_
  rw [Int.sub_add_cancel]

lemma mem_buildEffectiveSegments {s : Segment} (h : s ∈ buildEffectiveSegments periodStart periodEnd rows) :
    ∃ piece ∈ pieces (breakpoints periodStart periodEnd rows),
      s.start = piece.1 ∧ s.finish + msPerDay = piece.2 := by
  rw [buildEffectiveSegments, List.mem_filter, List.mem_map] at h
  obtain ⟨⟨piece, hpiece, rfl⟩, _⟩ := h
  exact ⟨piece, hpiece, rfl, Int.sub_add_cancel _ _⟩

/-! ### The part of a range in a period -/

lemma EffectiveRange.has_iff {range : EffectiveRange} {t : ℤ} (ht : utcDayStart t = dayStart t) :
    range.has t = true ↔ utcDayStart range.effectiveFrom ≤ t ∧
      ∀ effectiveTo, range.effectiveTo = some effectiveTo → t < utcDayStart effectiveTo + msPerDay := by
  rw [EffectiveRange.has, Bool.and_eq_true, decide_eq_true_eq, ht, le_dayStart_iff (dayStart_utcDayStart _)]
  refine and_congr Iff.rfl ?_
  cases range.effectiveTo with
  | none => simp only [reduceCtorEq, false_implies, implies_true]
  | some effectiveTo =>
    rw [decide_eq_true_eq, dayStart_le_iff (dayStart_utcDayStart _)]
    simp only [Option.some.injEq, forall_eq']

structure DateProration.Part (o : DateProration) (start finish : ℤ) (range : EffectiveRange) : Prop where
  first : start ≤ o.activeFrom
  begins : utcDayStart range.effectiveFrom ≤ o.activeFrom
  order : o.activeFrom ≤ o.activeTo
  last : o.activeTo ≤ finish
  fromDay : utcDayStart o.activeFrom = o.activeFrom
  toDay : utcDayStart o.activeTo = o.activeTo
  has_iff : ∀ t, start ≤ t → t < finish + msPerDay → utcDayStart t = dayStart t →
    (range.has t = true ↔ o.activeFrom ≤ t ∧ t < o.activeTo + msPerDay)

lemma dayStart_of_utcDayStart {d : ℤ} (h : utcDayStart d = d) : dayStart d = d := by
  rw [← h]
  exact dayStart_utcDayStart d

variable {a b : ℤ}

lemma inclusiveUtcDays_eq (ha : utcDayStart a = a) (hb : utcDayStart b = b) (h : a ≤ b) :
    inclusiveUtcDays a b = dayOf b - dayOf a + 1 := by
  have haday := dayStart_of_utcDayStart ha
  have hbday := dayStart_of_utcDayStart hb
  rw [dayStart, dayOf, msPerDay] at haday hbday
  rw [inclusiveUtcDays, ha, hb, if_neg (not_lt.mpr h), dayOf, dayOf, msPerDay]
  omega

lemma inclusiveUtcDays_eq_zero_iff (ha : utcDayStart a = a) (hb : utcDayStart b = b) :
    inclusiveUtcDays a b = 0 ↔ b < a := by
  rcases lt_or_ge b a with h | h
  · rw [inclusiveUtcDays, ha, hb, if_pos h]
    exact iff_of_true rfl h
  · have hle : dayOf a ≤ dayOf b := Int.ediv_le_ediv (by decide) h
    rw [inclusiveUtcDays_eq ha hb h]
    exact iff_of_false (by omega) (not_lt.mpr h)

lemma utcDayStart_lastDay (range : EffectiveRange) {finish : ℤ} (hf : utcDayStart finish = finish) :
    utcDayStart (range.lastDay finish) = range.lastDay finish := by
  rw [EffectiveRange.lastDay]
  cases range.effectiveTo with
  | none => exact hf
  | some effectiveTo => exact utcDayStart_utcDayStart effectiveTo

lemma EffectiveRange.has_iff_lastDay {range : EffectiveRange} {finish t : ℤ} (hlt : t < finish + msPerDay)
    (ht : utcDayStart t = dayStart t) :
    range.has t = true ↔ utcDayStart range.effectiveFrom ≤ t ∧ t < range.lastDay finish + msPerDay := by
  rw [EffectiveRange.has_iff ht, EffectiveRange.lastDay]
  refine and_congr Iff.rfl ?_
  cases range.effectiveTo with
  | none => simp only [reduceCtorEq, false_implies, implies_true, hlt]
  | some effectiveTo => simp only [Option.some.injEq, forall_eq']

variable {start finish : ℤ} {range : EffectiveRange}

lemma utcDayStart_max (ha : utcDayStart a = a) (hb : utcDayStart b = b) : utcDayStart (max a b) = max a b := by
  rcases max_choice a b with h | h
  · rw [h, ha]
  · rw [h, hb]

lemma utcDayStart_min (ha : utcDayStart a = a) (hb : utcDayStart b = b) : utcDayStart (min a b) = min a b := by
  rcases min_choice a b with h | h
  · rw [h, ha]
  · rw [h, hb]

/-- The proration of a range in a period of days is the part of the range there; it is missing where there is
none. -/
lemma dateProration_spec (hs : utcDayStart start = start) (hf : utcDayStart finish = finish)
    (hle : start ≤ finish) (range : EffectiveRange) :
    (∃ o, dateProration start finish range = some o ∧ o.Part start finish range) ∨
      dateProration start finish range = none ∧
        ∀ t, start ≤ t → t < finish + msPerDay → utcDayStart t = dayStart t → range.has t = false := by
  have hfirst := utcDayStart_max hs (utcDayStart_utcDayStart range.effectiveFrom)
  have hlast := utcDayStart_min (utcDayStart_lastDay range hf) hf
  have hperiod : inclusiveUtcDays start finish ≠ 0 := by
    rw [Ne, inclusiveUtcDays_eq_zero_iff hs hf]
    exact not_lt.mpr hle
  simp only [dateProration, hs, hf, ← max_def_lt, ← min_def_lt, hperiod, false_or]
  by_cases hempty :
      inclusiveUtcDays (max start (utcDayStart range.effectiveFrom)) (min (range.lastDay finish) finish) = 0
  · right
    refine ⟨if_pos hempty, fun t ht hlt hday => ?_⟩
    rw [inclusiveUtcDays_eq_zero_iff hfirst hlast] at hempty
    rw [Bool.eq_false_iff, Ne, EffectiveRange.has_iff_lastDay hlt hday]
    rintro ⟨hfrom, hto⟩
    have hbegins := (le_dayStart_iff (dayStart_of_utcDayStart hfirst) t).mpr (max_le ht hfrom)
    have hends : dayStart t ≤ min (range.lastDay finish) finish := by
      rw [dayStart_le_iff (dayStart_of_utcDayStart hlast), min_add]
      exact lt_min hto hlt
    exact absurd (hbegins.trans hends) (not_le.mpr hempty)
  · left
    refine ⟨_, if_neg hempty, ?_⟩
    rw [inclusiveUtcDays_eq_zero_iff hfirst hlast] at hempty
    refine ⟨le_max_left _ _, le_max_right _ _, not_lt.mp hempty, min_le_right _ _, hfirst, hlast,
      fun t ht hlt hday => ?_⟩
    rw [EffectiveRange.has_iff_lastDay hlt hday, max_le_iff, min_add, lt_min_iff]
    exact ⟨fun h => ⟨⟨ht, h.1⟩, h.2, hlt⟩, fun h => ⟨h.1.2, h.2.1⟩⟩

lemma exists_part_of_mem_breakpoints {x : ℤ}
    (hle : utcDayStart periodStart ≤ utcDayStart periodEnd) (hx : x ∈ breakpoints periodStart periodEnd rows) :
    x = utcDayStart periodStart ∨ x = utcDayStart periodEnd + msPerDay ∨
      ∃ row ∈ rows, ∃ o : DateProration, o.Part (utcDayStart periodStart) (utcDayStart periodEnd) row ∧
        (x = o.activeFrom ∨ x = o.activeTo + msPerDay) := by
  refine (mem_breakpoints.mp hx).imp_right fun h => h.imp_right ?_
  rintro ⟨row, hrow, o, ho, hx⟩
  obtain ⟨o', ho', hpart⟩ | ⟨hnone, _⟩ :=
    dateProration_spec (utcDayStart_utcDayStart _) (utcDayStart_utcDayStart _) hle row
  · obtain rfl : o = o' := Option.mem_unique ho ho'
    rw [hpart.fromDay, hpart.toDay] at hx
    exact ⟨row, hrow, o, hpart, hx⟩
  · exact absurd (ho.symm.trans hnone) (by simp only [reduceCtorEq, not_false_eq_true])

/-! ### Periods before or after the years 0 to 99 -/

/-- The period lies before the year 0, or after the year 99. -/
def PeriodDates.Clear (p : PeriodDates) : Prop := yearFromTime p.endDate < 0 ∨ 99 < yearFromTime p.startDate

section Clear

variable {p : PeriodDates} (h : p.Clear)
include h

lemma utcDayStart_of_clear {t : ℤ} (ht : dayStart p.startDate ≤ t) (hlt : t < dayStart p.endDate + msPerDay) :
    utcDayStart t = dayStart t := by
  rw [utcDayStart_eq_iff]
  have hfirst : dayOf p.startDate ≤ dayOf t := by
    rw [dayStart, dayOf, msPerDay] at ht
    rw [dayOf, dayOf, msPerDay]
    omega
  have hlast : dayOf t ≤ dayOf p.endDate := by
    rw [dayStart, dayOf, msPerDay] at hlt
    rw [dayOf, dayOf, msPerDay]
    omega
  rcases h with h | h
  · exact .inl (lt_of_le_of_lt (yearFromDay_mono hlast) h)
  · exact .inr (lt_of_lt_of_le h (yearFromDay_mono hfirst))

lemma utcDayStart_startDate : utcDayStart p.startDate = dayStart p.startDate := by
  rw [utcDayStart_eq_iff]
  rcases h with h | h
  · exact .inl (lt_of_le_of_lt (yearFromTime_mono p.startDate_le) h)
  · exact .inr h

lemma utcDayStart_endDate : utcDayStart p.endDate = dayStart p.endDate := by
  rw [utcDayStart_eq_iff]
  rcases h with h | h
  · exact .inl h
  · exact .inr (lt_of_lt_of_le h (yearFromTime_mono p.startDate_le))

variable {rows : List EffectiveRange} {row : EffectiveRange}

lemma breakpoints_of_mem (hrow : row ∈ rows) :
    (∃ first ∈ breakpoints p.startDate p.endDate rows, ∃ next ∈ breakpoints p.startDate p.endDate rows,
        ∀ t, dayStart p.startDate ≤ t → t < dayStart p.endDate + msPerDay →
          (row.has t = true ↔ first ≤ t ∧ ¬ next ≤ t)) ∨
      ∀ t, dayStart p.startDate ≤ t → t < dayStart p.endDate + msPerDay → row.has t = false := by
  have hs : utcDayStart (utcDayStart p.startDate) = utcDayStart p.startDate := utcDayStart_utcDayStart _
  have hf : utcDayStart (utcDayStart p.endDate) = utcDayStart p.endDate := utcDayStart_utcDayStart _
  have hle : utcDayStart p.startDate ≤ utcDayStart p.endDate := by
    rw [utcDayStart_startDate h, utcDayStart_endDate h]
    exact dayStart_mono p.startDate_le
  obtain ⟨o, ho, hpart⟩ | ⟨_, hnone⟩ := dateProration_spec hs hf hle row
  · left
    refine ⟨o.activeFrom, mem_breakpoints.mpr (Or.inr (Or.inr ⟨row, hrow, o, ho, .inl hpart.fromDay.symm⟩)),
      o.activeTo + msPerDay, mem_breakpoints.mpr (Or.inr (Or.inr ⟨row, hrow, o, ho, .inr ?_⟩)),
      fun t ht hlt => ?_⟩
    · rw [hpart.toDay]
    · rw [not_le]
      rw [utcDayStart_startDate h, utcDayStart_endDate h] at hpart
      exact hpart.has_iff t ht hlt (utcDayStart_of_clear h ht hlt)
  · right
    intro t ht hlt
    rw [utcDayStart_startDate h, utcDayStart_endDate h] at hnone
    exact hnone t ht hlt (utcDayStart_of_clear h ht hlt)

lemma range_of_mem_breakpoints {x : ℤ} (hx : x ∈ breakpoints p.startDate p.endDate rows) :
    dayStart p.startDate ≤ x ∧ x ≤ dayStart p.endDate + msPerDay ∧ dayStart x = x := by
  have hday : 0 ≤ msPerDay := by decide
  have hle := dayStart_mono p.startDate_le
  have hperiod : utcDayStart p.startDate ≤ utcDayStart p.endDate := by
    rw [utcDayStart_startDate h, utcDayStart_endDate h]
    exact hle
  obtain rfl | rfl | ⟨row, _, o, hpart, hx⟩ := exists_part_of_mem_breakpoints hperiod hx
  · rw [utcDayStart_startDate h]
    exact ⟨le_rfl, by omega, dayStart_dayStart _⟩
  · rw [utcDayStart_endDate h]
    exact ⟨by omega, le_rfl, dayStart_add_msPerDay (dayStart_dayStart _)⟩
  · rw [utcDayStart_startDate h, utcDayStart_endDate h] at hpart
    have hfirst := hpart.first
    have horder := hpart.order
    have hlast := hpart.last
    have hto := dayStart_of_utcDayStart hpart.toDay
    obtain rfl | rfl := hx
    · exact ⟨hfirst, by omega, dayStart_of_utcDayStart hpart.fromDay⟩
    · exact ⟨by omega, by omega, dayStart_add_msPerDay hto⟩

lemma breakpoints_eq (rows : List EffectiveRange) :
    ∃ rest, breakpoints p.startDate p.endDate rows = dayStart p.startDate :: rest ∧
      (dayStart p.startDate :: rest).getLast (List.cons_ne_nil _ rest) = dayStart p.endDate + msPerDay := by
  refine exists_eq_cons (pairwise_breakpoints _ _ _) (mem_breakpoints.mpr (Or.inl ?_))
    (fun x hx => (range_of_mem_breakpoints h hx).1) (mem_breakpoints.mpr (Or.inr (Or.inl ?_)))
    (fun x hx => (range_of_mem_breakpoints h hx).2.1)
  · rw [utcDayStart_startDate h]
  · rw [utcDayStart_endDate h]

lemma activeDays_segment {piece : ℤ × ℤ}
    (hpiece : piece ∈ pieces (breakpoints p.startDate p.endDate rows)) (periodDays : ℤ) :
    (segment periodDays piece).activeDays = dayOf piece.2 - dayOf piece.1 := by
  have hlt := lt_of_mem_pieces (pairwise_breakpoints _ _ _) hpiece
  obtain ⟨hfst, hsnd⟩ := mem_of_mem_pieces hpiece
  obtain ⟨hfirst, hfstEnd, hfstDay⟩ := range_of_mem_breakpoints h hfst
  obtain ⟨hsndStart, hlast, hsndDay⟩ := range_of_mem_breakpoints h hsnd
  have hnext := (add_msPerDay_le_iff hfstDay hsndDay).mpr hlt
  have hday : 0 < msPerDay := by decide
  have hfstUtc : utcDayStart piece.1 = piece.1 :=
    (utcDayStart_of_clear h hfirst (lt_of_lt_of_le hlt hlast)).trans hfstDay
  have hsndUtc : utcDayStart (piece.2 - msPerDay) = piece.2 - msPerDay :=
    (utcDayStart_of_clear h (by omega) (by omega)).trans (dayStart_sub_msPerDay hsndDay)
  have hcount := inclusiveUtcDays_eq hfstUtc hsndUtc (by omega)
  have hprev : dayOf (piece.2 - msPerDay) = dayOf piece.2 - 1 := by
    rw [dayOf, dayOf, msPerDay]
    omega
  rw [hprev, sub_add_eq_add_sub, sub_add_cancel] at hcount
  exact hcount

lemma buildEffectiveSegments_eq (rows : List EffectiveRange) :
    buildEffectiveSegments p.startDate p.endDate rows =
      (pieces (breakpoints p.startDate p.endDate rows)).map
        (segment (inclusiveUtcDays (utcDayStart p.startDate) (utcDayStart p.endDate))) := by
  rw [buildEffectiveSegments, List.filter_eq_self]
  intro s hs
  obtain ⟨piece, hpiece, rfl⟩ := List.mem_map.mp hs
  have hlt := lt_of_mem_pieces (pairwise_breakpoints _ _ _) hpiece
  obtain ⟨hfst, hsnd⟩ := mem_of_mem_pieces hpiece
  have hnext := (add_msPerDay_le_iff (range_of_mem_breakpoints h hfst).2.2
    (range_of_mem_breakpoints h hsnd).2.2).mpr hlt
  rw [decide_eq_true_eq, activeDays_segment h hpiece, dayOf, dayOf]
  rw [msPerDay] at hnext ⊢
  omega

lemma has_congr (hrow : row ∈ rows) {piece : ℤ × ℤ}
    (hpiece : piece ∈ pieces (breakpoints p.startDate p.endDate rows)) {t u : ℤ}
    (ht : piece.1 ≤ t ∧ t < piece.2) (hu : piece.1 ≤ u ∧ u < piece.2) : row.has t = row.has u := by
  obtain ⟨hfst, hsnd⟩ := mem_of_mem_pieces hpiece
  have hfirst := (range_of_mem_breakpoints h hfst).1
  have hlast := (range_of_mem_breakpoints h hsnd).2.1
  have hinside {t : ℤ} (ht : piece.1 ≤ t ∧ t < piece.2) :
      dayStart p.startDate ≤ t ∧ t < dayStart p.endDate + msPerDay :=
    ⟨hfirst.trans ht.1, lt_of_lt_of_le ht.2 hlast⟩
  obtain ⟨htfirst, htlast⟩ := hinside ht
  obtain ⟨hufirst, hulast⟩ := hinside hu
  obtain ⟨first, hfst, next, hnext, hiff⟩ | hnone := breakpoints_of_mem h hrow
  · have hpairwise := pairwise_breakpoints p.startDate p.endDate rows
    rw [Bool.eq_iff_iff, hiff t htfirst htlast, hiff u hufirst hulast,
      le_iff_of_mem_pieces hpairwise hpiece hfst ht hu, le_iff_of_mem_pieces hpairwise hpiece hnext ht hu]
  · rw [hnone t htfirst htlast, hnone u hufirst hulast]

lemma cutRight_of_clear (rows : List EffectiveRange) :
    CutRight p rows (buildEffectiveSegments p.startDate p.endDate rows) := by
  have hpairwise := pairwise_breakpoints p.startDate p.endDate rows
  have hday : 0 < msPerDay := by decide
  obtain ⟨rest, hrest, hgetLast⟩ := breakpoints_eq h rows
  rw [buildEffectiveSegments_eq h]
  constructor
  case consecutive =>
    rw [List.isChain_map]
    refine (isChain_pieces _).imp fun q r hqr => ?_
    exact hqr.symm.trans (Int.sub_add_cancel _ _).symm
  case disjoint =>
    rw [List.pairwise_map]
    refine (pairwise_pieces hpairwise).imp fun {q r} hqr => ?_
    change q.2 - msPerDay < r.1
    omega
  case nonempty =>
    rintro s hs
    obtain ⟨piece, hpiece, rfl⟩ := List.mem_map.mp hs
    obtain ⟨hfst, hsnd⟩ := mem_of_mem_pieces hpiece
    have hnext := (add_msPerDay_le_iff (range_of_mem_breakpoints h hfst).2.2
      (range_of_mem_breakpoints h hsnd).2.2).mpr (lt_of_mem_pieces hpairwise hpiece)
    change piece.1 ≤ piece.2 - msPerDay
    omega
  case whole =>
    rintro s hs
    obtain ⟨piece, hpiece, rfl⟩ := List.mem_map.mp hs
    obtain ⟨hfst, hsnd⟩ := mem_of_mem_pieces hpiece
    exact ⟨(range_of_mem_breakpoints h hfst).2.2, dayStart_sub_msPerDay (range_of_mem_breakpoints h hsnd).2.2⟩
  case days =>
    rintro s hs
    obtain ⟨piece, hpiece, rfl⟩ := List.mem_map.mp hs
    rw [activeDays_segment h hpiece]
    change _ = dayOf (piece.2 - msPerDay) - dayOf piece.1 + 1
    rw [dayOf, dayOf, dayOf, msPerDay]
    omega
  case covered =>
    intro d hd
    constructor
    · rintro ⟨s, hs, hfirst, hlast⟩
      obtain ⟨piece, hpiece, rfl⟩ := List.mem_map.mp hs
      obtain ⟨hfst, hsnd⟩ := mem_of_mem_pieces hpiece
      have hend := (range_of_mem_breakpoints h hsnd).2.1
      change d ≤ piece.2 - msPerDay at hlast
      exact ⟨(range_of_mem_breakpoints h hfst).1.trans hfirst, by omega⟩
    · rintro ⟨hfirst, hlast⟩
      rw [hrest] at hpairwise ⊢
      obtain ⟨piece, hpiece, hle, hlt⟩ := exists_mem_pieces hpairwise hfirst (by rw [hgetLast]; omega)
      refine ⟨_, List.mem_map.mpr ⟨piece, hpiece, rfl⟩, hle, ?_⟩
      rw [← hrest] at hpiece
      have hnext := (add_msPerDay_le_iff hd
        (range_of_mem_breakpoints h (mem_of_mem_pieces hpiece).2).2.2).mpr hlt
      change d ≤ piece.2 - msPerDay
      omega
  case total =>
    have hcounts : (pieces (breakpoints p.startDate p.endDate rows)).map (Segment.activeDays ∘
            segment (inclusiveUtcDays (utcDayStart p.startDate) (utcDayStart p.endDate))) =
          (pieces (breakpoints p.startDate p.endDate rows)).map fun piece => dayOf piece.2 - dayOf piece.1 :=
      List.map_congr_left fun piece hpiece => activeDays_segment h hpiece _
    rw [List.map_map, hcounts, hrest, sum_pieces, hgetLast]
    simp only [dayOf, dayStart, msPerDay]
    omega
  case constant =>
    intro T range list hlist s hs instant instant' ht hu
    obtain ⟨piece, hpiece, rfl⟩ := List.mem_map.mp hs
    rw [rowEffectiveAt, rowEffectiveAt]
    refine List.find?_congr fun row hrow => ?_
    exact has_congr h (hlist row hrow) hpiece (segment_has_iff.mp ht) (segment_has_iff.mp hu)

end Clear

/-! ### Periods with days in the years 0 to 99 -/

section

variable {p : PeriodDates}

lemma not_cutsRight_of_startDate (hyear : 0 ≤ yearFromTime p.startDate ∧ yearFromTime p.startDate ≤ 99) :
    ¬ p.CutsRight := by
  intro hright
  have hlate : dayStart p.startDate < utcDayStart p.startDate := dayStart_lt_dateUTC hyear
  have hend := (dayStart_mono p.startDate_le).trans (dayStart_le_utcDayStart p.endDate)
  have hday : 0 < msPerDay := by decide
  obtain ⟨s, hs, hle, _⟩ := ((hright []).covered _ (dayStart_dayStart p.startDate)).mpr
    ⟨le_rfl, dayStart_mono p.startDate_le⟩
  obtain ⟨piece, hpiece, hstart, _⟩ := mem_buildEffectiveSegments hs
  rw [hstart] at hle
  obtain heq | heq | ⟨row, hrow, _⟩ := mem_breakpoints.mp (mem_of_mem_pieces hpiece).1
  · omega
  · omega
  · cases hrow

lemma not_cutsRight_of_endDate (hfirst : yearFromTime p.startDate < 0)
    (hyear : 0 ≤ yearFromTime p.endDate ∧ yearFromTime p.endDate ≤ 99) : ¬ p.CutsRight := by
  intro hright
  have hstart : utcDayStart p.startDate = dayStart p.startDate := dateUTC_eq_dayStart (Or.inl hfirst)
  have hlate : dayStart p.endDate < utcDayStart p.endDate := dayStart_lt_dateUTC hyear
  have hle := dayStart_mono p.startDate_le
  obtain ⟨s, hs, hsle, hfinish⟩ := ((hright []).covered _ (dayStart_dayStart p.endDate)).mpr ⟨hle, le_rfl⟩
  have hinside := (((hright []).covered _ ((hright []).whole s hs).2).mp
    ⟨s, hs, (hright []).nonempty s hs, le_rfl⟩).2
  have hday : 0 < msPerDay := by decide
  obtain ⟨piece, hpiece, hsstart, hsfinish⟩ := mem_buildEffectiveSegments hs
  have hlt := lt_of_mem_pieces (pairwise_breakpoints _ _ _) hpiece
  obtain heq | heq | ⟨row, hrow, _⟩ := mem_breakpoints.mp (mem_of_mem_pieces hpiece).2
  · omega
  · omega
  · cases hrow

/-- Where such days are within the period, a row that starts on one of them is in force on it, but not before.
-/
lemma not_cutsRight_of_between (hfirst : yearFromTime p.startDate < 0) (hlast : 99 < yearFromTime p.endDate) :
    ¬ p.CutsRight := by
  intro hright
  have hs : utcDayStart p.startDate = dayStart p.startDate := dateUTC_eq_dayStart (Or.inl hfirst)
  have hf : utcDayStart p.endDate = dayStart p.endDate := dateUTC_eq_dayStart (Or.inr hlast)
  have hle := dayStart_mono p.startDate_le
  have hday : 0 < msPerDay := by decide
  -- the first day of the year 0
  obtain ⟨d, hd⟩ : ∃ d : ℤ, d = -62167219200000 := ⟨_, rfl⟩
  obtain ⟨row, hfrom, hto⟩ : ∃ row : EffectiveRange, row.effectiveFrom = d ∧ row.effectiveTo = none :=
    ⟨{ effectiveFrom := d }, rfl, rfl⟩
  have hdday : dayStart d = d := by rw [hd]; decide
  have hdyear : yearFromTime d = 0 := by rw [hd]; decide
  have hlate : dayStart d < utcDayStart d := dayStart_lt_dateUTC (by omega)
  have hbefore : dayStart p.startDate < d := by
    refine lt_of_le_of_lt (dayStart_le p.startDate) (not_le.mp fun hcon => ?_)
    have hmono := yearFromTime_mono hcon
    omega
  have hafter : d ≤ dayStart p.endDate := by
    rw [le_dayStart_iff hdday, ← not_lt]
    intro hcon
    have hmono := yearFromTime_mono hcon.le
    omega
  obtain ⟨s, hsmem, hsle, hfinish⟩ :=
    ((hright [row]).covered _ (dayStart_dayStart p.startDate)).mpr ⟨le_rfl, hle⟩
  obtain ⟨piece, hpiece, hsstart, hsfinish⟩ := mem_buildEffectiveSegments hsmem
  have hnext : d < s.finish + msPerDay := by
    rw [hsfinish]
    obtain heq | heq | ⟨row', hrow, o, hpart, hx⟩ :=
      exists_part_of_mem_breakpoints (by rw [hs, hf]; exact hle) (mem_of_mem_pieces hpiece).2
    · omega
    · omega
    · obtain rfl := List.mem_singleton.mp hrow
      have hbegins := hpart.begins
      have horder := hpart.order
      rw [hfrom] at hbegins
      omega
  have hin : row.has d = true := by
    rw [EffectiveRange.has, hfrom, hto, Bool.and_eq_true, decide_eq_true_eq]
    exact ⟨le_rfl, rfl⟩
  have hout : row.has (dayStart p.startDate) = false := by
    have hsday := utcDayStart_utcDayStart p.startDate
    rw [hs] at hsday
    rw [EffectiveRange.has, hfrom, hsday, decide_eq_false (by omega), Bool.false_and]
  have hsame := (hright [row]).constant EffectiveRange id [row] (fun _ hrow => hrow) s hsmem d
    (dayStart p.startDate) ⟨by omega, hnext⟩ ⟨hsle, by omega⟩
  simp only [rowEffectiveAt, id, List.find?_cons, List.find?_nil, hin, hout, reduceCtorEq] at hsame

end

/-- A period is cut right, whatever rows there are, exactly when it lies before the year 0 or after the year
99. -/
theorem cutsRight_iff (p : PeriodDates) :
    p.CutsRight ↔ yearFromTime p.endDate < 0 ∨ 99 < yearFromTime p.startDate := by
  constructor
  · intro hright
    by_contra hcon
    obtain ⟨hend, hstart⟩ := not_or.mp hcon
    rcases lt_or_ge (yearFromTime p.startDate) 0 with hfirst | hfirst
    · rcases le_or_gt (yearFromTime p.endDate) 99 with hlast | hlast
      · exact not_cutsRight_of_endDate hfirst ⟨not_lt.mp hend, hlast⟩ hright
      · exact not_cutsRight_of_between hfirst hlast hright
    · exact not_cutsRight_of_startDate ⟨hfirst, not_lt.mp hstart⟩ hright
  · intro h rows
    exact cutRight_of_clear h rows

def januaryOf50 : PeriodDates where
  startDate := -60589296000000
  endDate := -60586617600001
  startDate_le := by decide

/-- January of the year 50 is put together as January of 1950. -/
theorem not_cutsRight_january : ¬ januaryOf50.CutsRight :=
  not_cutsRight_of_startDate (by decide)

end Mayatoko.Payroll
