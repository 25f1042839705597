import Mayatoko.Payroll.TaxRules

/-!
# Tax methods and segments

The tax of a part of a period under one of the methods `GROSS`, `GROSS_UP` and `NET`, and the tax of a whole
period: the amounts of dated rows are allocated to the segments of the period by days, and each segment is
taxed by the profile and the rule set in force on its first day. The texts of the trace are kept as far as a
later step reads them.
-/

namespace Mayatoko.Payroll

open Core

/-! ### Methods -/

structure GrossUp where
  (allowance tax : ℚ)
  iterations : ℕ
  deriving DecidableEq

def taxWith (taxCalculator : ℚ → ℚ) (taxableIncome allowance : ℚ) : ℚ :=
  money (max 0 (taxCalculator (taxableIncome + allowance)))

def grossUpRounds (taxCalculator : ℚ → ℚ) (taxableIncome : ℚ) : ℕ → ℕ → ℚ → Except Failure GrossUp
  | 0, _, _ => throw (.unexpected "gross-up-does-not-converge")
  | rounds + 1, iteration, allowance =>
    let tax := taxWith taxCalculator taxableIncome allowance
    if |tax - allowance| < 5 / 1000 then pure { allowance := tax, tax, iterations := iteration }
    else grossUpRounds taxCalculator taxableIncome rounds (iteration + 1) tax

def solveGrossUp (taxableIncome : ℚ) (taxCalculator : ℚ → ℚ) : Except Failure GrossUp :=
  if taxableIncome ≤ 0 then pure { allowance := 0, tax := 0, iterations := 0 }
  else grossUpRounds taxCalculator taxableIncome 100 1 (money (max 0 (taxCalculator taxableIncome)))

structure PayrollTaxMethodResult where
  method : String
  taxPayable : ℚ
  employeeTaxDeduction : ℚ
  (employerBorneTax grossAdjustment taxableAdjustment netAfterTax grossEquivalentAdjustment : ℚ)
  iterations : ℕ

def applyPayrollTaxMethod (method : String) (income netBeforeTax : ℚ) (taxCalculator : ℚ → ℚ) :
    Except Failure PayrollTaxMethodResult :=
  let taxableIncome := max 0 income
  if method ∉ ["GROSS", "GROSS_UP", "NET"] then throw (.unexpected s!"unsupported-tax-method:{method}")
  else if method = "GROSS_UP" then do
    let solved ← solveGrossUp taxableIncome taxCalculator
    pure {
      method
      taxPayable := solved.tax
      employeeTaxDeduction := solved.tax
      employerBorneTax := 0
      grossAdjustment := solved.allowance
      taxableAdjustment := solved.allowance
      netAfterTax := money (netBeforeTax + solved.allowance - solved.tax)
      grossEquivalentAdjustment := solved.allowance
      iterations := solved.iterations }
  else
    let tax := money (max 0 (taxCalculator taxableIncome))
    if method = "NET" then pure {
      method
      taxPayable := tax
      employeeTaxDeduction := 0
      employerBorneTax := tax
      grossAdjustment := 0
      taxableAdjustment := 0
      netAfterTax := money netBeforeTax
      grossEquivalentAdjustment := tax
      iterations := 1 }
    else pure {
      method
      taxPayable := tax
      employeeTaxDeduction := tax
      employerBorneTax := 0
      grossAdjustment := 0
      taxableAdjustment := 0
      netAfterTax := money (netBeforeTax - tax)
      grossEquivalentAdjustment := 0
      iterations := 1 }

/-! ### Allocation -/

structure TemporalAmount where
  amount : ℚ
  (effectiveFrom effectiveTo : ℤ)

def TemporalAmount.days (row : TemporalAmount) : ℤ :=
  inclusiveUtcDays (utcDayStart row.effectiveFrom) (utcDayStart row.effectiveTo)

def TemporalAmount.daysIn (row : TemporalAmount) (segment : Segment) : ℤ :=
  let rowStart := utcDayStart row.effectiveFrom
  let rowEnd := utcDayStart row.effectiveTo
  let start := if rowStart < utcDayStart segment.start then utcDayStart segment.start else rowStart
  let finish := if utcDayStart segment.finish < rowEnd then utcDayStart segment.finish else rowEnd
  inclusiveUtcDays start finish

def TemporalAmount.overlaps (row : TemporalAmount) (segments : List Segment) : List (ℕ × ℤ) :=
  (segments.zipIdx.map fun s => (s.2, row.daysIn s.1)).filter fun item => 0 < item.2

/-- The loop over these segments: the last one gets what is left of the amount. -/
def recognize (row : TemporalAmount) : List (ℕ × ℤ) → List ℚ → ℚ → List ℚ
  | [], allocated, _ => allocated
  | item :: items, allocated, recognized =>
    let amount := if items = [] then money (row.amount - recognized) else money (row.amount * item.2 / row.days)
    recognize row items (allocated.modify item.1 fun a => money (a + amount)) (money (recognized + amount))

def allocateRow (segments : List Segment) (allocated : List ℚ) (row : TemporalAmount) : List ℚ :=
  if row.days = 0 ∨ row.amount = 0 then allocated else recognize row (row.overlaps segments) allocated 0

def allocateTemporalAmounts (segments : List Segment) (rows : List TemporalAmount) : List ℚ :=
  rows.foldl (allocateRow segments) (segments.map fun _ => 0)

/-! ### Segments -/

def EmployeeTaxProfile.range (profile : EmployeeTaxProfile) : EffectiveRange :=
  ⟨profile.effectiveFrom, profile.effectiveTo⟩

def TaxRuleSet.range (ruleSet : TaxRuleSet) : EffectiveRange := ⟨ruleSet.effectiveFrom, ruleSet.effectiveTo⟩

structure TraceSegment where
  status : TaxStatus
  (start finish : ℤ)
  (factor taxableIncome netBeforeTax : ℚ)
  result : Option PayrollTaxMethodResult := none
  engine : Option TaxTrace := none
  reason : Option String := none

structure SegmentTotals where
  amount : ℚ := 0
  employeeDeduction : ℚ := 0
  employerBorneTax : ℚ := 0
  grossAdjustment : ℚ := 0
  taxableAdjustment : ℚ := 0
  netAfterTax : ℚ := 0
  status : TaxStatus := .calculated
  segments : List TraceSegment := []

def SegmentTotals.review (totals : SegmentTotals) (segment : Segment) (taxable net : ℚ) (reason : String) :
    SegmentTotals :=
  { totals with
    netAfterTax := totals.netAfterTax + net
    status := .requiresReview
    segments := totals.segments ++ [{ status := .requiresReview, start := segment.start, finish := segment.finish
                                      factor := segment.factor, taxableIncome := taxable, netBeforeTax := net
                                      reason := some reason }] }

def SegmentTotals.add (totals : SegmentTotals) (segment : Segment) (taxable net : ℚ)
    (result : PayrollTaxMethodResult) (trace : TaxTrace) : SegmentTotals where
  amount := totals.amount + result.taxPayable
  employeeDeduction := totals.employeeDeduction + result.employeeTaxDeduction
  employerBorneTax := totals.employerBorneTax + result.employerBorneTax
  grossAdjustment := totals.grossAdjustment + result.grossAdjustment
  taxableAdjustment := totals.taxableAdjustment + result.taxableAdjustment
  netAfterTax := totals.netAfterTax + result.netAfterTax
  status := if trace.status = .requiresReview then .requiresReview else totals.status
  segments := totals.segments ++ [{ status := trace.status, start := segment.start, finish := segment.finish
                                    factor := segment.factor, taxableIncome := money taxable
                                    netBeforeTax := money net, result := some result, engine := some trace }]

def reasonOf : Failure → String
  | .unexpected message => message
  | _ => "Tax method calculation failed."

def taxSegment (profile : EmployeeTaxProfile) (ruleSet : TaxRuleSet) (totals : SegmentTotals)
    (segment : Segment)
    (taxable net : ℚ) : SegmentTotals :=
  let base (value : ℚ) := calculateTaxBase value (some profile) (some ruleSet) segment.factor
  match applyPayrollTaxMethod profile.taxMethod taxable net fun value => (base value).amount with
  | .ok result => totals.add segment taxable net result (base (taxable + result.taxableAdjustment)).trace
  | .error e => totals.review segment taxable net (reasonOf e)

def addSegment (profiles : List EmployeeTaxProfile) (ruleSets : List TaxRuleSet) (totals : SegmentTotals)
    (piece : Segment × ℚ × ℚ) : SegmentTotals :=
  let segment := piece.1
  match rowEffectiveAt EmployeeTaxProfile.range profiles segment.start,
    rowEffectiveAt TaxRuleSet.range ruleSets segment.start with
  | none, _ => totals.review segment piece.2.1 piece.2.2 "EmployeeTaxProfile coverage gap."
  | some _, none => totals.review segment piece.2.1 piece.2.2 "Approved TaxRuleSet coverage gap."
  | some profile, some ruleSet => taxSegment profile ruleSet totals segment piece.2.1 piece.2.2

def SegmentTotals.rounded (totals : SegmentTotals) : SegmentTotals :=
  { totals with
    amount := money totals.amount
    employeeDeduction := money totals.employeeDeduction
    employerBorneTax := money totals.employerBorneTax
    grossAdjustment := money totals.grossAdjustment
    taxableAdjustment := money totals.taxableAdjustment
    netAfterTax := money totals.netAfterTax }

def totalAmount (rows : List TemporalAmount) : ℚ := (rows.map TemporalAmount.amount).sum

def taxSegments (profiles : List EmployeeTaxProfile) (ruleSets : List TaxRuleSet) (periodStart periodEnd : ℤ) :
    List Segment :=
  buildEffectiveSegments periodStart periodEnd
    (profiles.map EmployeeTaxProfile.range ++ ruleSets.map TaxRuleSet.range)

def calculateTaxAcrossSegments (taxableRows netRows : List TemporalAmount) (profiles : List EmployeeTaxProfile)
    (ruleSets : List TaxRuleSet) (periodStart periodEnd : ℤ) : SegmentTotals :=
  let taxableIncome := money (totalAmount taxableRows)
  let netBeforeTax := money (totalAmount netRows)
  if taxableIncome ≤ 0 then { netAfterTax := netBeforeTax, status := .notApplicable }
  else
    let segments := taxSegments profiles ruleSets periodStart periodEnd
    let taxableBySegment := allocateTemporalAmounts segments taxableRows
    let netBySegment := allocateTemporalAmounts segments netRows
    ((segments.zip (taxableBySegment.zip netBySegment)).foldl (addSegment profiles ruleSets) {}).rounded

end Mayatoko.Payroll
