import Mayatoko.Common.Failure
import Mayatoko.Core.Checked
import Mayatoko.Payroll.Differential
import Mayatoko.Payroll.Segments

/-!
# Tax rules of the payroll

A tax rule set is a table of rates for each category, or a progressive scale for a year. `approveTaxRuleSet`
checks the rates and, for a scale, the order of its brackets; `calculateTaxBase` applies an approved one to the
income of a part of a period. The numbers of the JSON parameters are taken as numbers, and its missing values as
`none`; amounts are exact.

A lookup table taxes an income by the first band that has it. Approval does not ask whether the bands leave gaps;
an income that no band has is taxed with nothing, and reported as calculated.
-/

namespace Mayatoko.Payroll

open Core

structure RateBand where
  min : Option ℚ := none
  max : Option ℚ := none
  upTo : Option ℚ := none
  rate : ℚ
  deriving DecidableEq

structure TaxParameters where
  requiresOfficialRateImport : Bool := false
  defaultCategory : Option String := none
  categories : List (String × List RateBand) := []
  brackets : List RateBand := []
  periodsPerYear : Option ℚ := none
  allowance : Option ℚ := none
  deriving DecidableEq

structure TaxRuleSet where
  (id companyId : ℕ)
  code : String
  version : ℕ := 1
  effectiveFrom : ℤ
  effectiveTo : Option ℤ := none
  calculationMode : String
  parameters : TaxParameters
  status : String := "DRAFT"
  deriving DecidableEq

structure EmployeeTaxProfile where
  id : ℕ
  taxStatusCode : Option String := none
  taxMethod : String := "GROSS"
  effectiveFrom : ℤ
  effectiveTo : Option ℤ := none
  deriving DecidableEq

/-- An amount from `min` to `max`, or to `upTo` where there is no `max`. -/
def RateBand.has (band : RateBand) (amount : ℚ) : Bool :=
  band.min.all (· ≤ amount) && (band.max.or band.upTo).all (amount ≤ ·)

/-- The rate of the first band with the amount. -/
def lookupRate (bands : List RateBand) (amount : ℚ) : ℚ :=
  ((bands.find? fun band => band.has amount).map RateBand.rate).getD 0

/-- The loop over the brackets, with the tax so far and the top of the last bracket. -/
def progressiveLoop (amount : ℚ) : List RateBand → ℚ → ℚ → ℚ
  | [], tax, _ => tax
  | band :: bands, tax, previous =>
    match band.upTo with
    | none => tax + max 0 (amount - previous) * band.rate
    | some top =>
      let total := tax + max 0 (min amount top - previous) * band.rate
      if amount ≤ top then total else progressiveLoop amount bands total top

def progressiveTax (bands : List RateBand) (amount : ℚ) : ℚ := progressiveLoop amount bands 0 0

/-! ### Approval -/

def checkRate (message : String) (rate : ℚ) : Except Failure Unit :=
  if 0 ≤ rate ∧ rate ≤ 1 then pure () else throw (.badRequest message)

/-- The brackets go up. Above a bracket without a top there is none. -/
def checkBrackets : Option ℚ → List RateBand → Except Failure Unit
  | _, [] => pure ()
  | previousTop, band :: bands => do
    checkRate "Progressive tax rate harus berupa desimal 0..1." band.rate
    let above := previousTop.any fun previous => band.upTo.all (previous < ·)
    if above then checkBrackets band.upTo bands
    else throw (.badRequest "Bracket pajak progresif harus berurutan dan tidak tumpang tindih.")

def validateTaxRuleParameters (ruleSet : TaxRuleSet) : Except Failure Unit := do
  let parameters := ruleSet.parameters
  if parameters.requiresOfficialRateImport then
    throw (.badRequest ("Tax rule masih menandai requiresOfficialRateImport=true. Import dan verifikasi " ++
      "tarif resmi terlebih dahulu."))
  else if ruleSet.calculationMode = "LOOKUP_TABLE" then do
    let bands := parameters.categories.flatMap Prod.snd
    if bands = [] then throw (.badRequest "Lookup-table tax rule belum memiliki rate band.")
    else bands.forM fun band => checkRate "Tax rate harus berupa desimal 0..1." band.rate
  else if ruleSet.calculationMode = "ANNUAL_PROGRESSIVE" then
    if parameters.brackets = [] then throw (.badRequest "Progressive tax rule belum memiliki bracket.")
    else checkBrackets (some 0) parameters.brackets
  else throw (.badRequest s!"Calculation mode {ruleSet.calculationMode} belum didukung untuk approval.")

/-- The end of the year 9999, for a rule set without an end. -/
def farEnd : ℤ := 253402300799999

def TaxRuleSet.overlaps (ruleSet other : TaxRuleSet) : Bool :=
  other.companyId = ruleSet.companyId && other.code = ruleSet.code && other.status = "APPROVED" &&
    other.id ≠ ruleSet.id && other.effectiveFrom ≤ ruleSet.effectiveTo.getD farEnd &&
    other.effectiveTo.all (ruleSet.effectiveFrom ≤ ·)

/-- The approval of one of the rule sets; the others are `ruleSets`. -/
def approveTaxRuleSet (ruleSets : List TaxRuleSet) (ruleSet : TaxRuleSet) : Except Failure TaxRuleSet :=
  if ruleSet.status = "APPROVED" then pure ruleSet
  else if ruleSet.status ≠ "DRAFT" then throw (.badRequest s!"Tax rule berstatus {ruleSet.status}.")
  else do
    validateTaxRuleParameters ruleSet
    match ruleSets.find? ruleSet.overlaps with
    | some other => throw (.conflict
        (s!"Tax rule version {other.version} sudah APPROVED pada rentang tanggal yang bertumpang " ++ "tindih."))
    | none => pure { ruleSet with status := "APPROVED" }

/-! ### The tax of an income -/

inductive TaxStatus
  | notApplicable
  | requiresReview
  | calculated
  deriving DecidableEq

inductive TaxTrace
  | notApplicable (reason : String)
  | requiresReview (reason : String)
  | lookupTable (category : String) (rate taxableIncome periodEquivalentIncome periodFraction : ℚ)
  | annualProgressive (annualized taxableAnnual taxableIncome periodEquivalentIncome periodFraction : ℚ)
  deriving DecidableEq

def TaxTrace.status : TaxTrace → TaxStatus
  | notApplicable _ => .notApplicable
  | requiresReview _ => .requiresReview
  | lookupTable .. => .calculated
  | annualProgressive .. => .calculated

structure TaxBase where
  amount : ℚ
  trace : TaxTrace
  deriving DecidableEq

def noTax (trace : TaxTrace) : TaxBase := ⟨0, trace⟩

def fractionOf (periodFraction : ℚ) : ℚ := max (1 / 1000000) (min 1 periodFraction)

def TaxParameters.category (parameters : TaxParameters) (taxStatusCode : Option String) : String :=
  taxStatusCode.getD (parameters.defaultCategory.getD "A")

def TaxParameters.bands (parameters : TaxParameters) (category : String) : List RateBand :=
  (parameters.categories.lookup category).getD []

def lookupTaxBase (parameters : TaxParameters) (taxStatusCode : Option String) (taxableIncome fraction : ℚ) :
    TaxBase :=
  let category := parameters.category taxStatusCode
  let bands := parameters.bands category
  let periodEquivalentIncome := taxableIncome / fraction
  if bands = [] then noTax (.requiresReview s!"Rate table category {category} is empty.")
  else
    let rate := lookupRate bands periodEquivalentIncome
    { amount := money (taxableIncome * rate)
      trace := .lookupTable category rate taxableIncome periodEquivalentIncome fraction }

def progressiveTaxBase (parameters : TaxParameters) (taxableIncome fraction : ℚ) : TaxBase :=
  let periodsPerYear := parameters.periodsPerYear.getD 12
  let periodEquivalentIncome := taxableIncome / fraction
  if periodsPerYear = 0 ∨ parameters.brackets = [] then
    noTax (.requiresReview "Progressive tax parameters are incomplete.")
  else
    let annualized := periodEquivalentIncome * periodsPerYear
    let taxableAnnual := max 0 (annualized - parameters.allowance.getD 0)
    let annualTax := progressiveTax parameters.brackets taxableAnnual
    { amount := money (annualTax / periodsPerYear * fraction)
      trace := .annualProgressive annualized taxableAnnual taxableIncome periodEquivalentIncome fraction }

def calculateTaxBase (taxableIncome : ℚ) (taxProfile : Option EmployeeTaxProfile)
    (ruleSet : Option TaxRuleSet) (periodFraction : ℚ) : TaxBase :=
  if taxableIncome ≤ 0 then noTax (.notApplicable "No taxable income.")
  else
    match taxProfile with
    | none => noTax (.requiresReview "Employee tax profile is missing for an effective segment.")
    | some taxProfile =>
      match ruleSet.filter fun ruleSet => ruleSet.status = "APPROVED" with
      | none => noTax (.requiresReview "No approved/effective tax rule set for an effective segment.")
      | some ruleSet =>
        let fraction := fractionOf periodFraction
        if ruleSet.calculationMode = "LOOKUP_TABLE" then
          lookupTaxBase ruleSet.parameters taxProfile.taxStatusCode taxableIncome fraction
        else if ruleSet.calculationMode = "ANNUAL_PROGRESSIVE" then
          progressiveTaxBase ruleSet.parameters taxableIncome fraction
        else noTax (.requiresReview s!"Unsupported calculation mode {ruleSet.calculationMode}")

/-! ### Incomes between the bands -/

variable {ruleSets : List TaxRuleSet} {draft ruleSet : TaxRuleSet} {taxProfile : EmployeeTaxProfile}
  {taxableIncome periodFraction : ℚ} {bands : List RateBand} {amount : ℚ}

lemma status_of_approveTaxRuleSet (h : approveTaxRuleSet ruleSets draft = .ok ruleSet) :
    ruleSet.status = "APPROVED" := by
  rw [approveTaxRuleSet] at h
  split at h
  next hstatus =>
    rw [← pure_eq_ok.mp h]
    exact hstatus
  next =>
    split at h
    · exact absurd h throw_ne_ok
    · obtain ⟨_, _, h⟩ := bind_eq_ok.mp h
      split at h
      · exact absurd h throw_ne_ok
      · rw [← pure_eq_ok.mp h]

lemma lookupRate_spec (bands : List RateBand) (amount : ℚ) :
    (∃ band ∈ bands, band.has amount = true ∧ lookupRate bands amount = band.rate) ∨
      (∀ band ∈ bands, band.has amount = false) ∧ lookupRate bands amount = 0 := by
  rw [lookupRate]
  cases hfind : bands.find? fun band => band.has amount with
  | none =>
    right
    exact ⟨fun band hband => Bool.eq_false_iff.mpr (List.find?_eq_none.mp hfind band hband), rfl⟩
  | some band =>
    left
    have hhas := List.find?_some hfind
    exact ⟨band, List.mem_of_find?_eq_some hfind, hhas, rfl⟩

def TaxRuleSet.tableTax (ruleSet : TaxRuleSet) (taxProfile : EmployeeTaxProfile)
    (taxableIncome periodFraction rate : ℚ) : TaxBase where
  amount := money (taxableIncome * rate)
  trace := .lookupTable (ruleSet.parameters.category taxProfile.taxStatusCode) rate taxableIncome
    (taxableIncome / fractionOf periodFraction) (fractionOf periodFraction)

def TaxRuleSet.bandsFor (ruleSet : TaxRuleSet) (taxProfile : EmployeeTaxProfile) : List RateBand :=
  ruleSet.parameters.bands (ruleSet.parameters.category taxProfile.taxStatusCode)

lemma filter_approved (hstatus : ruleSet.status = "APPROVED") :
    (some ruleSet).filter (fun ruleSet => ruleSet.status = "APPROVED") = some ruleSet :=
  Option.filter_some_pos (decide_eq_true hstatus)

lemma calculateTaxBase_lookup (hstatus : ruleSet.status = "APPROVED")
    (hmode : ruleSet.calculationMode = "LOOKUP_TABLE") (hincome : 0 < taxableIncome) :
    calculateTaxBase taxableIncome (some taxProfile) (some ruleSet) periodFraction =
      lookupTaxBase ruleSet.parameters taxProfile.taxStatusCode taxableIncome (fractionOf periodFraction) := by
  simp only [calculateTaxBase, if_neg (not_le.mpr hincome), filter_approved hstatus, if_pos hmode]

lemma lookupTaxBase_of_nil (hbands : ruleSet.bandsFor taxProfile = []) {fraction : ℚ} :
    (lookupTaxBase ruleSet.parameters taxProfile.taxStatusCode taxableIncome fraction).trace.status =
      .requiresReview := by
  rw [TaxRuleSet.bandsFor] at hbands
  rw [lookupTaxBase, if_pos hbands]
  rfl

lemma lookupTaxBase_of_ne_nil (hbands : ruleSet.bandsFor taxProfile ≠ []) :
    lookupTaxBase ruleSet.parameters taxProfile.taxStatusCode taxableIncome (fractionOf periodFraction) =
      ruleSet.tableTax taxProfile taxableIncome periodFraction
        (lookupRate (ruleSet.bandsFor taxProfile) (taxableIncome / fractionOf periodFraction)) :=
  if_neg hbands

def TaxedByBand (ruleSet : TaxRuleSet) (taxProfile : EmployeeTaxProfile)
    (taxableIncome periodFraction : ℚ) : Prop :=
  let base := calculateTaxBase taxableIncome (some taxProfile) (some ruleSet) periodFraction
  base.trace.status = .requiresReview ∨
    ∃ band ∈ ruleSet.bandsFor taxProfile, band.has (taxableIncome / fractionOf periodFraction) = true ∧
      base = ruleSet.tableTax taxProfile taxableIncome periodFraction band.rate

def wholeBands : TaxRuleSet where
  id := 1
  companyId := 1
  code := "TER"
  effectiveFrom := 0
  calculationMode := "LOOKUP_TABLE"
  parameters := { categories := [("A", [{ max := some 100, rate := 1 / 20 }, { min := some 101, rate := 1 / 10 }])] }

def singleProfile : EmployeeTaxProfile where
  id := 1
  taxStatusCode := some "A"
  effectiveFrom := 0

end Mayatoko.Payroll
