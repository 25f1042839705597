import Mayatoko.Core.Scale
import Mayatoko.Payroll.TaxRules

/-!
# Progressive brackets

The brackets of a rule set that passes validation are a scale that goes up from zero. So the tax of a period
rises with the income, by at most the highest rate, and the loop over the brackets charges each piece at its
rate.
-/

namespace Mayatoko.Payroll

open Core

section Brackets

variable {r amount previous tax : ℚ} {previousTop : Option ℚ} {band : RateBand} {bands : List RateBand}

def RateBand.piece (band : RateBand) : Option ℚ × ℚ := (band.upTo, band.rate)

lemma checkRate_eq_ok {message : String} {rate : ℚ} :
    checkRate message rate = .ok () ↔ 0 ≤ rate ∧ rate ≤ 1 := by
  rw [checkRate]
  by_cases hrate : 0 ≤ rate ∧ rate ≤ 1
  · rw [if_pos hrate]
    exact iff_of_true rfl hrate
  · rw [if_neg hrate]
    exact iff_of_false throw_ne_ok hrate

lemma checkBrackets_cons : checkBrackets previousTop (band :: bands) = .ok () ↔
    (0 ≤ band.rate ∧ band.rate ≤ 1) ∧
      (previousTop.any fun previous => band.upTo.all (previous < ·)) = true ∧
      checkBrackets band.upTo bands = .ok () := by
  rw [checkBrackets, bind_eq_ok]
  constructor
  · rintro ⟨⟨⟩, hrate, h⟩
    dsimp only at h
    split_ifs at h with habove
    exact ⟨checkRate_eq_ok.mp hrate, habove, h⟩
  · rintro ⟨hrate, habove, h⟩
    exact ⟨(), checkRate_eq_ok.mpr hrate, by rw [if_pos habove, h]⟩

lemma eq_nil_of_checkBrackets (h : checkBrackets none bands = .ok ()) : bands = [] := by
  cases bands with
  | nil => rfl
  | cons band bands => cases (checkBrackets_cons.mp h).2.1

lemma ascends_of_checkBrackets (h : checkBrackets (some previous) bands = .ok ())
    (hrates : ∀ band ∈ bands, band.rate ≤ r) : Ascends r previous (bands.map RateBand.piece) := by
  induction bands generalizing previous with
  | nil => trivial
  | cons band bands ih =>
    obtain ⟨hrate, habove, hbands⟩ := checkBrackets_cons.mp h
    have hle := hrates band mem_cons_self
    obtain ⟨_, _, _ | top, _⟩ := band
    · exact ⟨hrate.1, hle, by rw [eq_nil_of_checkBrackets hbands]; rfl⟩
    · exact ⟨hrate.1, hle, of_decide_eq_true habove,
        ih hbands fun band hband => hrates band (mem_cons_of_mem _ hband)⟩

lemma rate_le_one_of_checkBrackets (h : checkBrackets previousTop bands = .ok ()) :
    ∀ band ∈ bands, band.rate ≤ 1 := by
  induction bands generalizing previousTop with
  | nil => exact List.forall_mem_nil _
  | cons band bands ih =>
    obtain ⟨hrate, _, hbands⟩ := checkBrackets_cons.mp h
    exact forall_mem_cons.mpr ⟨hrate.2, ih hbands⟩

lemma progressiveLoop_eq (h : Ascends r previous (bands.map RateBand.piece)) :
    progressiveLoop amount bands tax previous = tax + charge amount previous (bands.map RateBand.piece) := by
  induction bands generalizing previous tax with
  | nil => exact (add_zero tax).symm
  | cons band bands ih =>
    obtain ⟨_, _, _ | top, rate⟩ := band
    · rfl
    · obtain ⟨_, _, _, hbands⟩ := h
      simp only [progressiveLoop, map_cons, RateBand.piece, charge]
      split_ifs with hle
      · rw [charge_of_le hbands hle, add_zero]
      · rw [ih hbands, add_assoc]

lemma progressiveTax_eq (h : Ascends r 0 (bands.map RateBand.piece)) :
    progressiveTax bands amount = charge amount 0 (bands.map RateBand.piece) := by
  rw [progressiveTax, progressiveLoop_eq h, zero_add]

end Brackets

section Scale

variable {parameters : TaxParameters} {r income income' : ℚ}

def TaxParameters.periods (parameters : TaxParameters) : ℚ := parameters.periodsPerYear.getD 12

def TaxParameters.annual (parameters : TaxParameters) (income : ℚ) : ℚ :=
  max 0 (income * parameters.periods - parameters.allowance.getD 0)

/-- The tax of a period with an income, not rounded. -/
def TaxParameters.periodTax (parameters : TaxParameters) (income : ℚ) : ℚ :=
  progressiveTax parameters.brackets (parameters.annual income) / parameters.periods

/-- The brackets go up from zero, with rates of at most `r`, and there are periods in a year. -/
structure TaxParameters.Scaled (parameters : TaxParameters) (r : ℚ) : Prop where
  ascends : Ascends r 0 (parameters.brackets.map RateBand.piece)
  periods_pos : 0 < parameters.periods
  rate_nonneg : 0 ≤ r

namespace TaxParameters.Scaled

variable (h : parameters.Scaled r)
include h

lemma annual_le (hle : income ≤ income') : parameters.annual income ≤ parameters.annual income' ∧
      parameters.annual income' ≤ parameters.annual income + (income' - income) * parameters.periods := by
  have hscaled := mul_le_mul_of_nonneg_right hle h.periods_pos.le
  rw [TaxParameters.annual, TaxParameters.annual]
  constructor
  · exact max_le_max_left 0 (by linarith)
  · rw [max_le_iff]
    have hzero := le_max_left 0 (income * parameters.periods - parameters.allowance.getD 0)
    have hself := le_max_right 0 (income * parameters.periods - parameters.allowance.getD 0)
    constructor <;> linarith

lemma periodTax_mono (hle : income ≤ income') : parameters.periodTax income ≤ parameters.periodTax income' := by
  rw [TaxParameters.periodTax, TaxParameters.periodTax, progressiveTax_eq h.ascends,
    progressiveTax_eq h.ascends]
  exact div_le_div_of_nonneg_right (charge_mono h.rate_nonneg h.ascends (h.annual_le hle).1) h.periods_pos.le

lemma periodTax_nonneg : 0 ≤ parameters.periodTax income := by
  have hzero : 0 ≤ parameters.annual income := le_max_left _ _
  have hcharge := charge_mono h.rate_nonneg h.ascends hzero
  rw [charge_of_le h.ascends le_rfl] at hcharge
  rw [TaxParameters.periodTax, progressiveTax_eq h.ascends]
  exact div_nonneg hcharge h.periods_pos.le

lemma periodTax_le_add (hle : income ≤ income') :
    parameters.periodTax income' ≤ parameters.periodTax income + r * (income' - income) := by
  have hzero : 0 ≤ parameters.annual income := le_max_left _ _
  have hcharge := charge_le_add h.rate_nonneg h.ascends hzero (h.annual_le hle).1
  have hannual := mul_le_mul_of_nonneg_left (h.annual_le hle).2 h.rate_nonneg
  rw [TaxParameters.periodTax, TaxParameters.periodTax, progressiveTax_eq h.ascends,
    progressiveTax_eq h.ascends,
    div_le_iff₀ h.periods_pos, add_mul, div_mul_cancel₀ _ h.periods_pos.ne']
  linarith

end TaxParameters.Scaled

end Scale

section Rules

variable {ruleSet : TaxRuleSet} {taxProfile : EmployeeTaxProfile} {income fraction r : ℚ}

lemma checkBrackets_of_validate (h : validateTaxRuleParameters ruleSet = .ok ())
    (hmode : ruleSet.calculationMode = "ANNUAL_PROGRESSIVE") :
    ruleSet.parameters.brackets ≠ [] ∧ checkBrackets (some 0) ruleSet.parameters.brackets = .ok () := by
  rw [validateTaxRuleParameters] at h
  simp only [hmode] at h
  split_ifs at h with _ hlookup _ hnil
  · exact absurd hlookup (by decide)
  · exact ⟨hnil, h⟩

lemma amount_progressive (hstatus : ruleSet.status = "APPROVED")
    (hmode : ruleSet.calculationMode = "ANNUAL_PROGRESSIVE") (hperiods : ruleSet.parameters.periods ≠ 0)
    (hbrackets : ruleSet.parameters.brackets ≠ []) (hincome : 0 < income) :
    (calculateTaxBase income (some taxProfile) (some ruleSet) fraction).amount =
      money (ruleSet.parameters.periodTax (income / fractionOf fraction) * fractionOf fraction) := by
  have hcomplete : ¬ (ruleSet.parameters.periodsPerYear.getD 12 = 0 ∨ ruleSet.parameters.brackets = []) :=
    not_or.mpr ⟨hperiods, hbrackets⟩
  simp only [calculateTaxBase, if_neg (not_le.mpr hincome), filter_approved hstatus, hmode, if_true,
    if_neg (by decide : ¬ "ANNUAL_PROGRESSIVE" = "LOOKUP_TABLE"), progressiveTaxBase, if_neg hcomplete]
  rfl

lemma amount_incomplete (hstatus : ruleSet.status = "APPROVED")
    (hmode : ruleSet.calculationMode = "ANNUAL_PROGRESSIVE") (hperiods : ruleSet.parameters.periods = 0) :
    (calculateTaxBase income (some taxProfile) (some ruleSet) fraction).amount = 0 := by
  have hmissing : ruleSet.parameters.periodsPerYear.getD 12 = 0 ∨ ruleSet.parameters.brackets = [] :=
    Or.inl hperiods
  simp only [calculateTaxBase, filter_approved hstatus, hmode, if_true,
    if_neg (by decide : ¬ "ANNUAL_PROGRESSIVE" = "LOOKUP_TABLE"), progressiveTaxBase, if_pos hmissing]
  split_ifs <;> rfl

lemma amount_unapproved (hstatus : ruleSet.status ≠ "APPROVED") :
    (calculateTaxBase income (some taxProfile) (some ruleSet) fraction).amount = 0 := by
  have hfilter : (some ruleSet).filter (fun ruleSet => ruleSet.status = "APPROVED") = none :=
    Option.filter_some_neg (by simpa using hstatus)
  simp only [calculateTaxBase, hfilter]
  split_ifs <;> rfl

end Rules

end Mayatoko.Payroll
