import Mayatoko.Core.Settling
import Mayatoko.Payroll.Brackets
import Mayatoko.Payroll.TaxMethods

/-!
# Gross-up

An allowance is grossed up if it is the tax of the income with it. The rounds of `solveGrossUp` iterate the
tax, so they return exactly if one of the first hundred allowances is grossed up. With the brackets of a rule
set the tax of a larger allowance rises by less than the allowance, up to the rounding, and the iteration
settles.
-/

namespace Mayatoko.Payroll

open Core

section Rounds

variable {taxCalculator : ℚ → ℚ} {taxableIncome allowance : ℚ} {rounds iteration : ℕ} {g : GrossUp}

def GrossedUp (taxCalculator : ℚ → ℚ) (taxableIncome allowance : ℚ) : Prop :=
  taxWith taxCalculator taxableIncome allowance = allowance

def allowanceAfter (taxCalculator : ℚ → ℚ) (taxableIncome : ℚ) (rounds : ℕ) : ℚ :=
  (taxWith taxCalculator taxableIncome)^[rounds] 0

lemma isCents_taxWith : IsCents (taxWith taxCalculator taxableIncome allowance) := isCents_money _

lemma abs_taxWith_sub_lt_iff (h : IsCents allowance) :
    |taxWith taxCalculator taxableIncome allowance - allowance| < 5 / 1000 ↔
      GrossedUp taxCalculator taxableIncome allowance := by
  constructor
  · exact IsCents.eq_of_abs_sub_lt isCents_taxWith h
  · intro hfix
    rw [hfix, sub_self, abs_zero]
    norm_num

lemma grossUpRounds_of_grossedUp (hfix : GrossedUp taxCalculator taxableIncome allowance)
    (h : IsCents allowance) :
    grossUpRounds taxCalculator taxableIncome (rounds + 1) iteration allowance =
      .ok { allowance, tax := allowance, iterations := iteration } := by
  rw [grossUpRounds, if_pos ((abs_taxWith_sub_lt_iff h).mpr hfix), hfix]
  rfl

lemma grossUpRounds_of_not (hfix : ¬ GrossedUp taxCalculator taxableIncome allowance) (h : IsCents allowance) :
    grossUpRounds taxCalculator taxableIncome (rounds + 1) iteration allowance =
      grossUpRounds taxCalculator taxableIncome rounds (iteration + 1)
        (taxWith taxCalculator taxableIncome allowance) := by
  rw [grossUpRounds, if_neg (mt (abs_taxWith_sub_lt_iff h).mp hfix)]

lemma grossUpRounds_eq_ok (h : IsCents allowance)
    (hok : grossUpRounds taxCalculator taxableIncome rounds iteration allowance = .ok g) :
    g.allowance = g.tax ∧ GrossedUp taxCalculator taxableIncome g.allowance := by
  induction rounds generalizing iteration allowance with
  | zero => cases hok
  | succ rounds ih =>
    by_cases hfix : GrossedUp taxCalculator taxableIncome allowance
    · rw [grossUpRounds_of_grossedUp hfix h] at hok
      obtain rfl := Except.ok.inj hok
      exact ⟨rfl, hfix⟩
    · rw [grossUpRounds_of_not hfix h] at hok
      exact ih isCents_taxWith hok

lemma grossUpRounds_eq_error {e : Failure}
    (herror : grossUpRounds taxCalculator taxableIncome rounds iteration allowance = .error e) :
    e = .unexpected "gross-up-does-not-converge" := by
  induction rounds generalizing iteration allowance with
  | zero => exact (Except.error.inj herror).symm
  | succ rounds ih =>
    rw [grossUpRounds] at herror
    split_ifs at herror with hclose
    · cases herror
    · exact ih herror

lemma grossUpRounds_returns_iff (h : IsCents allowance) :
    (∃ g, grossUpRounds taxCalculator taxableIncome rounds iteration allowance = .ok g) ↔
      ∃ k < rounds, GrossedUp taxCalculator taxableIncome
        ((taxWith taxCalculator taxableIncome)^[k] allowance) := by
  induction rounds generalizing iteration allowance with
  | zero =>
    constructor
    · rintro ⟨g, ⟨⟩⟩
    · rintro ⟨k, hk, _⟩
      exact absurd hk (Nat.not_lt_zero k)
  | succ rounds ih =>
    by_cases hfix : GrossedUp taxCalculator taxableIncome allowance
    · exact iff_of_true ⟨_, grossUpRounds_of_grossedUp hfix h⟩ ⟨0, rounds.succ_pos, hfix⟩
    · rw [grossUpRounds_of_not hfix h, ih isCents_taxWith]
      constructor
      · rintro ⟨k, hk, hk'⟩
        exact ⟨k + 1, Nat.succ_lt_succ hk, hk'⟩
      · rintro ⟨_ | k, hk, hk'⟩
        · exact absurd hk' hfix
        · exact ⟨k, Nat.lt_of_succ_lt_succ hk, hk'⟩

lemma solveGrossUp_pos (hincome : 0 < taxableIncome) : solveGrossUp taxableIncome taxCalculator =
      grossUpRounds taxCalculator taxableIncome 100 1 (taxWith taxCalculator taxableIncome 0) := by
  rw [solveGrossUp, if_neg (not_le.mpr hincome), taxWith, add_zero]

lemma solveGrossUp_eq_ok (hincome : 0 < taxableIncome)
    (hok : solveGrossUp taxableIncome taxCalculator = .ok g) :
    g.allowance = g.tax ∧ GrossedUp taxCalculator taxableIncome g.allowance := by
  rw [solveGrossUp_pos hincome] at hok
  exact grossUpRounds_eq_ok isCents_taxWith hok

lemma solveGrossUp_eq_error {e : Failure} (herror : solveGrossUp taxableIncome taxCalculator = .error e) :
    e = .unexpected "gross-up-does-not-converge" := by
  rw [solveGrossUp] at herror
  split_ifs at herror
  · cases herror
  · exact grossUpRounds_eq_error herror

lemma solveGrossUp_returns_iff (hincome : 0 < taxableIncome) :
    (∃ g, solveGrossUp taxableIncome taxCalculator = .ok g) ↔
      ∃ k, 1 ≤ k ∧ k ≤ 100 ∧
        GrossedUp taxCalculator taxableIncome (allowanceAfter taxCalculator taxableIncome k) := by
  rw [solveGrossUp_pos hincome, grossUpRounds_returns_iff isCents_taxWith]
  constructor
  · rintro ⟨k, hk, hfix⟩
    exact ⟨k + 1, Nat.succ_pos k, hk, hfix⟩
  · rintro ⟨_ | k, hpos, hk, hfix⟩
    · cases hpos
    · exact ⟨k, hk, hfix⟩

lemma applyPayrollTaxMethod_grossUp {income net : ℚ} {result : PayrollTaxMethodResult}
    (hok : applyPayrollTaxMethod "GROSS_UP" income net taxCalculator = .ok result) (hnet : IsCents net)
    (hincome : 0 < income) :
    result.grossAdjustment = result.employeeTaxDeduction ∧ result.netAfterTax = net := by
  rw [applyPayrollTaxMethod] at hok
  dsimp only at hok
  rw [if_neg (by decide), if_pos rfl, bind_eq_ok] at hok
  obtain ⟨solved, hsolved, hok⟩ := hok
  obtain rfl := pure_eq_ok.mp hok
  rw [max_eq_right hincome.le] at hsolved
  have htax := (solveGrossUp_eq_ok hincome hsolved).1
  refine ⟨htax, ?_⟩
  dsimp only
  rw [htax, add_sub_cancel_right, money_of_isCents hnet]

end Rounds

section Settling

variable {taxCalculator unrounded : ℚ → ℚ} {taxableIncome r : ℚ}

/-- On positive incomes the tax, where it is not negative, is `unrounded`, rounded, and this rises with the
income by at most `r` on more of it. -/
structure Gentle (taxCalculator unrounded : ℚ → ℚ) (r : ℚ) : Prop where
  rounded : ∀ income, 0 < income → max 0 (taxCalculator income) = money (unrounded income)
  nonneg : ∀ income, 0 < income → 0 ≤ unrounded income
  mono : ∀ income income', 0 < income → income ≤ income' → unrounded income ≤ unrounded income'
  slow : ∀ income income', 0 < income → income ≤ income' →
    unrounded income' ≤ unrounded income + r * (income' - income)

def nextCents (unrounded : ℚ → ℚ) (taxableIncome : ℚ) (cents : ℤ) : ℤ :=
  roundCents (100 * unrounded (taxableIncome + cents / 100))

namespace Gentle

variable (h : Gentle taxCalculator unrounded r) (hincome : 0 < taxableIncome)
include h hincome

lemma taxWith_cents {cents : ℤ} (hcents : 0 ≤ cents) : taxWith taxCalculator taxableIncome (cents / 100) =
      (nextCents unrounded taxableIncome cents : ℚ) / 100 := by
  have hcast : (0 : ℚ) ≤ cents := by exact_mod_cast hcents
  have hpos : 0 < taxableIncome + cents / 100 := by positivity
  rw [taxWith, h.rounded _ hpos, money_money, money_eq, nextCents]

lemma risesSlowly : RisesSlowly (nextCents unrounded taxableIncome) r 0 where
  mono m n hm hmn := by
    have hcast : (0 : ℚ) ≤ m := by exact_mod_cast hm
    have hle : (m : ℚ) ≤ n := by exact_mod_cast hmn
    have hexact := h.mono (taxableIncome + m / 100) (taxableIncome + n / 100) (by positivity) (by linarith)
    exact roundCents_mono (by linarith)
  slow m n hm hmn := by
    have hcast : (0 : ℚ) ≤ m := by exact_mod_cast hm
    have hle : (m : ℚ) ≤ n := by exact_mod_cast hmn
    have hexact := h.slow (taxableIncome + m / 100) (taxableIncome + n / 100) (by positivity) (by linarith)
    have hround := roundCents_sub_lt (100 * unrounded (taxableIncome + m / 100))
      (100 * unrounded (taxableIncome + n / 100))
    rw [nextCents, nextCents]
    linarith
  start := by
    have hzero := h.nonneg (taxableIncome + (0 : ℤ) / 100)
      (by rw [Int.cast_zero, zero_div, add_zero]; exact hincome)
    have hround : roundCents ((0 : ℤ) : ℚ) ≤ nextCents unrounded taxableIncome 0 :=
      roundCents_mono (by rw [Int.cast_zero]; linarith)
    rwa [roundCents_intCast] at hround

lemma allowanceAfter_eq (k : ℕ) :
    allowanceAfter taxCalculator taxableIncome k = ((nextCents unrounded taxableIncome)^[k] 0 : ℤ) / 100 := by
  induction k with
  | zero => exact (zero_div 100).symm
  | succ k ih =>
    rw [allowanceAfter, Function.iterate_succ_apply', ← allowanceAfter, ih,
      h.taxWith_cents hincome ((h.risesSlowly hincome).iterate_le k).1,
      ← Function.iterate_succ_apply' (nextCents _ _)]

lemma solveGrossUp_returns (hr : 0 ≤ r) (hr' : r < 1) {j : ℕ}
    (hj : j + (r ^ j * (100 * taxWith taxCalculator taxableIncome 0) + 1 / (1 - r) + 1) / (1 - r) < 101) :
    ∃ g, solveGrossUp taxableIncome taxCalculator = .ok g := by
  have hfirst : 100 * taxWith taxCalculator taxableIncome 0 =
      (nextCents unrounded taxableIncome 0 : ℚ) - (0 : ℤ) := by
    have hzero := h.taxWith_cents hincome le_rfl
    rw [Int.cast_zero, zero_div] at hzero
    rw [hzero, Int.cast_zero]
    ring
  rw [hfirst] at hj
  obtain ⟨k, hk, hfix⟩ := (h.risesSlowly hincome).exists_settled hr hr' (n := 101) (by exact_mod_cast hj)
  have hgrossed : GrossedUp taxCalculator taxableIncome (allowanceAfter taxCalculator taxableIncome k) := by
    rw [h.allowanceAfter_eq hincome, GrossedUp,
      h.taxWith_cents hincome ((h.risesSlowly hincome).iterate_le k).1, hfix]
  refine (solveGrossUp_returns_iff hincome).mpr ?_
  rcases k with _ | k
  · refine ⟨1, le_rfl, by omega, ?_⟩
    rw [allowanceAfter, Function.iterate_one]
    exact (congrArg (taxWith taxCalculator taxableIncome) hgrossed)
  · exact ⟨k + 1, Nat.succ_pos k, by omega, hgrossed⟩

end Gentle

end Settling

section Rules

variable {ruleSet : TaxRuleSet} {taxProfile : EmployeeTaxProfile} {fraction r : ℚ}

def taxBy (ruleSet : TaxRuleSet) (taxProfile : EmployeeTaxProfile) (fraction income : ℚ) : ℚ :=
  (calculateTaxBase income (some taxProfile) (some ruleSet) fraction).amount

lemma fractionOf_pos : 0 < fractionOf fraction := lt_of_lt_of_le (by norm_num) (le_max_left _ _)

lemma gentle_zero {taxCalculator : ℚ → ℚ} (hr : 0 ≤ r) (h : ∀ income, 0 < income → taxCalculator income ≤ 0) :
    Gentle taxCalculator (fun _ => 0) r where
  rounded income hincome := by rw [max_eq_left (h income hincome), money_zero]
  nonneg _ _ := le_rfl
  mono _ _ _ _ := le_rfl
  slow _ _ _ hle := by
    have hrise := mul_nonneg hr (sub_nonneg.mpr hle)
    linarith

lemma gentle_scaled (h : ruleSet.parameters.Scaled r) (hstatus : ruleSet.status = "APPROVED")
    (hmode : ruleSet.calculationMode = "ANNUAL_PROGRESSIVE") (hbrackets : ruleSet.parameters.brackets ≠ []) :
    Gentle (taxBy ruleSet taxProfile fraction)
      (fun income => ruleSet.parameters.periodTax (income / fractionOf fraction) * fractionOf fraction) r where
  rounded income hincome := by
    rw [taxBy, amount_progressive hstatus hmode h.periods_pos.ne' hbrackets hincome]
    exact max_eq_right (money_nonneg (mul_nonneg h.periodTax_nonneg fractionOf_pos.le))
  nonneg _ _ := mul_nonneg h.periodTax_nonneg fractionOf_pos.le
  mono _ _ _ hle := mul_le_mul_of_nonneg_right
    (h.periodTax_mono (div_le_div_of_nonneg_right hle fractionOf_pos.le)) fractionOf_pos.le
  slow income income' _ hle := by
    have hfraction : 0 < fractionOf fraction := fractionOf_pos
    have hslow := mul_le_mul_of_nonneg_right
      (h.periodTax_le_add (div_le_div_of_nonneg_right hle hfraction.le)) hfraction.le
    rwa [add_mul, mul_assoc r, ← sub_div, div_mul_cancel₀ _ hfraction.ne'] at hslow

lemma periodTax_nonpos {parameters : TaxParameters} {income : ℚ}
    (h : Ascends r 0 (parameters.brackets.map RateBand.piece)) (hr : 0 ≤ r)
    (hperiods : parameters.periods < 0) :
    parameters.periodTax income ≤ 0 := by
  have hzero : 0 ≤ parameters.annual income := le_max_left _ _
  have hcharge := charge_mono hr h hzero
  rw [charge_of_le h le_rfl] at hcharge
  rw [TaxParameters.periodTax, progressiveTax_eq h]
  exact div_nonpos_of_nonneg_of_nonpos hcharge hperiods.le

lemma taxBy_nonpos_of_periods (hstatus : ruleSet.status = "APPROVED")
    (hmode : ruleSet.calculationMode = "ANNUAL_PROGRESSIVE") (hbrackets : ruleSet.parameters.brackets ≠ [])
    (hascends : Ascends r 0 (ruleSet.parameters.brackets.map RateBand.piece)) (hr : 0 ≤ r)
    (hperiods : ruleSet.parameters.periods ≤ 0) {income : ℚ} (hincome : 0 < income) :
    taxBy ruleSet taxProfile fraction income ≤ 0 := by
  rcases hperiods.eq_or_lt with hzero | hneg
  · rw [taxBy, amount_incomplete hstatus hmode hzero]
  · rw [taxBy, amount_progressive hstatus hmode hneg.ne hbrackets hincome, ← money_zero]
    exact money_mono (mul_nonpos_of_nonpos_of_nonneg (periodTax_nonpos hascends hr hneg) fractionOf_pos.le)

lemma exists_gentle (h : validateTaxRuleParameters ruleSet = .ok ())
    (hmode : ruleSet.calculationMode = "ANNUAL_PROGRESSIVE") (hr : 0 ≤ r)
    (hrates : ∀ band ∈ ruleSet.parameters.brackets, band.rate ≤ r) :
    ∃ unrounded, Gentle (taxBy ruleSet taxProfile fraction) unrounded r := by
  obtain ⟨hbrackets, hcheck⟩ := checkBrackets_of_validate h hmode
  have hascends := ascends_of_checkBrackets hcheck hrates
  by_cases hstatus : ruleSet.status = "APPROVED"
  · rcases le_or_gt ruleSet.parameters.periods 0 with hnone | hpos
    · exact ⟨_, gentle_zero hr fun income hincome =>
        taxBy_nonpos_of_periods hstatus hmode hbrackets hascends hr hnone hincome⟩
    · exact ⟨_, gentle_scaled ⟨hascends, hpos, hr⟩ hstatus hmode hbrackets⟩
  · exact ⟨_, gentle_zero hr fun income _ => (amount_unapproved hstatus).le⟩

/-- If a gross-up is found, its allowance is its tax and the tax of the income with it, and the employee keeps
the net amount. It is found exactly if one of the first hundred allowances is the tax of the income with it,
and else the calculation fails. A progressive rule set that passes validation, with rates up to `r < 1`, comes
to such an allowance in the rounds that the first tax needs to shrink by `r`, and those for what the rounding
adds. -/
theorem grossUp_settles : (∀ (taxCalculator : ℚ → ℚ) (taxableIncome : ℚ) (g : GrossUp), 0 < taxableIncome →
      solveGrossUp taxableIncome taxCalculator = .ok g →
        g.allowance = g.tax ∧ money (max 0 (taxCalculator (taxableIncome + g.allowance))) = g.allowance) ∧
    (∀ (taxCalculator : ℚ → ℚ) (income net : ℚ) (result : PayrollTaxMethodResult), 0 < income → IsCents net →
      applyPayrollTaxMethod "GROSS_UP" income net taxCalculator = .ok result →
        result.grossAdjustment = result.employeeTaxDeduction ∧ result.netAfterTax = net) ∧
    (∀ (taxCalculator : ℚ → ℚ) (taxableIncome : ℚ), 0 < taxableIncome →
      ((∃ g, solveGrossUp taxableIncome taxCalculator = .ok g) ↔
        ∃ k, 1 ≤ k ∧ k ≤ 100 ∧
          GrossedUp taxCalculator taxableIncome (allowanceAfter taxCalculator taxableIncome k)) ∧
      ∀ e, solveGrossUp taxableIncome taxCalculator = .error e →
        e = .unexpected "gross-up-does-not-converge") ∧
    (∀ (ruleSet : TaxRuleSet) (taxProfile : EmployeeTaxProfile) (fraction taxableIncome r : ℚ) (j : ℕ),
      validateTaxRuleParameters ruleSet = .ok () → ruleSet.calculationMode = "ANNUAL_PROGRESSIVE" →
      (∀ band ∈ ruleSet.parameters.brackets, band.rate ≤ r) → 0 ≤ r → r < 1 → 0 < taxableIncome →
      j + (r ^ j * (100 * taxWith (taxBy ruleSet taxProfile fraction) taxableIncome 0) +
        1 / (1 - r) + 1) / (1 - r) <
        101 →
      ∃ g, solveGrossUp taxableIncome (taxBy ruleSet taxProfile fraction) = .ok g) := by
  refine ⟨?_, ?_, ?_, ?_⟩
  · intro taxCalculator taxableIncome g hincome hok
    exact solveGrossUp_eq_ok hincome hok
  · intro taxCalculator income net result hincome hnet hok
    exact applyPayrollTaxMethod_grossUp hok hnet hincome
  · intro taxCalculator taxableIncome hincome
    exact ⟨solveGrossUp_returns_iff hincome, fun e => solveGrossUp_eq_error⟩
  · intro ruleSet taxProfile fraction taxableIncome r j h hmode hrates hr hr' hincome hj
    obtain ⟨unrounded, hgentle⟩ : ∃ unrounded, Gentle (taxBy ruleSet taxProfile fraction) unrounded r :=
      exists_gentle h hmode hr hrates
    exact hgentle.solveGrossUp_returns hincome hr hr' hj

def flatRate (rate : ℚ) : TaxRuleSet where
  id := 1
  companyId := 1
  code := "PPH21"
  effectiveFrom := 0
  calculationMode := "ANNUAL_PROGRESSIVE"
  parameters := { brackets := [{ rate }] }
  status := "APPROVED"

/-- At a rate of one each round adds the income, and the hundred rounds end without an allowance. -/
theorem not_grossUp_flatRate_one : validateTaxRuleParameters (flatRate 1) = .ok () ∧
    solveGrossUp 100 (taxBy (flatRate 1) singleProfile 1) =
      .error (.unexpected "gross-up-does-not-converge") ∧
    ¬ ∀ (ruleSet : TaxRuleSet) (taxProfile : EmployeeTaxProfile) (fraction taxableIncome : ℚ),
      validateTaxRuleParameters ruleSet = .ok () → ruleSet.calculationMode = "ANNUAL_PROGRESSIVE" →
      0 < taxableIncome → ∃ g, solveGrossUp taxableIncome (taxBy ruleSet taxProfile fraction) = .ok g := by
  have hvalid : validateTaxRuleParameters (flatRate 1) = .ok () := by decide +kernel
  have hfails : solveGrossUp 100 (taxBy (flatRate 1) singleProfile 1) =
      .error (.unexpected "gross-up-does-not-converge") := by decide +kernel
  refine ⟨hvalid, hfails, fun hall => ?_⟩
  obtain ⟨g, hg⟩ := hall (flatRate 1) singleProfile 1 100 hvalid rfl (by norm_num)
  rw [hfails] at hg
  cases hg

theorem grossUp_flatRate_half : ∃ g, solveGrossUp 100 (taxBy (flatRate (1 / 2)) singleProfile 1) = .ok g := by
  have htax : taxWith (taxBy (flatRate (1 / 2)) singleProfile 1) 100 0 = 50 := by decide +kernel
  refine grossUp_settles.2.2.2 (flatRate (1 / 2)) singleProfile 1 100 (1 / 2) 13 (by decide +kernel) rfl
    (by decide +kernel) (by norm_num) (by norm_num) (by norm_num) ?_
  rw [htax]
  norm_num

end Rules

end Mayatoko.Payroll
