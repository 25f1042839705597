import Mathlib.Tactic.Positivity
import Mayatoko.Core.Decimal
import Mayatoko.Core.Table

/-!
# Lines of a payroll adjustment

An adjustment recalculates the payroll of an employee and writes, for every line key, the target
less what the recognised runs have already written. The target lines go into a map that keeps the
last line of a key, the recognised lines into one that adds them up, so the difference is right
for a key unless target lines of it were overwritten.

`money` rounds to cents, halves up, after adding the machine epsilon: an amount in cents stays, and every other
one moves by half a cent and the epsilon at most.
-/

namespace Mayatoko.Payroll

open Core

inductive PayrollComponentType
  | earning
  | deduction
  | employerContribution
  | reimbursement
  | tax
  deriving DecidableEq

def PayrollComponentType.text : PayrollComponentType → String
  | earning => "EARNING"
  | deduction => "DEDUCTION"
  | employerContribution => "EMPLOYER_CONTRIBUTION"
  | reimbursement => "REIMBURSEMENT"
  | tax => "TAX"

structure LineKey where
  componentId : Option ℕ
  code : String
  componentType : PayrollComponentType
  deriving DecidableEq

structure PayrollLine extends LineKey where
  name : String
  (amount taxableAmount employerAmount : ℚ)
  source : Option String

def PayrollLine.amounts (line : PayrollLine) : ℚ × ℚ × ℚ :=
  (line.amount, line.taxableAmount, line.employerAmount)

def LineKey.text (k : LineKey) : String :=
  (k.componentId.map toString).getD "" ++ "|" ++ k.code ++ "|" ++ k.componentType.text

def lineKey (line : PayrollLine) : String := line.toLineKey.text

/-! ### Target lines -/

inductive PayrollCalculationType
  | fixed
  | formula
  | percentage
  | attendance
  | overtime
  | manual

def PayrollCalculationType.text : PayrollCalculationType → String
  | fixed => "FIXED"
  | formula => "FORMULA"
  | percentage => "PERCENTAGE"
  | attendance => "ATTENDANCE"
  | overtime => "OVERTIME"
  | manual => "MANUAL"

structure PayrollComponentDefinition where
  id : ℕ
  (code name : String)
  componentType : PayrollComponentType
  calculationType : PayrollCalculationType
  taxable : Bool := true
  affectsGross : Bool := true
  affectsNet : Bool := true

structure CalculatedComponent where
  definition : PayrollComponentDefinition
  amount : ℚ

structure TaxOutcome where
  (amount employerBorneTax grossAdjustment taxableAdjustment : ℚ)

structure SocialLine where
  code : String
  (employeeAmount employerAmount : ℚ)

/-- Two decimals, as `Math.round` of the hundredfold after adding the machine epsilon. -/
def money (value : ℚ) : ℚ := ⌊(value + 1 / 2 ^ 52) * 100 + 1 / 2⌋ / 100

def PayrollComponentDefinition.positiveType (d : PayrollComponentDefinition) : Bool :=
  d.componentType = .earning || d.componentType = .reimbursement

def CalculatedComponent.taxableAmount (c : CalculatedComponent) : ℚ :=
  if c.definition.positiveType && c.definition.taxable then c.amount else 0

def CalculatedComponent.line (c : CalculatedComponent) : PayrollLine where
  componentId := some c.definition.id
  code := c.definition.code
  name := c.definition.name
  componentType := c.definition.componentType
  amount := money c.amount
  taxableAmount := money c.taxableAmount
  employerAmount := 0
  source := some c.definition.calculationType.text

def TaxOutcome.grossUpLine (tax : TaxOutcome) : PayrollLine where
  componentId := none
  code := "TAX_GROSS_UP_ALLOWANCE"
  name := "Tunjangan Pajak Gross-Up"
  componentType := .earning
  amount := tax.grossAdjustment
  taxableAmount := tax.taxableAdjustment
  employerAmount := 0
  source := some "TAX_METHOD_ENGINE"

def TaxOutcome.incomeTaxLine (tax : TaxOutcome) : PayrollLine where
  componentId := none
  code := "INCOME_TAX"
  name := "Pajak Penghasilan"
  componentType := .tax
  amount := tax.amount
  taxableAmount := 0
  employerAmount := tax.employerBorneTax
  source := some "TAX_METHOD_ENGINE"

def SocialLine.line (item : SocialLine) : PayrollLine where
  componentId := none
  code := item.code
  name := item.code
  componentType := .deduction
  amount := item.employeeAmount
  taxableAmount := 0
  employerAmount := item.employerAmount
  source := some "SOCIAL_SECURITY"

def targetLines (components : List CalculatedComponent) (tax : TaxOutcome)
    (social : List SocialLine) : List PayrollLine :=
  components.map CalculatedComponent.line ++
    (if tax.grossAdjustment > 0 then [tax.grossUpLine] else []) ++
    (if tax.amount > 0 then [tax.incomeTaxLine] else []) ++ social.map SocialLine.line

/-! ### Differential lines -/

/-- A map from line keys to lines in the order in which the keys were first set. -/
abbrev LineMap := Table lineKey

def LineMap.keys (m : LineMap) : List String := m.rows.map lineKey

def targetMap (targetLines : List PayrollLine) : LineMap :=
  targetLines.foldl Table.put Table.empty

def addPrior (priorMap : LineMap) (line : PayrollLine) : LineMap :=
  match priorMap.find? (lineKey line) with
  | some current =>
    priorMap.put
      { current with
        amount := current.amount + line.amount
        taxableAmount := current.taxableAmount + line.taxableAmount
        employerAmount := current.employerAmount + line.employerAmount }
  | none => priorMap.put { line with source := some (line.source.getD "ADJUSTMENT_BASE") }

def priorMap (recognizedLines : List PayrollLine) : LineMap :=
  recognizedLines.foldl addPrior Table.empty

def amountsOf (line : Option PayrollLine) : ℚ × ℚ × ℚ := line.elim 0 PayrollLine.amounts

def Negligible (v : ℚ × ℚ × ℚ) : Prop :=
  |v.1| < 5 / 1000 ∧ |v.2.1| < 5 / 1000 ∧ |v.2.2| < 5 / 1000

instance (v : ℚ × ℚ × ℚ) : Decidable (Negligible v) :=
  inferInstanceAs (Decidable (_ ∧ _ ∧ _))

/-- The output line of a key, unless the difference is suppressed. -/
def differentialLine (target prior : Option PayrollLine) : Option PayrollLine :=
  let delta := amountsOf target - amountsOf prior
  if Negligible delta then
    none
  else
    (target <|> prior).map fun base =>
      { base with
        amount := delta.1
        taxableAmount := delta.2.1
        employerAmount := delta.2.2
        source := some "ADJUSTMENT_DIFFERENTIAL" }

def differentialLines (targetLines recognizedLines : List PayrollLine) : List PayrollLine :=
  let targets := targetMap targetLines
  let priors := priorMap recognizedLines
  (targets.keys ++ priors.keys).eraseDups.filterMap fun key =>
    differentialLine (targets.find? key) (priors.find? key)

/-! ### Line keys as texts -/

lemma bar_not_mem_id (id : Option ℕ) : '|' ∉ ((id.map toString).getD "").toList := by
  cases id with
  | none => simp
  | some n => simpa using not_mem_toDigits (by decide) n

lemma bar_not_mem_type (c : PayrollComponentType) : '|' ∉ c.text.toList := by
  cases c <;> decide

lemma idText_injective : Function.Injective fun id : Option ℕ => (id.map toString).getD "" := by
  have hne (n : ℕ) : toString n ≠ "" := by
    intro h
    have hdigits := congrArg String.toList h
    simp [Nat.toDigits_ne_nil] at hdigits
  intro i j h
  cases i with
  | none =>
    cases j with
    | none => rfl
    | some n => exact absurd h.symm (hne n)
  | some m =>
    cases j with
    | none => exact absurd h (hne m)
    | some n =>
      have hdigits := congrArg (fun s : String => Nat.ofDigitChars 10 s.toList 0) h
      simpa using hdigits

lemma PayrollComponentType.text_injective : Function.Injective PayrollComponentType.text := by
  intro c d h
  cases c <;> cases d <;> first | rfl | exact absurd h (by decide)

lemma LineKey.text_injective : Function.Injective LineKey.text := by
  intro k l h
  have htext := congrArg String.toList h
  simp only [LineKey.text, String.toList_append, append_assoc] at htext
  obtain ⟨hid, hrest⟩ := append_cons_inj (bar_not_mem_id k.componentId) (bar_not_mem_id l.componentId) htext
  obtain ⟨hcode, htype⟩ := append_cons_inj_last (bar_not_mem_type k.componentType)
    (bar_not_mem_type l.componentType) hrest
  have hid' := idText_injective (String.toList_inj.mp hid)
  have hcode' := String.toList_inj.mp hcode
  have htype' := PayrollComponentType.text_injective (String.toList_inj.mp htype)
  cases k
  cases l
  simp_all

variable {line : PayrollLine}

lemma lineKey_eq_text {k : LineKey} : lineKey line = k.text ↔ line.toLineKey = k :=
  LineKey.text_injective.eq_iff

/-! ### Totals of a key -/

def linesOf (k : LineKey) (lines : List PayrollLine) : List PayrollLine :=
  lines.filter fun line => line.toLineKey = k

def lineTotal (k : LineKey) (lines : List PayrollLine) : ℚ × ℚ × ℚ :=
  ((linesOf k lines).map PayrollLine.amounts).sum

/-- The last line of a key. -/
def lastAmounts (k : LineKey) (lines : List PayrollLine) : ℚ × ℚ × ℚ :=
  amountsOf (linesOf k lines).getLast?

/-- The sum of the lines of a key before the last one. -/
def overwritten (k : LineKey) (lines : List PayrollLine) : ℚ × ℚ × ℚ :=
  ((linesOf k lines).dropLast.map PayrollLine.amounts).sum

@[simp] lemma lineTotal_nil (k : LineKey) : lineTotal k [] = 0 := rfl

lemma lineTotal_cons (k : LineKey) (line : PayrollLine) (lines : List PayrollLine) :
    lineTotal k (line :: lines) =
      (if line.toLineKey = k then line.amounts else 0) + lineTotal k lines := by
  by_cases h : line.toLineKey = k <;> simp [lineTotal, linesOf, h]

lemma lineTotal_eq (k : LineKey) (lines : List PayrollLine) :
    lineTotal k lines = overwritten k lines + lastAmounts k lines := by
  unfold lineTotal overwritten lastAmounts
  induction linesOf k lines using List.reverseRecOn with
  | nil => simp [amountsOf]
  | append_singleton lines line _ => simp [amountsOf]

lemma find?_targetMap (lines : List PayrollLine) (k : LineKey) :
    amountsOf ((targetMap lines).find? k.text) = lastAmounts k lines := by
  simp [targetMap, Table.find?_foldl_put, lineKey_eq_text, lastAmounts, linesOf]

lemma amountsOf_put (m : LineMap) (line : PayrollLine) (k : LineKey) :
    amountsOf (Table.find? (m.put line) k.text) =
      if line.toLineKey = k then line.amounts else amountsOf (m.find? k.text) := by
  by_cases hk : line.toLineKey = k
  · subst hk
    rw [if_pos rfl]
    exact congrArg amountsOf (find?_put_self m line)
  · rw [if_neg hk, find?_put_of_ne]
    exact fun h => hk (lineKey_eq_text.mp h.symm)

lemma amountsOf_addPrior (m : LineMap) (line : PayrollLine) (k : LineKey) :
    amountsOf ((addPrior m line).find? k.text) =
      amountsOf (m.find? k.text) + if line.toLineKey = k then line.amounts else 0 := by
  rw [addPrior, lineKey]
  cases hm : m.find? line.toLineKey.text with
  | none =>
    by_cases hk : line.toLineKey = k
    · subst hk
      simp only [amountsOf_put, hm, if_true]
      simp [amountsOf, PayrollLine.amounts]
    · simp [amountsOf_put, hk]
  | some current =>
    have hcurrent := lineKey_eq_text.mp (find?_eq_some.mp hm).2
    by_cases hk : line.toLineKey = k
    · subst hk
      simp only [amountsOf_put, hm, hcurrent, if_true]
      simp [amountsOf, PayrollLine.amounts]
    · simp [amountsOf_put, hk, hcurrent]

lemma amountsOf_priorMap (lines : List PayrollLine) (k : LineKey) :
    amountsOf ((priorMap lines).find? k.text) = lineTotal k lines := by
  have hfold (m : LineMap) : amountsOf ((lines.foldl addPrior m).find? k.text) =
      amountsOf (m.find? k.text) + lineTotal k lines := by
    induction lines generalizing m with
    | nil => simp
    | cons line lines ih =>
      rw [List.foldl_cons, ih, amountsOf_addPrior, lineTotal_cons, add_assoc]
  rw [priorMap, hfold]
  simp [amountsOf]

lemma mem_keys_of_find? {m : LineMap} {key : String} (h : m.find? key = some line) : key ∈ m.keys := by
  obtain ⟨hmem, rfl⟩ := find?_eq_some.mp h
  exact mem_map_of_mem hmem

lemma lineKey_differentialLine {target prior : Option PayrollLine}
    {key : String} (ht : ∀ l ∈ target, lineKey l = key) (hp : ∀ l ∈ prior, lineKey l = key)
    (h : differentialLine target prior = some line) : lineKey line = key := by
  unfold differentialLine at h
  dsimp only at h
  split at h
  · cases h
  · obtain ⟨base, hbase, rfl⟩ := Option.map_eq_some_iff.mp h
    cases target with
    | some t => exact ht base hbase
    | none => exact hp base hbase

lemma amountsOf_differentialLine (target prior : Option PayrollLine) :
    amountsOf (differentialLine target prior) =
      if Negligible (amountsOf target - amountsOf prior) then 0
      else amountsOf target - amountsOf prior := by
  unfold differentialLine
  dsimp only
  split
  next => rfl
  next h =>
    cases target with
    | some t => rfl
    | none =>
      cases prior with
      | some p => rfl
      | none => exact absurd (by simp [Negligible, amountsOf]) h

lemma lineTotal_filterMap {keys : List String} (hnd : keys.Nodup)
    {f : String → Option PayrollLine} (hf : ∀ key, ∀ line ∈ f key, lineKey line = key)
    (k : LineKey) :
    lineTotal k (keys.filterMap f) = if k.text ∈ keys then amountsOf (f k.text) else 0 := by
  induction keys with
  | nil => rfl
  | cons key keys ih =>
    obtain ⟨hkey, hnd⟩ := nodup_cons.mp hnd
    have ih := ih hnd
    by_cases hk : k.text = key
    · subst hk
      rw [if_neg hkey] at ih
      rw [if_pos mem_cons_self]
      cases hline : f k.text with
      | none => rw [List.filterMap_cons_none hline, ih, amountsOf, Option.elim_none]
      | some line =>
        have hline' := lineKey_eq_text.mp (hf _ line hline)
        rw [List.filterMap_cons_some hline, lineTotal_cons, if_pos hline', ih, add_zero]
        rfl
    · have hmem : k.text ∈ key :: keys ↔ k.text ∈ keys := by simp [hk]
      simp only [hmem]
      rw [← ih]
      cases hline : f key with
      | none => rw [List.filterMap_cons_none hline]
      | some line =>
        have hline' : ¬ line.toLineKey = k := fun h =>
          hk ((lineKey_eq_text.mpr h).symm.trans (hf _ line hline))
        rw [List.filterMap_cons_some hline, lineTotal_cons, if_neg hline', zero_add]

lemma lineTotal_differentialLines (target prior : List PayrollLine) (k : LineKey) :
    lineTotal k (differentialLines target prior) =
      if Negligible (lastAmounts k target - lineTotal k prior) then 0
      else lastAmounts k target - lineTotal k prior := by
  have hf (key : String) : ∀ line ∈ differentialLine ((targetMap target).find? key)
      ((priorMap prior).find? key), lineKey line = key := fun line h =>
    lineKey_differentialLine (fun l hl => (find?_eq_some.mp hl).2)
      (fun l hl => (find?_eq_some.mp hl).2) h
  rw [differentialLines, lineTotal_filterMap (nodup_eraseDups _) hf, amountsOf_differentialLine,
    find?_targetMap, amountsOf_priorMap]
  split
  next h => rfl
  next h =>
    -- A text outside both maps has no target and no recognised line.
    rw [List.mem_eraseDups, mem_append, not_or] at h
    have ht : (targetMap target).find? k.text = none :=
      Option.eq_none_iff_forall_ne_some.mpr fun line hl => h.1 (mem_keys_of_find? hl)
    have hp : (priorMap prior).find? k.text = none :=
      Option.eq_none_iff_forall_ne_some.mpr fun line hl => h.2 (mem_keys_of_find? hl)
    rw [← find?_targetMap, ← amountsOf_priorMap, ht, hp]
    simp [amountsOf]

def DifferentialRight (target prior : List PayrollLine) : Prop :=
  ∀ k, Negligible (lineTotal k (differentialLines target prior) -
    (lineTotal k target - lineTotal k prior))

variable {v : ℚ × ℚ × ℚ}

lemma negligible_neg : Negligible (-v) ↔ Negligible v := by
  simp [Negligible]

/-- The difference of a key is right if and only if the overwritten lines of the key are
negligible, or, where the output line is suppressed, the whole difference is. -/
theorem differentialRight_iff (target prior : List PayrollLine) : DifferentialRight target prior ↔
      ∀ k, if Negligible (lastAmounts k target - lineTotal k prior) then
          Negligible (lineTotal k target - lineTotal k prior)
        else Negligible (overwritten k target) := by
  apply forall_congr'
  intro k
  rw [lineTotal_differentialLines]
  split
  · rw [zero_sub, negligible_neg]
  · have h : lastAmounts k target - lineTotal k prior - (lineTotal k target - lineTotal k prior) =
        -overwritten k target := by
      rw [lineTotal_eq k target]
      abel
    rw [h, negligible_neg]

/-- Two assignments of one allowance, recognised with 500 each, of which the second is now 600: the
output line takes back 400 instead of adding 100. -/
theorem twoAssignments_notRight :
    let allowance : PayrollComponentDefinition :=
      { id := 7, code := "MEAL", name := "Uang Makan", componentType := .earning,
        calculationType := .fixed }
    let target := targetLines [⟨allowance, 500⟩, ⟨allowance, 600⟩] ⟨0, 0, 0, 0⟩ []
    let prior := targetLines [⟨allowance, 500⟩, ⟨allowance, 500⟩] ⟨0, 0, 0, 0⟩ []
    ¬ DifferentialRight target prior ∧
      (differentialLines target prior).map PayrollLine.amounts = [(-400, -400, 0)] := by
  refine ⟨fun h => ?_, by decide +kernel⟩
  have hkey := h ⟨some 7, "MEAL", .earning⟩
  revert hkey
  decide +kernel

variable {w : ℚ × ℚ × ℚ}

variable {target : List PayrollLine}

/-! ### Rounded amounts -/

/-- The machine epsilon, which `money` adds before it rounds. -/
def epsilon : ℚ := 1 / 2 ^ 52

lemma epsilon_pos : 0 < epsilon := by
  rw [epsilon]
  positivity

lemma epsilon_lt : epsilon < 1 / 1000000 := by
  rw [epsilon]
  norm_num

lemma epsilon_le : epsilon ≤ 1 / 1000000000000000 := by
  rw [epsilon]
  norm_num

def roundCents (x : ℚ) : ℤ := ⌊x + 100 * epsilon + 1 / 2⌋

lemma money_eq (x : ℚ) : money x = roundCents (100 * x) / 100 := by
  rw [money, roundCents, epsilon]
  congr 3
  ring

variable {x : ℚ}

lemma roundCents_mono {y : ℚ} (h : x ≤ y) : roundCents x ≤ roundCents y := by
  apply Int.floor_le_floor
  linarith

lemma roundCents_sub_lt (x y : ℚ) : (roundCents y : ℚ) - roundCents x < y - x + 1 := by
  have hx := Int.lt_floor_add_one (x + 100 * epsilon + 1 / 2)
  have hy := Int.floor_le (y + 100 * epsilon + 1 / 2)
  rw [← roundCents] at hx hy
  linarith

@[simp] lemma roundCents_intCast (n : ℤ) : roundCents n = n := by
  have hpos := epsilon_pos
  have hlt := epsilon_lt
  rw [roundCents, Int.floor_eq_iff]
  constructor <;> linarith

lemma money_intCast_div (n : ℤ) : money (n / 100) = n / 100 := by
  rw [money_eq, mul_div_cancel₀ _ (by norm_num : (100 : ℚ) ≠ 0), roundCents_intCast]

lemma isCents_money (x : ℚ) : IsCents (money x) := ⟨roundCents (100 * x), money_eq x⟩

lemma money_of_isCents (h : IsCents x) : money x = x := by
  obtain ⟨n, rfl⟩ := h
  exact money_intCast_div n

@[simp] lemma money_money (x : ℚ) : money (money x) = money x := money_of_isCents (isCents_money x)

@[simp] lemma money_zero : money 0 = 0 := money_of_isCents isCents_zero

lemma money_mono {y : ℚ} (h : x ≤ y) : money x ≤ money y := by
  have hcents : (roundCents (100 * x) : ℚ) ≤ roundCents (100 * y) := by
    exact_mod_cast roundCents_mono (by linarith)
  rw [money_eq, money_eq]
  linarith

lemma money_nonneg (h : 0 ≤ x) : 0 ≤ money x := by
  rw [← money_zero]
  exact money_mono h

lemma abs_money_sub_le (x : ℚ) : |money x - x| ≤ 1 / 200 + epsilon := by
  have hlow := Int.lt_floor_add_one (100 * x + 100 * epsilon + 1 / 2)
  have hhigh := Int.floor_le (100 * x + 100 * epsilon + 1 / 2)
  have hpos := epsilon_pos
  rw [← roundCents] at hlow hhigh
  rw [money_eq, abs_le]
  constructor <;> linarith

lemma IsCents.eq_of_abs_sub_lt {y : ℚ} (hx : IsCents x) (hy : IsCents y) (h : |x - y| < 5 / 1000) : x = y :=
  sub_eq_zero.mp ((Core.IsCents.sub hx hy).eq_zero_of_abs_lt h)

end Mayatoko.Payroll
