import Mayatoko.Fleet.Assets
import Mayatoko.Fleet.TripFacts

/-!
# Depreciation over many runs

A run charges an asset its monthly amount for every calendar month that the period touches, up to what is
left to depreciate. Over many runs this adds up to the charge of one run, with every month counted as
often as it was touched: the runs charge what the months that they cover amount to exactly if no month is
touched twice, unless the limit makes up for it.
-/

namespace Mayatoko.Fleet

open Core Accounting FleetDb
open Transit (TenantScope)

variable {db db' : FleetDb} {scope : TenantScope} {dto : RunDepreciation}

/-! ### What a run charges -/

namespace Asset

variable (a : Asset)

def life : Option ℤ := a.usefulLifeMonths.filter (0 < ·)

def rate : ℚ := a.life.elim 0 fun life => max 0 (a.monthly life)

def left : ℚ := max 0 (toDecimalPlaces (a.bookValue - a.residualValue) 2)

def due (months : ℕ) : ℚ := a.life.elim 0 fun life => max 0 (a.charge life months)

def depreciated (amount : ℚ) : Asset := { a with
  bookValue := a.bookValue - amount, accumulatedDepreciation := a.accumulatedDepreciation + amount }

lemma left_nonneg : 0 ≤ a.left := le_max_left _ _

lemma isCents_left : IsCents a.left := isCents_zero.max (isCents_toDecimalPlaces _)

lemma rate_nonneg : 0 ≤ a.rate := by
  rw [rate]
  cases a.life with
  | none => exact le_refl _
  | some life => exact le_max_left _ _

lemma rate_of_depreciable_nonpos (h : a.depreciable ≤ 0) : a.rate = 0 := by
  rw [rate]
  cases hlife : a.life with
  | none => rfl
  | some life =>
    have hpos : 0 < life := by simpa using (Option.filter_eq_some_iff.mp hlife).2
    have hle : a.depreciable / life ≤ 0 :=
      div_nonpos_of_nonpos_of_nonneg h (by exact_mod_cast hpos.le)
    have hmonthly : a.monthly life ≤ 0 := by
      rw [monthly, ← isCents_zero.toDecimalPlaces]
      exact toDecimalPlaces_mono hle 2
    exact max_eq_left hmonthly

lemma isCents_rate : IsCents a.rate := by
  rw [rate]
  cases a.life with
  | none => exact isCents_zero
  | some life => exact isCents_zero.max (isCents_toDecimalPlaces _)

lemma due_eq (months : ℕ) : a.due months = min (a.rate * months) a.left := by
  rw [due, rate]
  cases a.life with
  | none => simp [a.left_nonneg]
  | some life =>
    have hcents : IsCents (a.monthly life * months) := by
      exact_mod_cast (isCents_toDecimalPlaces (a.depreciable / life)).mul_intCast months
    have hmonths : (0 : ℚ) ≤ months := Nat.cast_nonneg months
    simp only [Option.elim_some, charge, Int.cast_natCast]
    rw [toDecimalPlaces_min, hcents.toDecimalPlaces, max_min_distrib_left, left,
      max_mul_of_nonneg _ _ hmonths, zero_mul]

lemma due_nonneg (months : ℕ) : 0 ≤ a.due months := by
  rw [due_eq]
  exact le_min (mul_nonneg a.rate_nonneg (Nat.cast_nonneg _)) a.left_nonneg

lemma isCents_due (months : ℕ) : IsCents (a.due months) := by
  rw [due_eq]
  exact_mod_cast (a.isCents_rate.mul_intCast months).min a.isCents_left

@[simp] lemma due_zero : a.due 0 = 0 := by
  rw [due_eq, Nat.cast_zero, mul_zero, min_eq_left a.left_nonneg]

@[simp] lemma depreciated_zero : a.depreciated 0 = a := by
  simp [depreciated]

lemma depreciated_depreciated (x y : ℚ) : (a.depreciated x).depreciated y = a.depreciated (x + y) := by
  simp [depreciated, sub_sub, add_assoc]

lemma left_depreciated (months : ℕ) : (a.depreciated (a.due months)).left = a.left - a.due months := by
  have hle : a.due months ≤ a.left := by
    rw [due_eq]
    exact min_le_right _ _
  rw [left, left, ← (a.isCents_due months).max_toDecimalPlaces_sub (a.due_nonneg months) hle]
  simp only [depreciated]
  congr 2
  ring

lemma due_add_due (m n : ℕ) : a.due m + (a.depreciated (a.due m)).due n = a.due (m + n) := by
  have hrate : (a.depreciated (a.due m)).rate = a.rate := rfl
  rw [due_eq (a.depreciated _), left_depreciated, hrate, due_eq, due_eq,
    min_add_min_sub (mul_nonneg a.rate_nonneg (Nat.cast_nonneg _)), Nat.cast_add, mul_add]

def monthCount (start endAt : ℕ) : ℕ :=
  (a.capitalizationDate.elim 0 (countCalendarMonths start endAt)).toNat

def monthsTouched (a : Asset) (scope : TenantScope) (dto : RunDepreciation) : List ℤ :=
  if a.companyId = scope.companyId ∧ a.branchId = some scope.branchId then
    (List.range (a.monthCount dto.periodStart dto.periodEnd)).map fun (n : ℕ) =>
      calendarMonth (max dto.periodStart (a.capitalizationDate.getD 0)) + n
  else []

def afterRun (scope : TenantScope) (dto : RunDepreciation) (a : Asset) : Asset :=
  if dto.looksAt scope a then a.depreciated (a.due (a.monthCount dto.periodStart dto.periodEnd))
  else a

end Asset

/-! ### The transaction -/

def chargedIn (start endAt : ℕ) (assets : List Asset) (a : Asset) : Asset :=
  if a ∈ assets then a.depreciated (a.due (a.monthCount start endAt)) else a

lemma depreciationAccounts_readOnly {categoryId : ℕ} : ReadOnly (depreciationAccounts scope categoryId) :=
  findScoped_readOnly.bind fun _ => leaves_orThrow.bind fun _ => leaves_orThrow.bind fun _ =>
    leaves_pure

variable {start endAt : ℕ} {c : Option DepreciationCharge}

/-- Either nothing is due, or what is due is charged. -/
lemma depreciateAsset_cases {a : Asset}
    (ha : a ∈ db.assets) (h : Commits (depreciateAsset scope start endAt a) db c db') :
    a.due (a.monthCount start endAt) = 0 ∧ db' = db ∨
      db' = { db with
        assets := db.assets.put (a.depreciated (a.due (a.monthCount start endAt))) } := by
  rw [depreciateAsset] at h
  cases hlife : a.usefulLifeMonths.filter (0 < ·) with
  | none =>
    rw [hlife] at h
    obtain ⟨_, rfl⟩ := commits_pure.mp h
    refine .inl ⟨?_, rfl⟩
    rw [Asset.due, Asset.life, hlife, Option.elim_none]
  | some life =>
    rw [hlife] at h
    simp only [commits_steps] at h
    obtain ⟨_, h⟩ := h
    have hdue : ∀ n, a.due n = max 0 (a.charge life n) := fun n => by
      rw [Asset.due, Asset.life, hlife, Option.elim_some]
    cases hdate : a.capitalizationDate with
    | none =>
      rw [hdate] at h
      obtain ⟨_, rfl⟩ := commits_pure.mp h
      refine .inl ⟨?_, rfl⟩
      rw [Asset.monthCount, hdate, Option.elim_none, Int.toNat_zero, Asset.due_zero]
    | some date =>
      rw [hdate] at h
      have hcount : a.monthCount start endAt = (countCalendarMonths start endAt date).toNat := by
        rw [Asset.monthCount, hdate, Option.elim_some]
      rw [hcount]
      dsimp only at h
      split_ifs at h with hmonths hdepreciable hcharge
      · obtain ⟨_, rfl⟩ := commits_pure.mp h
        refine .inl ⟨?_, rfl⟩
        rw [Int.toNat_of_nonpos hmonths, Asset.due_zero]
      · obtain ⟨_, rfl⟩ := commits_pure.mp h
        refine .inl ⟨?_, rfl⟩
        rw [Asset.due_eq, a.rate_of_depreciable_nonpos hdepreciable, zero_mul, min_eq_left a.left_nonneg]
      · obtain ⟨_, rfl⟩ := commits_pure.mp h
        refine .inl ⟨?_, rfl⟩
        rw [hdue, Int.toNat_of_nonneg (not_le.mp hmonths).le]
        exact max_eq_left hcharge
      · refine .inr ?_
        rw [hdue, Int.toNat_of_nonneg (not_le.mp hmonths).le, max_eq_right (not_le.mp hcharge).le]
        simp only [chargeAsset, commits_steps, TableOf.commits_update] at h
        obtain ⟨_, _, haccounts, _, _, ⟨r, hr, _, rfl⟩, _, rfl⟩ := h
        obtain rfl := depreciationAccounts_readOnly.eq haccounts
        obtain rfl := mem_unique (find?_of_mem ha) hr
        rfl

lemma depreciateAsset_commits {a : Asset}
    (ha : a ∈ db.assets) (h : Commits (depreciateAsset scope start endAt a) db c db') (k : ℕ) :
    db'.assets.find? k = (db.assets.find? k).map (chargedIn start endAt [a]) := by
  obtain ⟨hzero, rfl⟩ | rfl := depreciateAsset_cases ha h
  · have hsame : chargedIn start endAt [a] = id := by
      funext r
      rw [chargedIn]
      split_ifs with hr
      · rw [mem_singleton.mp hr, hzero, Asset.depreciated_zero, id]
      · rfl
    rw [hsame, Option.map_id]
    rfl
  · rw [Table.find?_put]
    split_ifs with hk
    · obtain rfl := hk
      exact (congrArg (Option.map _) (find?_of_mem ha)).symm ▸ by simp [chargedIn]
    · cases hfind : db.assets.find? k with
      | none => rfl
      | some r =>
        have hne : r ≠ a := by
          rintro rfl
          exact hk (find?_eq_some.mp hfind).2.symm
        simp [chargedIn, hne]

lemma depreciateAssets_commits {assets : List Asset}
    {charges : List DepreciationCharge} (hnodup : (assets.map Asset.id).Nodup)
    (hin : ∀ a ∈ assets, a ∈ db.assets)
    (h : Commits (depreciateAssets scope start endAt assets) db charges db') (k : ℕ) :
    db'.assets.find? k = (db.assets.find? k).map (chargedIn start endAt assets) := by
  induction assets generalizing db charges with
  | nil =>
    obtain ⟨_, rfl⟩ := commits_pure.mp h
    have hsame : chargedIn start endAt [] = id := funext fun r => if_neg not_mem_nil
    rw [hsame, Option.map_id]
    rfl
  | cons a rest ih =>
    simp only [depreciateAssets, commits_steps] at h
    obtain ⟨_, t, hfirst, _, _, hrest, _, rfl⟩ := h
    obtain ⟨hnot, hnodup⟩ := nodup_cons.mp hnodup
    obtain ⟨ha, hin⟩ := forall_mem_cons.mp hin
    have hrow := depreciateAsset_commits ha hfirst
    have hne : ∀ r ∈ rest, r.id ≠ a.id := fun r hr hid => hnot (hid ▸ mem_map_of_mem hr)
    have hkept : ∀ r ∈ rest, r ∈ t.assets := by
      intro r hr
      refine (find?_eq_some (k := r.id)).mp ?_ |>.1
      rw [hrow, find?_of_mem (hin r hr), Option.map_some, chargedIn, if_neg]
      rw [mem_singleton]
      exact fun heq => hne r hr (congrArg Asset.id heq)
    rw [ih hnodup hkept hrest, hrow, Option.map_map]
    congr 1
    funext r
    by_cases hr : r = a
    · subst hr
      have hout : r.depreciated (r.due (r.monthCount start endAt)) ∉ rest := fun hmem => hne _ hmem rfl
      simp [chargedIn, hout]
    · simp [chargedIn, hr]

lemma offPapers_assets : OffPapers assets := ⟨fun _ _ _ _ _ _ _ _ _ => rfl⟩

lemma postGroups_assets {runId : ℕ} {groups : List DepreciationCharge} :
    Leaves assets (postGroups scope runId endAt groups) := by
  induction groups with
  | nil => exact leaves_pure
  | cons group rest ih =>
    exact offPapers_assets.ledger.lift.bind fun _ => ih.bind fun _ => leaves_pure

lemma runDepreciation_commits {run : AssetDepreciationRun}
    (h : Commits (runDepreciation scope dto) db run db') (k : ℕ) :
    db'.assets.find? k = (db.assets.find? k).map (Asset.afterRun scope dto) := by
  have hruns : assetDepreciationRun.Apart assets := ⟨fun _ _ => rfl⟩
  simp only [runDepreciation, commits_steps] at h
  obtain ⟨_, _, id, t, hid, _, _, t₁, hcreate, charges, t₂, hcharge, _, entry, t₃, hpost, hupdate⟩ := h
  have hbefore : t₁.assets = db.assets :=
    (hruns.create _ _ _ hcreate).trans (offPapers_assets.freshId _ _ _ hid)
  have hafter : db'.assets = t₂.assets :=
    (hruns.update _ _ _ hupdate).trans (postGroups_assets _ _ _ hpost)
  rw [hafter, depreciateAssets_commits (Table.nodup_findMany _ _)
    (fun a ha => hbefore ▸ (mem_findMany.mp ha).1) hcharge, hbefore]
  refine Option.map_congr fun a ha => ?_
  have hmem := (find?_eq_some.mp ha).1
  simp [chargedIn, Asset.afterRun, mem_findMany, hmem]

/-! ### Runs -/

inductive DepreciationStep (id : ℕ) :
    FleetDb → Option (TenantScope × RunDepreciation) → FleetDb → Prop
  | depreciated {db db' : FleetDb} {scope : TenantScope} {dto : RunDepreciation}
      {run : AssetDepreciationRun} :
      Commits (runDepreciation scope dto) db run db' → DepreciationStep id db (some (scope, dto)) db'
  | elsewhere {db db' : FleetDb} :
      db'.assets.find? id = db.assets.find? id → DepreciationStep id db none db'

def Asset.monthsOf (a : Asset) (calls : List (Option (TenantScope × RunDepreciation))) : List ℤ :=
  calls.flatMap fun call => call.elim [] fun c => a.monthsTouched c.1 c.2

structure Asset.Capitalized (a : Asset) : Prop where
  status : a.status = .active
  residual : 0 ≤ a.residualValue
  accumulated : a.accumulatedDepreciation = 0
  book : a.bookValue = a.acquisitionCost

lemma length_monthsTouched {a : Asset} (hcompany : a.companyId = scope.companyId)
    (hbranch : a.branchId = some scope.branchId) :
    (a.monthsTouched scope dto).length = a.monthCount dto.periodStart dto.periodEnd := by
  rw [Asset.monthsTouched, if_pos ⟨hcompany, hbranch⟩, length_map, List.length_range]

lemma monthCount_eq_zero {a : Asset}
    (h : a.capitalizationDate.any (· ≤ endAt) = false) : a.monthCount start endAt = 0 := by
  rw [Asset.monthCount]
  cases hdate : a.capitalizationDate with
  | none => rfl
  | some date =>
    have hlt : endAt < date := by simpa [hdate] using h
    have hfirst : endAt < max start date := lt_max_of_lt_right hlt
    rw [Option.elim_some, countCalendarMonths, if_pos hfirst, Int.toNat_zero]

/-- An active asset is charged the months that the run touches. -/
lemma afterRun_eq {a : Asset} (hstatus : a.status = .active) (hresidual : 0 ≤ a.residualValue) :
    a.afterRun scope dto = a.depreciated (a.due (a.monthsTouched scope dto).length) := by
  have hskip : a.due (a.monthsTouched scope dto).length = 0 →
      a = a.depreciated (a.due (a.monthsTouched scope dto).length) := fun h => by
    rw [h, a.depreciated_zero]
  by_cases htenant : a.companyId = scope.companyId ∧ a.branchId = some scope.branchId
  · have hlength : (a.monthsTouched scope dto).length = a.monthCount dto.periodStart dto.periodEnd :=
      length_monthsTouched htenant.1 htenant.2
    rw [Asset.afterRun]
    split_ifs with hlooks
    · rw [hlength]
    · apply hskip
      cases hservice : a.capitalizationDate.any (· ≤ dto.periodEnd) with
      | false => rw [hlength, monthCount_eq_zero hservice, a.due_zero]
      | true =>
        have hbook : a.bookValue ≤ 0 := by
          simpa [RunDepreciation.looksAt, htenant, hstatus, hservice] using hlooks
        have hleft : a.left = 0 := by
          refine max_eq_left ?_
          rw [← isCents_zero.toDecimalPlaces]
          exact toDecimalPlaces_mono (by linarith) 2
        rw [a.due_eq, hleft]
        exact min_eq_right (mul_nonneg a.rate_nonneg (Nat.cast_nonneg _))
  · have hlooks : dto.looksAt scope a = false := by
      rw [Bool.eq_false_iff]
      intro hlooks
      simp only [RunDepreciation.looksAt, cond_iff] at hlooks
      exact htenant ⟨hlooks.1.1.1.1, hlooks.1.1.1.2⟩
    rw [Asset.afterRun, if_neg (by simp [hlooks])]
    apply hskip
    rw [Asset.monthsTouched, if_neg htenant, List.length_nil, a.due_zero]

lemma find?_of_run {calls : List (Option (TenantScope × RunDepreciation))} {a : Asset} {id : ℕ}
    (hrun : Run (DepreciationStep id) db calls db') (ha : db.assets.find? id = some a)
    (hstatus : a.status = .active) (hresidual : 0 ≤ a.residualValue) :
    db'.assets.find? id = some (a.depreciated (a.due (a.monthsOf calls).length)) := by
  induction hrun generalizing a with
  | nil s =>
    rw [ha, Asset.monthsOf, List.flatMap_nil, List.length_nil, a.due_zero, a.depreciated_zero]
  | cons hstep _ ih =>
    cases hstep with
    | depreciated h =>
      have hfirst := runDepreciation_commits h id
      rw [ha, Option.map_some, afterRun_eq hstatus hresidual] at hfirst
      rw [ih hfirst hstatus hresidual, Asset.depreciated_depreciated]
      -- charging an asset does not move its months
      refine congrArg (fun x => some (a.depreciated x)) ((a.due_add_due _ _).trans ?_)
      rw [← List.length_append]
      rfl
    | elsewhere h => exact ih (h.trans ha) hstatus hresidual

/-- The asset is charged what the calendar months of the runs amount to, and not more than its
depreciable amount. -/
def ChargedByMonths (a : Asset) (calls : List (Option (TenantScope × RunDepreciation)))
    (db' : FleetDb) : Prop :=
  ∃ a' ∈ db'.assets, a'.id = a.id ∧
    a'.accumulatedDepreciation = a.due (a.monthsOf calls).toFinset.card ∧
    a'.accumulatedDepreciation ≤ max 0 a.depreciable

lemma due_eq_iff {a : Asset} {m n : ℕ} (h : m ≤ n) :
    a.due n = a.due m ↔ n = m ∨ a.rate = 0 ∨ a.left ≤ a.rate * m := by
  have hle : a.rate * m ≤ a.rate * n :=
    mul_le_mul_of_nonneg_left (by exact_mod_cast h) a.rate_nonneg
  rw [a.due_eq, a.due_eq]
  constructor
  · intro heq
    rcases le_or_gt a.left (a.rate * m) with hleft | hlt
    · exact .inr (Or.inr hleft)
    · rw [min_eq_left hlt.le, min_eq_iff] at heq
      obtain ⟨heq, _⟩ | ⟨heq, _⟩ := heq
      · rcases mul_eq_mul_left_iff.mp heq with hcast | hzero
        · exact .inl (by exact_mod_cast hcast)
        · exact .inr (Or.inl hzero)
      · exact absurd heq hlt.ne'
  · rintro (rfl | hzero | hleft)
    · rfl
    · rw [hzero, zero_mul, zero_mul]
    · rw [min_eq_right hleft, min_eq_right (hleft.trans hle)]

/-- In every run, an asset is charged by the calendar months that are covered exactly if no month is
touched twice or the limit makes up for it, and stays below the depreciable amount exactly if it does so
in cents. -/
theorem chargedByMonths_iff {calls : List (Option (TenantScope × RunDepreciation))} {a : Asset}
    (ha : a ∈ db.assets) (hnew : a.Capitalized) (hrun : Run (DepreciationStep a.id) db calls db') :
    ChargedByMonths a calls db' ↔
      ((a.monthsOf calls).Nodup ∨ a.rate = 0 ∨ a.left ≤ a.rate * (a.monthsOf calls).toFinset.card) ∧
        (a.rate * (a.monthsOf calls).length ≤ max 0 a.depreciable ∨ a.left ≤ max 0 a.depreciable) := by
  have hrow := find?_of_run hrun (find?_of_mem ha) hnew.status hnew.residual
  obtain ⟨hmem, _⟩ := find?_eq_some.mp hrow
  have hcharged : ∀ a' ∈ db'.assets, a'.id = a.id →
      a'.accumulatedDepreciation = a.due (a.monthsOf calls).length := by
    intro a' ha' hid
    rw [eq_of_key_eq ha' hmem hid, Asset.depreciated, hnew.accumulated, zero_add]
  have hmonths := due_eq_iff (a := a) (List.toFinset_card_le (a.monthsOf calls))
  have hlimit : a.due (a.monthsOf calls).length ≤ max 0 a.depreciable ↔
      a.rate * (a.monthsOf calls).length ≤ max 0 a.depreciable ∨ a.left ≤ max 0 a.depreciable := by
    rw [a.due_eq, min_le_iff]
  have hnodup : (a.monthsOf calls).length = (a.monthsOf calls).toFinset.card ↔ (a.monthsOf calls).Nodup :=
    eq_comm.trans (Multiset.toFinset_card_eq_card_iff_nodup (m := Multiset.ofList (a.monthsOf calls)))
  rw [← hlimit, ← hnodup, ← hmonths]
  constructor
  · rintro ⟨a', ha', hid, hdue, hle⟩
    rw [hcharged a' ha' hid] at hdue hle
    exact ⟨hdue, hle⟩
  · rintro ⟨hdue, hle⟩
    refine ⟨_, hmem, rfl, ?_⟩
    rw [hcharged _ hmem rfl]
    exact ⟨hdue, hle⟩

def lathe : Asset where
  id := 9
  companyId := 1
  branchId := some 1
  categoryId := 1
  code := "AST-9"
  status := .active
  capitalizationDate := some 1767225600000
  acquisitionCost := 1200
  bookValue := 1200
  usefulLifeMonths := some 12

def workshop : FleetDb :=
  { FleetDb.empty with
    ledger := { AccountingDb.empty with
      postingRules := Table.empty.put
        { id := 1, companyId := 1, code := "ASSET-DEPRECIATION", eventType := "ASSET_DEPRECIATION",
          status := .active,
          journalLines := [{ accountCodeKey := "debit", side := "DEBIT", amountKey := "gross" },
                           { accountCodeKey := "credit", side := "CREDIT", amountKey := "gross" }] }
      accounts := (Table.empty.put ⟨1, 1, "6101", true⟩).put ⟨2, 1, "1491", true⟩ }
    categories := Table.empty.put
      { id := 1, companyId := 1, code := "MESIN", depreciationExpenseCode := some "6101",
        accumulatedDepreciationCode := some "1491" }
    assets := Table.empty.put lathe }

def runsOver (periods : List (ℕ × ℕ × String)) : List (TenantScope × RunDepreciation) :=
  periods.map fun p => (⟨1, 1⟩, ⟨p.1, p.2.1, p.2.2⟩)

def januaryWhole : List (TenantScope × RunDepreciation) :=
  runsOver [(1767225600000, 1769903999999, "DEP-1")]

def januaryHalves : List (TenantScope × RunDepreciation) :=
  runsOver [(1767225600000, 1768521599999, "DEP-1"), (1768521600000, 1769903999999, "DEP-2")]

def depreciationTx (c : TenantScope × RunDepreciation) : FleetTx Unit :=
  discard (runDepreciation c.1 c.2)

lemma depreciationRun_of_execute {calls : List (TenantScope × RunDepreciation)} {id : ℕ}
    (h : (execute (calls.forM depreciationTx) db).1 = .ok ()) :
    Run (DepreciationStep id) db (calls.map some) (execute (calls.forM depreciationTx) db).2 := by
  refine (commits_forM_iff_run.mp (commits_of_execute h)).map fun s c s' hs => ?_
  obtain ⟨_, hrun⟩ := commits_discard.mp hs
  exact .depreciated hrun

lemma lathe_capitalized : lathe.Capitalized := ⟨rfl, le_refl _, rfl, rfl⟩

lemma lathe_mem : lathe ∈ workshop.assets := mem_put_self _ _

/-- Two runs over the halves of January charge the month twice, one run charges it once. -/
theorem januaryHalves_chargedTwice : ∃ db db', lathe ∈ workshop.assets ∧ lathe.Capitalized ∧
      Run (DepreciationStep lathe.id) workshop (januaryHalves.map some) db ∧
      Run (DepreciationStep lathe.id) workshop (januaryWhole.map some) db' ∧
      db.assets.rows.map Asset.accumulatedDepreciation = [200] ∧
      db'.assets.rows.map Asset.accumulatedDepreciation = [100] :=
  ⟨_, _, lathe_mem, lathe_capitalized, depreciationRun_of_execute (by decide +kernel),
    depreciationRun_of_execute (by decide +kernel), by decide +kernel, by decide +kernel⟩

theorem chargedByMonths_januaryWhole : ∃ db, ChargedByMonths lathe (januaryWhole.map some) db := by
  have hrun := @depreciationRun_of_execute workshop januaryWhole lathe.id (by decide +kernel)
  exact ⟨_, (chargedByMonths_iff lathe_mem lathe_capitalized hrun).mpr (by decide +kernel)⟩

end Mayatoko.Fleet
