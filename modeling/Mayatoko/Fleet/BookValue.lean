import Mayatoko.Accounting.StoredJournal
import Mayatoko.Fleet.Depreciation

/-!
# The book value of an asset

The book value is what was paid less what was depreciated, in every state. That it ends at the residual
value after the life of the asset is a matter of the acquisition: its cost has to be in cents and not
below its residual value, and the rounded monthly charges have to add up to at least what is to be
depreciated. The remainder of a charge that was rounded down is not made up for in the last month.
-/

namespace Mayatoko.Fleet

open Core Accounting FleetDb
open Transit (TenantScope)

variable {db db' : FleetDb} {scope : TenantScope}

/-! ### Sound assets -/

structure Asset.Exhaustible (a : Asset) : Prop where
  cost : IsCents a.acquisitionCost
  residual : a.residualValue ≤ a.acquisitionCost
  months : ∀ life ∈ a.life, IsCents a.residualValue ∧ a.depreciable ≤ a.monthly life * life

instance (a : Asset) : Decidable a.Exhaustible :=
  decidable_of_iff (IsCents a.acquisitionCost ∧ a.residualValue ≤ a.acquisitionCost ∧
      ∀ life ∈ a.life, IsCents a.residualValue ∧ a.depreciable ≤ a.monthly life * life)
    ⟨fun h => ⟨h.1, h.2.1, h.2.2⟩, fun h => ⟨h.cost, h.residual, h.months⟩⟩

structure Asset.Sound (a : Asset) : Prop where
  exhaustible : a.Exhaustible
  salvage : 0 ≤ a.residualValue
  accumulated : IsCents a.accumulatedDepreciation
  book : a.bookValue = a.acquisitionCost - a.accumulatedDepreciation
  residual : a.residualValue ≤ a.bookValue

def SoundAssets (db : FleetDb) : Prop := ∀ a ∈ db.assets, a.Sound

def Asset.value (a : Asset) : ℚ × ℚ × ℚ × ℚ × Option ℤ :=
  (a.acquisitionCost, a.residualValue, a.accumulatedDepreciation, a.bookValue, a.usefulLifeMonths)

lemma Asset.Sound.congr {a a' : Asset} (h : a.Sound) (heq : a'.value = a.value) : a'.Sound := by
  cases a
  cases a'
  simp only [Asset.value, Prod.mk.injEq] at heq
  obtain ⟨rfl, rfl, rfl, rfl, rfl⟩ := heq
  exact ⟨⟨h.exhaustible.cost, h.exhaustible.residual, h.exhaustible.months⟩, h.salvage,
    h.accumulated, h.book, h.residual⟩

namespace Asset.Sound

variable {a : Asset} (h : a.Sound)

include h

lemma isCents_book : IsCents a.bookValue := h.book ▸ h.exhaustible.cost.sub h.accumulated

lemma left_eq {life : ℤ} (hlife : a.life = some life) : a.left = a.bookValue - a.residualValue := by
  have hresidual := (h.exhaustible.months life hlife).1
  rw [Asset.left, (h.isCents_book.sub hresidual).toDecimalPlaces]
  exact max_eq_right (sub_nonneg.mpr h.residual)

lemma due_le (months : ℕ) : a.due months ≤ a.bookValue - a.residualValue := by
  cases hlife : a.life with
  | none =>
    rw [Asset.due, hlife, Option.elim_none]
    exact sub_nonneg.mpr h.residual
  | some life =>
    rw [← h.left_eq hlife, a.due_eq]
    exact min_le_right _ _

lemma depreciated (months : ℕ) : (a.depreciated (a.due months)).Sound := by
  have hle := h.due_le months
  have hbook := h.book
  refine ⟨⟨h.exhaustible.cost, h.exhaustible.residual, h.exhaustible.months⟩, h.salvage,
    h.accumulated.add (a.isCents_due months), ?_, ?_⟩
  · simp only [Asset.depreciated]
    linarith
  · simp only [Asset.depreciated]
    linarith

lemma afterRun (dto : RunDepreciation) : (a.afterRun scope dto).Sound := by
  rw [Asset.afterRun]
  split
  · exact h.depreciated _
  · exact h

lemma due_life {life : ℤ} (hlife : a.life = some life) (hnew : a.accumulatedDepreciation = 0) :
    a.due life.toNat = a.bookValue - a.residualValue := by
  have hpos : 0 < life := by simpa using (Option.filter_eq_some_iff.mp hlife).2
  have hcast : ((life.toNat : ℕ) : ℚ) = life := by exact_mod_cast Int.toNat_of_nonneg hpos.le
  have hrate : a.depreciable ≤ a.rate * life := by
    rw [Asset.rate, hlife, Option.elim_some]
    refine (h.exhaustible.months life hlife).2.trans (mul_le_mul_of_nonneg_right ?_ ?_)
    · exact le_max_right _ _
    · exact_mod_cast hpos.le
  have hbook : a.bookValue - a.residualValue = a.depreciable := by
    rw [h.book, hnew, sub_zero, Asset.depreciable]
  rw [a.due_eq, h.left_eq hlife, hcast, hbook]
  exact min_eq_right hrate

end Asset.Sound

/-! ### The journal of a disposal -/

def disposalLines : List JournalRuleLine :=
  [{ accountCodeKey := "settlement", side := "DEBIT", amountKey := "settlement" },
    { accountCodeKey := "accumulatedDepreciation", side := "DEBIT",
      amountKey := "accumulatedDepreciation" },
    { accountCodeKey := "loss", side := "DEBIT", amountKey := "loss" },
    { accountCodeKey := "asset", side := "CREDIT", amountKey := "assetCost" },
    { accountCodeKey := "outputTax", side := "CREDIT", amountKey := "outputTax" },
    { accountCodeKey := "gain", side := "CREDIT", amountKey := "gain" }]

/-- What an amount on the account with a code is on the account `x`. -/
def onAccount (ledger : AccountingDb) (branchId : ℕ) (code : String) (amount : ℚ) (x : ℕ) : ℚ :=
  if (ledger.accounts.find? (branchId, code)).elim 0 Account.id = x then amount else 0

/-- The entry takes cost and accumulated depreciation of the asset out of the books, against proceeds, tax
and the difference. -/
structure RemovesAsset (scope : TenantScope) (dto : DisposeAsset) (a : Asset)
    (category : AssetCategory) (tax : TaxedAmount) (db : FleetDb) (entry : JournalEntry) : Prop where
  balanced : entry.debits = entry.credits
  moves : ∀ x, entry.movement x =
    onAccount db.ledger scope.branchId (if dto.settlement = "BANK" then "1102" else "1101")
      (toDecimalPlaces tax.gross 2) x +
    onAccount db.ledger scope.branchId (category.accumulatedDepreciationCode.getD "1491")
      a.accumulatedDepreciation x +
    onAccount db.ledger scope.branchId "6202" (DisposeAsset.loss a tax) x +
    onAccount db.ledger scope.branchId (category.assetAccountCode.getD "1401") (-a.acquisitionCost) x +
    onAccount db.ledger scope.branchId (db.payableAccount dto.soldTaxCode)
      (-toDecimalPlaces tax.tax 2) x +
    onAccount db.ledger scope.branchId "4202" (-DisposeAsset.gain a tax) x

section

variable {dto : DisposeAsset} {a : Asset} {category : AssetCategory} {tax : TaxedAmount}
  {rule : AccountingPostingRule}

lemma isCents_gain : IsCents (DisposeAsset.gain a tax) := isCents_toDecimalPlaces _

lemma isCents_loss : IsCents (DisposeAsset.loss a tax) := isCents_toDecimalPlaces _

lemma toDecimalPlaces_zero : toDecimalPlaces 0 2 = 0 := isCents_zero.toDecimalPlaces

lemma disposal_balanced (hrule : rule.journalLines = disposalLines)
    (h : rule.debitTotal (dto.event scope a category tax db) =
      rule.creditTotal (dto.event scope a category tax db)) :
    tax.gross + (a.accumulatedDepreciation + DisposeAsset.loss a tax) =
      a.acquisitionCost + (tax.tax + DisposeAsset.gain a tax) := by
  rw [AccountingPostingRule.debitTotal, AccountingPostingRule.creditTotal,
    AccountingPostingRule.total, AccountingPostingRule.total,
    AccountingPostingRule.sum_usable (fun line hzero => by rw [hzero, ite_self]),
    AccountingPostingRule.sum_usable (fun line hzero => by rw [hzero, ite_self]), hrule] at h
  simpa [disposalLines, DisposeAsset.event, PostOperationalEventInput.amount, List.lookup_cons] using h

lemma disposal_roundsAlike (ha : a.Sound) (hrule : rule.journalLines = disposalLines)
    (h : rule.debitTotal (dto.event scope a category tax db) =
      rule.creditTotal (dto.event scope a category tax db)) :
    rule.RoundsAlike (dto.event scope a category tax db) := by
  have hzero : storageCarry 0 = 0 := storageCarry_of_isCents isCents_zero
  have hbalanced := disposal_balanced hrule h
  have hcarry : storageCarry tax.gross = storageCarry tax.tax := by
    refine storageCarry_congr ?_
    have heq : tax.gross - tax.tax = a.acquisitionCost + DisposeAsset.gain a tax -
        (a.accumulatedDepreciation + DisposeAsset.loss a tax) := by linarith
    rw [heq]
    exact (ha.exhaustible.cost.add isCents_gain).sub (ha.accumulated.add isCents_loss)
  rw [AccountingPostingRule.RoundsAlike, AccountingPostingRule.carry, AccountingPostingRule.carry,
    AccountingPostingRule.strayTotal, AccountingPostingRule.total,
    AccountingPostingRule.sum_usable (fun line hamount => by rw [hamount, hzero, ite_self]),
    AccountingPostingRule.sum_usable (fun line hamount => by rw [hamount, hzero, ite_self]),
    AccountingPostingRule.sum_usable (fun line hamount => by rw [hamount, ite_self]), hrule]
  simp [disposalLines, DisposeAsset.event, PostOperationalEventInput.amount, List.lookup_cons, hcarry,
    storageCarry_of_isCents ha.exhaustible.cost, storageCarry_of_isCents ha.accumulated,
    storageCarry_of_isCents isCents_gain, storageCarry_of_isCents isCents_loss]

lemma disposal_movement (ha : a.Sound) (hrule : rule.journalLines = disposalLines) (x : ℕ) :
    (entryOf (dto.event scope a category tax db) db.ledger rule).movement x =
      onAccount db.ledger scope.branchId (if dto.settlement = "BANK" then "1102" else "1101")
        (toDecimalPlaces tax.gross 2) x +
      onAccount db.ledger scope.branchId (category.accumulatedDepreciationCode.getD "1491")
        a.accumulatedDepreciation x +
      onAccount db.ledger scope.branchId "6202" (DisposeAsset.loss a tax) x +
      onAccount db.ledger scope.branchId (category.assetAccountCode.getD "1401") (-a.acquisitionCost) x +
      onAccount db.ledger scope.branchId (db.payableAccount dto.soldTaxCode)
        (-toDecimalPlaces tax.tax 2) x +
      onAccount db.ledger scope.branchId "4202" (-DisposeAsset.gain a tax) x := by
  rw [JournalEntry.movement, entryOf, AccountingPostingRule.journal, map_map,
    AccountingPostingRule.sum_usable, hrule]
  · simp [disposalLines, DisposeAsset.event, PostOperationalEventInput.amount,
      PostOperationalEventInput.accountCode, List.lookup_cons, storedLine, onAccount,
      ha.exhaustible.cost.toDecimalPlaces, ha.accumulated.toDecimalPlaces,
      isCents_gain.toDecimalPlaces, isCents_loss.toDecimalPlaces]
    ring
  · intro line hzero
    simp [storedLine, hzero, toDecimalPlaces_zero]

lemma Posted.removesAsset {l : AccountingDb} {ev : AccountingEvent} (ha : a.Sound)
    (hrule : rule.journalLines = disposalLines)
    (h : Posted (dto.event scope a category tax db) db.ledger rule ev l) :
    RemovesAsset scope dto a category tax db
      (entryOf (dto.event scope a category tax db) db.ledger rule) :=
  ⟨h.entry_balanced_iff.mpr (disposal_roundsAlike ha hrule h.balanced), disposal_movement ha hrule⟩

end

/-! ### Runs -/

inductive AssetCall
  | acquire (scope : TenantScope) (dto : CreateAsset)
  | runDepreciation (scope : TenantScope) (dto : RunDepreciation)
  | dispose (scope : TenantScope) (assetId : ℕ) (dto : DisposeAsset)

def AssetCall.tx : AssetCall → FleetTx Unit
  | acquire scope dto => discard (Fleet.acquire scope dto)
  | runDepreciation scope dto => discard (Fleet.runDepreciation scope dto)
  | dispose scope assetId dto => discard (Fleet.dispose scope assetId dto)

inductive AssetStep : FleetDb → Option AssetCall → FleetDb → Prop
  | call {db db' : FleetDb} {c : AssetCall} : Commits c.tx db () db' → AssetStep db (some c) db'
  | elsewhere {db db' : FleetDb} :
      (∀ a' ∈ db'.assets, ∃ a ∈ db.assets, a'.value = a.value) → AssetStep db none db'

def CreateAsset.acquired (scope : TenantScope) (dto : CreateAsset) (db : FleetDb) : Option Asset :=
  (db.categories.find? dto.categoryId).bind fun category =>
    (execute (calculateTax dto.taxCodeId dto.acquisitionCost scope.companyId dto.acquisitionDate
      [.asset, .purchase, .other]) db.ledger).1.toOption.map (dto.row scope 0 category)

def AcquiresExhaustible (db : FleetDb) : Option AssetCall → Prop
  | some (.acquire scope dto) => ∀ a ∈ dto.acquired scope db, a.Exhaustible
  | _ => True

instance (db : FleetDb) (c : Option AssetCall) : Decidable (AcquiresExhaustible db c) := by
  unfold AcquiresExhaustible
  split <;> infer_instance

lemma acquire_commits {dto : CreateAsset} {id : ℕ} (h : Commits (acquire scope dto) db id db') :
    ∃ a ∈ dto.acquired scope db, db'.assets = db.assets.put { a with id } := by
  simp only [acquire, commits_bind, commits_get, commits_require, commits_pure, TableOf.commits_create] at h
  obtain ⟨category, _, hcategory, _, _, hwarehouse, _, _, hemployee, _, _, hsupplier, tax, _, htax, _, _,
    ⟨_, rfl⟩, _, _, ⟨_, rfl⟩, id, t, hid, _, _, ⟨rfl, rfl⟩, _, _, ⟨_, rfl⟩, _, _, ⟨_, rfl⟩, _, t₁, hpost,
    rfl, rfl⟩ := h
  obtain ⟨⟨hfound, _⟩, rfl⟩ := commits_findScoped.mp hcategory
  obtain rfl := assertWarehouse_readOnly.eq hwarehouse
  obtain rfl := assertEmployee_readOnly.eq hemployee
  obtain rfl := assertSupplier_readOnly.eq hsupplier
  obtain ⟨ledger, hledger, _⟩ := Part.commits_lift.mp htax
  obtain rfl := ReadOnly.eq (Part.readOnly_lift (fun _ => rfl) leaves_calculateTax) htax
  refine ⟨dto.row scope 0 category tax, ?_, ?_⟩
  · have hexecute := congrArg Prod.fst (execute_of_commits hledger)
    rw [CreateAsset.acquired, hfound, Option.bind_some]
    exact hexecute ▸ rfl
  · have hposted := offPapers_assets.ledger.lift _ _ _ hpost
    rw [hposted]
    exact congrArg (Table.put · _) (offPapers_assets.freshId _ _ _ hid)

/-- What a disposal does: it marks the asset and posts its journal, unless that was done before. -/
structure Disposed (scope : TenantScope) (assetId : ℕ) (dto : DisposeAsset) (db db' : FleetDb) :
    Prop where
  assets : ∀ a' ∈ db'.assets, ∃ a ∈ db.assets, a'.value = a.value
  journal : db'.ledger = db.ledger ∨ ∃ a ∈ db.assets, a.id = assetId ∧ ∃ category tax rule ev,
    db.categories.find? a.categoryId = some category ∧ Commits (dto.tax scope) db tax db ∧
    Posted (dto.event scope a category tax db) db.ledger rule ev db'.ledger

lemma disposeTax_readOnly {dto : DisposeAsset} : ReadOnly (dto.tax scope) := by
  rw [DisposeAsset.tax]
  exact (Part.readOnly_lift (fun _ => rfl) leaves_calculateTax).ite leaves_pure

lemma assertAssetOperationallyFree_readOnly {id : ℕ} : ReadOnly (assertAssetOperationallyFree id) :=
  leaves_get.bind fun _ => leaves_refuse.bind fun _ => leaves_refuse

lemma disposeCheck_readOnly {dto : DisposeAsset} : ReadOnly dto.check :=
  leaves_require.bind fun _ => leaves_require.bind fun _ => leaves_require

lemma retireAsset_commits {a a' : Asset} {dto : DisposeAsset} (ha : a ∈ db.assets)
    (h : Commits (retireAsset scope a dto) db a' db') : Disposed scope a.id dto db db' := by
  obtain ⟨_, h⟩ := commits_require_bind.mp h
  obtain ⟨_, _, hfree, h⟩ := commits_bind.mp h
  obtain rfl := assertAssetOperationallyFree_readOnly.eq hfree
  obtain ⟨category, _, hcategory, h⟩ := commits_bind.mp h
  obtain ⟨⟨hfound, _⟩, rfl⟩ := commits_findScoped.mp hcategory
  obtain ⟨inspection, _, hinspection, h⟩ := commits_bind.mp h
  obtain rfl := findScoped_readOnly.eq hinspection
  obtain ⟨_, h⟩ := commits_require_bind.mp h
  obtain ⟨_, _, hcheck, h⟩ := commits_bind.mp h
  obtain rfl := disposeCheck_readOnly.eq hcheck
  obtain ⟨tax, _, htax, h⟩ := commits_bind.mp h
  obtain rfl := disposeTax_readOnly.eq htax
  obtain ⟨_, h⟩ := commits_require_bind.mp h
  obtain ⟨ev, _, hpost, h⟩ := commits_bind.mp (commits_get_bind.mp h)
  obtain ⟨_, _, hupdate, h⟩ := commits_bind.mp h
  obtain ⟨r, hr, rfl, rfl⟩ := TableOf.commits_update.mp hupdate
  obtain ⟨_, _, hvehicles, h⟩ := commits_bind.mp h
  obtain ⟨_, rfl⟩ := TableOf.commits_updateMany.mp hvehicles
  obtain ⟨rfl, rfl⟩ := commits_pure.mp h
  obtain ⟨ledger, hledger, rfl⟩ := Part.commits_lift.mp hpost
  obtain rfl := mem_unique (find?_of_mem ha) hr
  constructor
  case assets =>
    intro x hx
    rcases mem_put.mp hx with rfl | ⟨hx, _⟩
    · exact ⟨a, ha, rfl⟩
    · exact ⟨x, hx, rfl⟩
  case journal =>
    obtain ⟨_, _, rfl⟩ | ⟨rule, hposted⟩ := postOperationalEvent_commits hledger
    · exact .inl rfl
    · exact .inr ⟨a, ha, rfl, category, tax, rule, ev, hfound, htax, hposted⟩

lemma dispose_commits {assetId : ℕ} {dto : DisposeAsset} {a' : Asset}
    (h : Commits (dispose scope assetId dto) db a' db') : Disposed scope assetId dto db db' := by
  simp only [dispose, commits_steps, commits_ite] at h
  obtain ⟨a, _, ha, ⟨_, _, rfl⟩ | ⟨_, hretire⟩⟩ := h
  · obtain ⟨_, rfl⟩ := commits_findScoped.mp ha
    exact ⟨fun a ha => ⟨a, ha, rfl⟩, .inl rfl⟩
  · obtain ⟨⟨hfound, _⟩, rfl⟩ := commits_findScoped.mp ha
    obtain ⟨hmem, rfl⟩ := find?_eq_some.mp hfound
    exact retireAsset_commits hmem hretire

lemma SoundAssets.put {a : Asset} (h : SoundAssets db) (hassets : db'.assets = db.assets.put a)
    (ha : a.Sound) : SoundAssets db' := by
  intro x hx
  rcases mem_put.mp (hassets ▸ hx) with rfl | ⟨hx, _⟩
  · exact ha
  · exact h x hx

lemma Asset.Exhaustible.sound {dto : CreateAsset} {a : Asset} (h : a.Exhaustible)
    (ha : a ∈ dto.acquired scope db) (id : ℕ) : Asset.Sound { a with id } := by
  simp only [CreateAsset.acquired, Option.mem_def, Option.bind_eq_some_iff, Option.map_eq_some_iff] at ha
  obtain ⟨category, _, tax, _, rfl⟩ := ha
  refine ⟨⟨h.cost, h.residual, h.months⟩, ?_, isCents_zero, ?_, h.residual⟩
  · simp only [CreateAsset.row]
    cases dto.residualValue with
    | none => exact le_refl _
    | some x => exact x.coe_nonneg
  · exact (sub_zero _).symm

lemma soundAssets_of_step {c : Option AssetCall} (hdb : SoundAssets db)
    (hguard : AcquiresExhaustible db c) (h : AssetStep db c db') : SoundAssets db' := by
  have hsame : (∀ a' ∈ db'.assets, ∃ a ∈ db.assets, a'.value = a.value) → SoundAssets db' := by
    intro hvalues a' ha'
    obtain ⟨a, ha, heq⟩ := hvalues a' ha'
    exact (hdb a ha).congr heq
  cases h with
  | @call _ c hc =>
    cases c with
    | acquire scope dto =>
      obtain ⟨id, hc⟩ := commits_discard.mp hc
      obtain ⟨a, ha, hassets⟩ := acquire_commits hc
      exact hdb.put hassets ((hguard a ha).sound ha id)
    | runDepreciation scope dto =>
      obtain ⟨_, hc⟩ := commits_discard.mp hc
      intro a' ha'
      have hrow := runDepreciation_commits hc a'.id
      rw [find?_of_mem ha', eq_comm, Option.map_eq_some_iff] at hrow
      obtain ⟨a, ha, rfl⟩ := hrow
      exact (hdb a (find?_eq_some.mp ha).1).afterRun dto
    | dispose scope assetId dto =>
      obtain ⟨_, hc⟩ := commits_discard.mp hc
      exact hsame (dispose_commits hc).assets
  | elsewhere hvalues => exact hsame hvalues

structure AssetsInBooks (db : FleetDb) : Prop where
  book : ∀ a ∈ db.assets, a.bookValue = a.acquisitionCost - a.accumulatedDepreciation ∧
    a.residualValue ≤ a.bookValue
  exhausted : ∀ a ∈ db.assets, a.status = .active → a.accumulatedDepreciation = 0 →
    ∀ life ∈ a.life, ∀ calls db', Run (DepreciationStep a.id) db calls db' →
      (a.monthsOf calls).length = life.toNat →
        ∃ a' ∈ db'.assets, a'.id = a.id ∧ a'.bookValue = a'.residualValue
  disposed : ∀ scope assetId dto a' db', Commits (dispose scope assetId dto) db a' db' →
    (∀ rule, db.ledger.activeRule scope.companyId "ASSET_DISPOSAL" dto.disposedAt = some rule →
      rule.journalLines = disposalLines) →
    db'.ledger = db.ledger ∨ ∃ a ∈ db.assets, a.id = assetId ∧ ∃ category tax,
      db.categories.find? a.categoryId = some category ∧ Commits (dto.tax scope) db tax db ∧
      ∃ entry ∈ db'.ledger.journalEntries, db.ledger.journalEntries.find? entry.id = none ∧
        RemovesAsset scope dto a category tax db entry

lemma SoundAssets.inBooks (h : SoundAssets db) : AssetsInBooks db := by
  constructor
  case book => exact fun a ha => ⟨(h a ha).book, (h a ha).residual⟩
  case exhausted =>
    intro a ha hstatus hnew life hlife calls db' hrun hmonths
    have hrow := find?_of_run hrun (find?_of_mem ha) hstatus (h a ha).salvage
    obtain ⟨hmem, _⟩ := find?_eq_some.mp hrow
    refine ⟨_, hmem, rfl, ?_⟩
    rw [hmonths, (h a ha).due_life hlife hnew]
    simp only [Asset.depreciated]
    exact sub_sub_cancel _ _
  case disposed =>
    intro scope assetId dto a' db' hcommits hrule
    obtain hsame | ⟨a, ha, hid, category, tax, rule, ev, hcategory, htax, hposted⟩ :=
      (dispose_commits hcommits).journal
    · exact .inl hsame
    · refine .inr ⟨a, ha, hid, category, tax, hcategory, htax,
        entryOf (dto.event scope a category tax db) db.ledger rule, ?_, hposted.freshEntry, ?_⟩
      · exact hposted.entries ▸ mem_put_self _ _
      · exact Posted.removesAsset (h a ha) (hrule rule hposted.rule_eq) hposted

def emptyWorkshop : FleetDb :=
  { workshop with
    assets := .empty
    ledger := { workshop.ledger with
      postingRules := workshop.ledger.postingRules.put
        { id := 2, companyId := 1, code := "ASSET-ACQUISITION-CASH",
          eventType := "ASSET_ACQUISITION_CASH", status := .active,
          journalLines := [{ accountCodeKey := "asset", side := "DEBIT", amountKey := "asset" },
                           { accountCodeKey := "settlement", side := "CREDIT",
                             amountKey := "settlement" }] }
      accounts := (workshop.ledger.accounts.put ⟨3, 1, "1401", true⟩).put ⟨4, 1, "1101", true⟩ } }

def drill (cost : ℚ≥0) : CreateAsset where
  categoryId := 1
  code := "AST-1"
  acquisitionDate := 1767225600000
  acquisitionCost := cost
  usefulLifeMonths := some 3
  paymentMode := some "CASH"

def acquireDrill (cost : ℚ≥0) : AssetCall := .acquire ⟨1, 1⟩ (drill cost)

def drillBought (cost : ℚ≥0) : FleetDb := (execute (acquireDrill cost).tx emptyWorkshop).2

def firstQuarter : List (TenantScope × RunDepreciation) :=
  runsOver [(1767225600000, 1769903999999, "DEP-1"), (1769904000000, 1772323199999, "DEP-2"),
    (1772323200000, 1775001599999, "DEP-3")]

lemma emptyWorkshop_assets : emptyWorkshop.assets.rows = [] := rfl

lemma assetRun_of_execute {c : AssetCall} (h : (execute c.tx db).1 = .ok ()) :
    Run AssetStep db [some c] (execute c.tx db).2 :=
  .cons (.call (commits_of_execute h)) (.nil _)

end Mayatoko.Fleet
