import Mayatoko.Fleet.Schema

/-!
# Fixed assets

`acquire`, `completeMaintenance`, `runDepreciation` and `dispose` of `AssetsService`, each one
serializable transaction. The scope that a request may name is taken to be the one of the user, dates
enter as parsed, the clock of the server runs in UTC and document numbers enter as drawn.
-/

namespace Mayatoko.Fleet

open Core Accounting Common FleetDb
open Transit (TenantScope)

variable (scope : TenantScope)

def paymentModes : List String := ["CASH", "BANK", "CREDIT"]

/-! ### Acquisition -/

/-- A request for an asset; the validation only lets amounts that are not negative pass. -/
structure CreateAsset where
  categoryId : ℕ
  code : String
  warehouseId : Option ℕ := none
  assignedEmployeeId : Option ℕ := none
  supplierId : Option ℕ := none
  acquisitionDate : ℕ
  acquisitionCost : ℚ≥0
  residualValue : Option ℚ≥0 := none
  usefulLifeMonths : Option ℤ := none
  taxCodeId : Option ℕ := none
  paymentMode : Option String := none

namespace CreateAsset

variable (dto : CreateAsset)

def mode : String := (dto.paymentMode.getD "CREDIT").toUpper

def row (id : ℕ) (category : AssetCategory) (tax : TaxedAmount) : Asset where
  id := id
  companyId := scope.companyId
  branchId := some scope.branchId
  categoryId := category.id
  code := dto.code
  status := .active
  capitalizationDate := some dto.acquisitionDate
  acquisitionCost := tax.net
  residualValue := dto.residualValue.elim 0 (↑)
  bookValue := tax.net
  usefulLifeMonths := dto.usefulLifeMonths.or category.usefulLifeMonths
  depreciationMethod := category.depreciationMethod

def event (id : ℕ) (category : AssetCategory) (tax : TaxedAmount) (db : FleetDb) :
    PostOperationalEventInput where
  companyId := scope.companyId
  branchId := scope.branchId
  eventType := if dto.mode = "CREDIT" then "ASSET_ACQUISITION_CREDIT" else "ASSET_ACQUISITION_CASH"
  sourceType := "Asset"
  sourceId := toString id
  idempotencyKey := s!"asset-acquire:{id}"
  businessDate := some dto.acquisitionDate
  amounts := [("asset", tax.net), ("inputTax", tax.tax), ("gross", tax.gross),
    ("settlement", tax.gross)]
  accountCodes := [("asset", category.assetAccountCode.getD "1401"),
    ("settlement", settlementAccount dto.mode), ("inputTax", db.receivableAccount dto.taxCodeId)]
  taxLines := taxLinesOf dto.taxCodeId .input tax

end CreateAsset

/-- Returns the id of the asset. -/
def acquire (dto : CreateAsset) : FleetTx ℕ := do
  let category ← findScoped (fun db => db.categories.find? dto.categoryId)
    (fun c => c.companyId = scope.companyId && c.isActive) "AssetCategory"
  assertWarehouse scope dto.warehouseId
  assertEmployee scope dto.assignedEmployeeId
  assertSupplier scope dto.supplierId
  let tax ← ledgerPart.lift (calculateTax dto.taxCodeId dto.acquisitionCost scope.companyId
    dto.acquisitionDate [.asset, .purchase, .other])
  require (dto.mode ∈ paymentModes)
    (.badRequest "Payment mode aset hanya CASH, BANK, atau CREDIT.")
  require (dto.mode ≠ "CREDIT" ∨ dto.supplierId ≠ none) (.badRequest
    "Akuisisi aset kredit wajib memiliki supplier agar utang dapat direkonsiliasi.")
  let id ← freshId
  let db ← get
  require (db.assets.findMany (fun a => a.companyId = scope.companyId && a.code = dto.code) = [])
    .uniqueViolation
  asset.create (dto.row scope id category tax) .uniqueViolation
  let _ ← ledgerPart.lift (postOperationalEvent (dto.event scope id category tax db))
  pure id

/-! ### Maintenance -/

/-- A part that a work order uses. Serials and batch are named by their keys, the serials as already
trimmed; `sku` is the one that the messages print. -/
structure MaintenancePartUsage where
  (warehouseId productId : ℕ)
  sku : String
  quantity : ℕ
  batchId : Option (ℕ × ℕ × String) := none
  serialIds : List String := []

structure CompleteMaintenance where
  actualCost : ℚ
  odometer : Option ℕ := none
  inspectionId : Option ℕ := none
  taxCodeId : Option ℕ := none
  paymentMode : Option String := none
  completedAt : ℕ
  parts : List MaintenancePartUsage := []

def CompleteMaintenance.mode (dto : CompleteMaintenance) : String :=
  (dto.paymentMode.getD "CASH").toUpper

namespace MaintenancePartUsage

variable (part : MaintenancePartUsage)

def checkTracking (product : Stock.Product) : Stock.StockTx Unit := do
  require (product.trackSerial = false ∨ part.serialIds.eraseDups.length = part.quantity)
    (.badRequest (s!"Part {part.sku} memakai serial; serialIds unik wajib berjumlah sama dengan " ++
      "quantity."))
  require (product.trackSerial = true ∨ part.serialIds = []) (.badRequest
    s!"Part {part.sku} tidak memakai serial; serialIds tidak boleh dikirim.")
  require (product.trackBatch = false ∨ part.batchId ≠ none)
    (.badRequest s!"Part {part.sku} wajib memilih batch.")

def takeSerials (workId : ℕ) : Stock.StockTx Unit := do
  let db ← get
  let isUsed (s : Stock.InventorySerial) : Bool := part.serialIds.contains s.serialNumber &&
    s.warehouseId = part.warehouseId && s.productId = part.productId && s.status = .available
  require ((db.serials.findMany isUsed).length = part.quantity) (.badRequest
    (s!"Serial part {part.sku} tidak lengkap, tidak tersedia, atau tidak berada pada gudang yang " ++
      "dipilih."))
  let changed ← Stock.Db.inventorySerial.updateMany isUsed fun s => { s with
    status := .consumed, referenceType := some "MaintenanceWorkOrder",
    referenceId := some (toString workId) }
  require (changed = part.quantity) (.badRequest
    s!"Status serial part {part.sku} berubah; ulangi transaksi maintenance.")

def takeBatch (batchId : ℕ × ℕ × String) : Stock.StockTx Unit := do
  let db ← get
  let batch ← orThrow ((db.batches.find? batchId).filter fun b =>
    b.warehouseId = part.warehouseId && b.productId = part.productId)
    (tenantAccessDenied "InventoryBatch")
  require ((part.quantity : ℤ) ≤ batch.quantity - batch.reserved)
    (.badRequest s!"Stok batch part {part.sku} tidak mencukupi.")
  Stock.Db.inventoryBatch.updateOne
    (fun b => b.key = batch.key && batch.reserved + part.quantity ≤ b.quantity)
    (fun b => { b with quantity := b.quantity - part.quantity })
    (.badRequest s!"Stok batch part {part.sku} berubah; ulangi transaksi.")

def consume (workId : ℕ) : Stock.StockTx ℚ := do
  let db ← get
  let product ← orThrow (db.products.find? part.productId) (tenantAccessDenied "Product")
  part.checkTracking product
  let e := Failure.badRequest s!"Stok part {part.sku} tidak mencukupi untuk maintenance."
  let inventory ← orThrow (db.inventory.find? (part.warehouseId, part.productId)) e
  require ((part.quantity : ℤ) ≤ inventory.available ∧ (part.quantity : ℤ) ≤ inventory.quantity) e
  if product.trackSerial then part.takeSerials workId else pure ()
  part.batchId.elim (pure ()) part.takeBatch
  let allocations ← Stock.consumeAvailableLocationStock part.warehouseId part.productId part.quantity
  Stock.Db.inventoryRow.updateOne
    (fun i => i.key = inventory.key && part.quantity ≤ i.quantity && part.quantity ≤ i.available)
    (fun i => { i with
      quantity := i.quantity - part.quantity, available := i.available - part.quantity })
    (.badRequest s!"Stok part {part.sku} berubah; ulangi transaksi.")
  let after ← get
  let updated ← orThrow (after.inventory.find? inventory.key) .recordNotFound
  Stock.createMovements part.warehouseId part.productId .adjustmentOut updated.quantity
    "MaintenanceWorkOrder" workId (Stock.negated allocations)
  pure (toDecimalPlaces (product.costPrice * part.quantity) 2)

end MaintenancePartUsage

def consumeParts (workId : ℕ) : List MaintenancePartUsage → FleetTx ℚ
  | [] => pure 0
  | part :: rest => do
    assertWarehouse scope (some part.warehouseId)
    let cost ← stockPart.lift (part.consume workId)
    let partsCost ← consumeParts workId rest
    pure (cost + partsCost)

def externalMaintenanceEvent (work : MaintenanceWorkOrder) (category : AssetCategory)
    (dto : CompleteMaintenance) (taxCodeId : Option ℕ) (tax : TaxedAmount) (db : FleetDb) :
    PostOperationalEventInput where
  companyId := scope.companyId
  branchId := scope.branchId
  eventType := if dto.mode = "CREDIT" then "ASSET_MAINTENANCE_CREDIT" else "ASSET_MAINTENANCE_CASH"
  sourceType := "MaintenanceWorkOrder"
  sourceId := toString work.id
  idempotencyKey := s!"maintenance-complete:{work.id}"
  businessDate := some dto.completedAt
  amounts := [("expense", tax.net), ("inputTax", tax.tax), ("gross", tax.gross),
    ("settlement", tax.gross)]
  accountCodes := [("expense", category.maintenanceExpenseCode.getD "5203"),
    ("inputTax", db.receivableAccount taxCodeId), ("settlement", settlementAccount dto.mode)]
  taxLines := taxLinesOf taxCodeId .input tax

def partsMaintenanceEvent (work : MaintenanceWorkOrder) (category : AssetCategory)
    (completedAt : ℕ) (partsCost : ℚ) : PostOperationalEventInput where
  companyId := scope.companyId
  branchId := scope.branchId
  eventType := "ASSET_MAINTENANCE_PARTS"
  sourceType := "MaintenanceWorkOrderParts"
  sourceId := toString work.id
  idempotencyKey := s!"maintenance-parts:{work.id}"
  businessDate := some completedAt
  amounts := [("gross", partsCost)]
  accountCodes := [("debit", category.maintenanceExpenseCode.getD "5203"), ("credit", "1301")]

def postPositive (amount : ℚ) (input : PostOperationalEventInput) :
    FleetTx (Option AccountingEvent) :=
  if 0 < amount then do
    let event ← ledgerPart.lift (postOperationalEvent input)
    pure (some event)
  else pure none

def checkOdometer (vehicleId : Option ℕ) (odometer : Option ℕ) : FleetTx Unit :=
  match vehicleId, odometer with
  | some vehicleId, some odometer => do
    let vehicle ← scopedVehicle scope vehicleId
    require (vehicle.currentOdometer ≤ odometer) (.badRequest
      "Odometer maintenance tidak boleh lebih kecil dari odometer kendaraan saat ini.")
  | _, _ => pure ()

def recordOdometer (vehicleId : Option ℕ) (odometer : Option ℕ) : FleetTx Unit :=
  match vehicleId, odometer with
  | some vehicleId, some odometer => do
    let _ ← FleetDb.vehicle.update vehicleId (fun v => { v with currentOdometer := odometer })
      .recordNotFound
    pure ()
  | _, _ => pure ()

def checkMaintenanceInspection (workId : ℕ) : Option ℕ → FleetTx Unit
  | none => pure ()
  | some id => do
    let inspection ← assertInspection scope id "MaintenanceWorkOrder" workId
    require (inspection.status ∈ [.passed, .approved])
      (.badRequest "Inspeksi maintenance belum lulus untuk penyelesaian work order.")

def finishMaintenance (work : MaintenanceWorkOrder) (dto : CompleteMaintenance) :
    FleetTx MaintenanceWorkOrder := do
  let asset ← scopedAsset scope work.assetId
  let category ← findCategory scope asset.categoryId
  let inspectionId := dto.inspectionId.or work.inspectionId
  checkMaintenanceInspection scope work.id inspectionId
  require (dto.mode ∈ paymentModes)
    (.badRequest "Payment mode maintenance hanya CASH, BANK, atau CREDIT.")
  require (dto.mode ≠ "CREDIT" ∨ work.vendorId ≠ none) (.badRequest
    ("Maintenance kredit wajib memiliki supplier pada work order agar utang dapat " ++
      "direkonsiliasi."))
  let taxCodeId := dto.taxCodeId.or work.taxCodeId
  let tax ← ledgerPart.lift (calculateTax taxCodeId dto.actualCost scope.companyId dto.completedAt
    [.expense, .asset, .other])
  checkOdometer scope work.vehicleId dto.odometer
  let partsCost ← consumeParts scope work.id dto.parts
  let db ← get
  let external ← postPositive tax.gross
    (externalMaintenanceEvent scope work category dto taxCodeId tax db)
  let parts ← postPositive partsCost
    (partsMaintenanceEvent scope work category dto.completedAt partsCost)
  let primary ← orThrow (external.or parts) (.badRequest
    "Maintenance tanpa biaya atau pemakaian part tidak dapat diposting sebagai COMPLETED.")
  recordOdometer work.vehicleId dto.odometer
  maintenanceWorkOrder.update work.id (fun w => { w with
    status := .completed, actualCost := tax.gross + partsCost
    odometer := (dto.odometer.map Nat.cast).or w.odometer
    inspectionId := inspectionId.or w.inspectionId, accountingEventId := some primary.key
    taxCodeId := taxCodeId.or w.taxCodeId }) .recordNotFound

def completeMaintenance (id : ℕ) (dto : CompleteMaintenance) : FleetTx MaintenanceWorkOrder := do
  let work ← scopedWorkOrder scope id
  if work.status = .completed then pure work else do
    require (work.status ≠ .cancelled)
      (.badRequest "Maintenance yang dibatalkan tidak dapat diselesaikan.")
    finishMaintenance scope work dto

/-! ### Depreciation -/

/-- The months since year 0. -/
def calendarMonth (date : ℕ) : ℤ := 12 * getUTCFullYear date + getUTCMonth date

def countCalendarMonths (start endAt capitalizationDate : ℕ) : ℤ :=
  let first := max start capitalizationDate
  if endAt < first then 0 else calendarMonth endAt - calendarMonth first + 1

structure DepreciationCharge where
  amount : ℚ
  (expenseCode accumulatedCode : String)

def DepreciationCharge.key (c : DepreciationCharge) : String :=
  s!"{c.expenseCode}:{c.accumulatedCode}"

namespace Asset

variable (a : Asset)

def depreciable : ℚ := a.acquisitionCost - a.residualValue

/-- The charge of one month for an asset that lives `life` months. -/
def monthly (life : ℤ) : ℚ := toDecimalPlaces (a.depreciable / life) 2

/-- The charge of `monthCount` months, capped by what is left. -/
def charge (life monthCount : ℤ) : ℚ :=
  toDecimalPlaces (min (a.monthly life * monthCount) (a.bookValue - a.residualValue)) 2

end Asset

def depreciationAccounts (categoryId : ℕ) : FleetTx (String × String) := do
  let category ← findCategory scope categoryId
  let e := Failure.badRequest s!"Akun depresiasi kategori {category.code} belum lengkap."
  let expense ← orThrow (category.depreciationExpenseCode.filter (· ≠ "")) e
  let accumulated ← orThrow (category.accumulatedDepreciationCode.filter (· ≠ "")) e
  pure (expense, accumulated)

/-- The writes of a charge on an asset that was read as `a`. -/
def chargeAsset (a : Asset) (amount : ℚ) : FleetTx (Option DepreciationCharge) := do
  let accounts ← depreciationAccounts scope a.categoryId
  let _ ← FleetDb.asset.update a.id (fun r => { r with
    bookValue := a.bookValue - amount
    accumulatedDepreciation := r.accumulatedDepreciation + amount }) .recordNotFound
  pure (some ⟨amount, accounts.1, accounts.2⟩)

/-- The charge of a run on one asset, if there is one. -/
def depreciateAsset (start endAt : ℕ) (a : Asset) : FleetTx (Option DepreciationCharge) :=
  match a.usefulLifeMonths.filter (0 < ·) with
  | none => pure none
  | some life => do
    require (a.depreciationMethod = "STRAIGHT_LINE") (.badRequest
      (s!"Metode depresiasi {a.depreciationMethod} untuk aset {a.code} belum didukung; run " ++
        "dibatalkan agar tidak menghasilkan angka asumsi."))
    match a.capitalizationDate with
    | none => pure none
    | some date =>
      let monthCount := countCalendarMonths start endAt date
      if monthCount ≤ 0 then pure none
      else if a.depreciable ≤ 0 then pure none
      else if a.charge life monthCount ≤ 0 then pure none
      else chargeAsset scope a (a.charge life monthCount)

def depreciateAssets (start endAt : ℕ) : List Asset → FleetTx (List DepreciationCharge)
  | [] => pure []
  | a :: rest => do
    let charge ← depreciateAsset scope start endAt a
    let charges ← depreciateAssets start endAt rest
    pure (charge.toList ++ charges)

def accountTotals (charges : List DepreciationCharge) : Table DepreciationCharge.key :=
  charges.foldl (fun t c => t.put (((t.find? c.key).map fun g =>
    { g with amount := g.amount + c.amount }).getD c)) .empty

def depreciationEvent (runId endAt : ℕ) (group : DepreciationCharge) :
    PostOperationalEventInput where
  companyId := scope.companyId
  branchId := scope.branchId
  eventType := "ASSET_DEPRECIATION"
  sourceType := "AssetDepreciationRun"
  sourceId := s!"{runId}:{group.key}"
  idempotencyKey := s!"asset-depreciation:{runId}:{group.key}"
  businessDate := some endAt
  amounts := [("gross", group.amount)]
  accountCodes := [("debit", group.expenseCode), ("credit", group.accumulatedCode)]

/-- Post the groups of a run and return the first journal entry. -/
def postGroups (runId endAt : ℕ) : List DepreciationCharge → FleetTx (Option ℕ)
  | [] => pure none
  | group :: rest => do
    let event ← ledgerPart.lift (postOperationalEvent (depreciationEvent scope runId endAt group))
    let next ← postGroups runId endAt rest
    pure (event.journalEntryId.or next)

structure RunDepreciation where
  (periodStart periodEnd : ℕ)
  number : String

/-- The run was posted in the tenant scope for a period that meets the one of `dto`. -/
def RunDepreciation.overlaps (dto : RunDepreciation) (r : AssetDepreciationRun) : Bool :=
  r.companyId = scope.companyId && r.branchId = some scope.branchId && r.status = "POSTED" &&
    r.periodStart ≤ dto.periodEnd && dto.periodStart ≤ r.periodEnd

def RunDepreciation.looksAt (dto : RunDepreciation) (a : Asset) : Bool :=
  a.companyId = scope.companyId && a.branchId = some scope.branchId && a.status = .active &&
    a.capitalizationDate.any (· ≤ dto.periodEnd) && 0 < a.bookValue

def RunDepreciation.row (dto : RunDepreciation) (id : ℕ) : AssetDepreciationRun where
  id := id
  companyId := scope.companyId
  branchId := some scope.branchId
  number := dto.number
  periodStart := dto.periodStart
  periodEnd := dto.periodEnd

def runDepreciation (dto : RunDepreciation) : FleetTx AssetDepreciationRun := do
  require (dto.periodStart ≤ dto.periodEnd) (.badRequest "Periode depresiasi tidak valid.")
  let db ← get
  refuse (db.depreciationRuns.findMany (dto.overlaps scope)).head?
    fun r => .badRequest s!"Periode depresiasi bertumpang tindih dengan run {r.number}."
  let assets := db.assets.findMany (dto.looksAt scope)
  let id ← freshId
  require (db.depreciationRuns.findMany (fun r => r.companyId = scope.companyId &&
    r.number = dto.number) = []) .uniqueViolation
  assetDepreciationRun.create (dto.row scope id) .uniqueViolation
  let charges ← depreciateAssets scope dto.periodStart dto.periodEnd assets
  let total := (charges.map DepreciationCharge.amount).sum
  require (charges ≠ [] ∧ 0 < total)
    (.badRequest "Tidak ada aset yang memenuhi syarat depresiasi pada periode ini.")
  let journalEntryId ← postGroups scope id dto.periodEnd (accountTotals charges).rows
  assetDepreciationRun.update id (fun r => { r with
    status := "POSTED", assetCount := charges.length, totalAmount := total, journalEntryId })
    .recordNotFound

/-! ### Disposal -/

structure DisposeAsset where
  mode : String
  proceeds : ℚ := 0
  taxCodeId : Option ℕ := none
  settlementMode : Option String := none
  (inspectionId disposedAt : ℕ)

/-- The asset is on no open work order and no vehicle in use. -/
def assertAssetOperationallyFree (assetId : ℕ) : FleetTx Unit := do
  let db ← get
  refuse (db.workOrders.findMany fun w => w.assetId = assetId &&
      w.status ∈ [.opened, .inProgress, .waitingPart]).head?
    fun w => .badRequest s!"Aset masih memiliki maintenance aktif {w.number}."
  refuse ((db.vehicles.findMany fun v => v.assetId = some assetId).head?.filter
      fun v => v.status ∈ [.assigned, .onTrip])
    fun _ => .badRequest "Aset kendaraan sedang digunakan dalam operasi armada."

def isDisposalOf (assetId : ℕ) (e : AccountingEvent) : Bool :=
  e.companyId = scope.companyId && e.branchId = scope.branchId && e.sourceType = "Asset" &&
    e.sourceId = toString assetId && e.eventType = "ASSET_DISPOSAL" && e.status = .posted

namespace DisposeAsset

variable (dto : DisposeAsset)

def settlement : String := (dto.settlementMode.getD "CASH").toUpper

def check : FleetTx Unit := do
  require (dto.mode ≠ "SALE" ∨ 0 < dto.proceeds)
    (.badRequest "Penjualan aset membutuhkan nilai proceeds lebih dari nol.")
  require (dto.mode ≠ "DISPOSAL" ∨ dto.proceeds ≤ 0)
    (.badRequest "Gunakan mode SALE jika pelepasan aset menghasilkan proceeds.")
  require (dto.mode ≠ "SALE" ∨ dto.settlement ∈ ["CASH", "BANK"]) (.badRequest
    ("Settlement penjualan aset hanya CASH atau BANK. Penjualan kredit memerlukan workflow " ++
      "customer receivable yang belum diaktifkan untuk disposal aset."))

def soldTaxCode : Option ℕ := if dto.mode = "SALE" then dto.taxCodeId else none

def tax : FleetTx TaxedAmount :=
  if dto.mode = "SALE" then
    ledgerPart.lift (calculateTax dto.taxCodeId dto.proceeds scope.companyId dto.disposedAt
      [.sale, .other])
  else pure ⟨0, 0, 0⟩

def gain (a : Asset) (tax : TaxedAmount) : ℚ :=
  toDecimalPlaces (max (tax.net - toDecimalPlaces a.bookValue 2) 0) 2

def loss (a : Asset) (tax : TaxedAmount) : ℚ :=
  toDecimalPlaces (max (toDecimalPlaces a.bookValue 2 - tax.net) 0) 2

def event (a : Asset) (category : AssetCategory) (tax : TaxedAmount) (db : FleetDb) :
    PostOperationalEventInput where
  companyId := scope.companyId
  branchId := scope.branchId
  eventType := "ASSET_DISPOSAL"
  sourceType := "Asset"
  sourceId := toString a.id
  idempotencyKey := s!"asset-disposal:{a.id}"
  businessDate := some dto.disposedAt
  amounts := [("settlement", tax.gross), ("accumulatedDepreciation", a.accumulatedDepreciation),
    ("assetCost", a.acquisitionCost), ("outputTax", tax.tax), ("gain", gain a tax),
    ("loss", loss a tax), ("gross", tax.gross)]
  accountCodes := [("settlement", if dto.settlement = "BANK" then "1102" else "1101"),
    ("accumulatedDepreciation", category.accumulatedDepreciationCode.getD "1491"),
    ("asset", category.assetAccountCode.getD "1401"),
    ("outputTax", db.payableAccount dto.soldTaxCode), ("gain", "4202"), ("loss", "6202")]
  taxLines := taxLinesOf dto.soldTaxCode .output tax

end DisposeAsset

def retireAsset (a : Asset) (dto : DisposeAsset) : FleetTx Asset := do
  require (a.status ∈ [.active, .idle, .damaged])
    (.badRequest s!"Aset berstatus {a.status.text} tidak dapat dilepas.")
  assertAssetOperationallyFree a.id
  let category ← findCategory scope a.categoryId
  let inspection ← assertInspection scope dto.inspectionId "Asset" a.id
  require (inspection.status ∈ [.passed, .approved])
    (.badRequest "Inspeksi pelepasan aset belum lulus.")
  dto.check
  let tax ← dto.tax scope
  require (toDecimalPlaces (a.acquisitionCost - a.accumulatedDepreciation) 2 =
    toDecimalPlaces a.bookValue 2) (.badRequest
    (s!"Nilai buku aset {a.code} tidak sama dengan biaya perolehan dikurangi akumulasi " ++
      "depresiasi."))
  let db ← get
  let _ ← ledgerPart.lift (postOperationalEvent (dto.event scope a category tax db))
  let updated ← FleetDb.asset.update a.id (fun r => { r with
    status := if dto.mode = "SALE" then .sold else .disposed }) .recordNotFound
  let _ ← FleetDb.vehicle.updateMany (fun v => v.assetId = some a.id &&
    v.companyId = scope.companyId && v.branchId = scope.branchId)
    (fun v => { v with status := .disposed })
  pure updated

def dispose (assetId : ℕ) (dto : DisposeAsset) : FleetTx Asset := do
  let a ← scopedAsset scope assetId
  let db ← get
  if a.status ∈ [AssetStatus.sold, .disposed] ∧
      db.ledger.events.findMany (isDisposalOf scope a.id) ≠ [] then pure a
  else retireAsset scope a dto

end Mayatoko.Fleet
