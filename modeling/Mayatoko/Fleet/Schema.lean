import Mayatoko.Orders.Schema

/-!
# The tables of assets and fleet

The rows that the transactions of `AssetsService` and `FleetService` read and write, next to the stock
and the ledger. Assignments, asset transactions, depreciation lines, meter readings and audit rows are
read by none of them and left out, as are the columns of an address or a person. Which company a
product belongs to is left out as well.
-/

namespace Mayatoko.Fleet

open Core Accounting
open Orders (Shipment GatePass OperationalInspection)
open Procurement (Supplier)
open Transit (TenantScope Warehouse)

structure Employee where
  (id companyId branchId : ℕ)
  isActive : Bool := true

structure Document where
  (id branchId warehouseId : ℕ)

structure AssetCategory where
  (id companyId : ℕ)
  code : String
  depreciationMethod : String := "STRAIGHT_LINE"
  usefulLifeMonths : Option ℤ := none
  assetAccountCode : Option String := none
  accumulatedDepreciationCode : Option String := none
  depreciationExpenseCode : Option String := none
  maintenanceExpenseCode : Option String := none
  isActive : Bool := true

inductive AssetStatus
  | draft
  | active
  | idle
  | inMaintenance
  | damaged
  | lost
  | sold
  | disposed
  deriving DecidableEq

def AssetStatus.text : AssetStatus → String
  | draft => "DRAFT"
  | active => "ACTIVE"
  | idle => "IDLE"
  | inMaintenance => "IN_MAINTENANCE"
  | damaged => "DAMAGED"
  | lost => "LOST"
  | sold => "SOLD"
  | disposed => "DISPOSED"

structure Asset where
  (id companyId : ℕ)
  branchId : Option ℕ
  categoryId : ℕ
  code : String
  status : AssetStatus := .draft
  capitalizationDate : Option ℕ := none
  acquisitionCost : ℚ := 0
  residualValue : ℚ := 0
  accumulatedDepreciation : ℚ := 0
  bookValue : ℚ := 0
  usefulLifeMonths : Option ℤ := none
  depreciationMethod : String := "STRAIGHT_LINE"
  deriving DecidableEq

structure AssetDepreciationRun where
  (id companyId : ℕ)
  branchId : Option ℕ
  number : String
  (periodStart periodEnd : ℕ)
  status : String := "DRAFT"
  assetCount : ℕ := 0
  totalAmount : ℚ := 0
  journalEntryId : Option ℕ := none

inductive MaintenanceStatus
  | planned
  | opened
  | inProgress
  | waitingPart
  | completed
  | cancelled
  deriving DecidableEq

structure MaintenanceWorkOrder where
  (id companyId : ℕ)
  branchId : Option ℕ
  number : String
  assetId : ℕ
  vehicleId : Option ℕ := none
  status : MaintenanceStatus := .planned
  vendorId : Option ℕ := none
  odometer : Option ℤ := none
  actualCost : ℚ := 0
  taxCodeId : Option ℕ := none
  inspectionId : Option ℕ := none
  accountingEventId : Option (ℕ × String) := none

inductive VehicleStatus
  | available
  | assigned
  | onTrip
  | maintenance
  | inactive
  | disposed
  deriving DecidableEq

def VehicleStatus.text : VehicleStatus → String
  | available => "AVAILABLE"
  | assigned => "ASSIGNED"
  | onTrip => "ON_TRIP"
  | maintenance => "MAINTENANCE"
  | inactive => "INACTIVE"
  | disposed => "DISPOSED"

structure Vehicle where
  (id companyId branchId : ℕ)
  assetId : Option ℕ := none
  status : VehicleStatus := .available
  capacityWeight : Option ℚ := none
  capacityVolume : Option ℚ := none
  currentOdometer : ℤ := 0
  defaultDriverEmployeeId : Option ℕ := none

inductive DeliveryTripStatus
  | draft
  | planned
  | loading
  | readyToDispatch
  | dispatched
  | inTransit
  | partiallyDelivered
  | delivered
  | returning
  | closed
  | cancelled
  deriving DecidableEq

def DeliveryTripStatus.text : DeliveryTripStatus → String
  | draft => "DRAFT"
  | planned => "PLANNED"
  | loading => "LOADING"
  | readyToDispatch => "READY_TO_DISPATCH"
  | dispatched => "DISPATCHED"
  | inTransit => "IN_TRANSIT"
  | partiallyDelivered => "PARTIALLY_DELIVERED"
  | delivered => "DELIVERED"
  | returning => "RETURNING"
  | closed => "CLOSED"
  | cancelled => "CANCELLED"

structure DeliveryTrip where
  (id companyId branchId : ℕ)
  number : String
  (vehicleId driverEmployeeId : ℕ)
  status : DeliveryTripStatus := .draft
  startOdometer : Option ℤ := none
  endOdometer : Option ℤ := none
  totalPackages : ℤ := 0
  codExpected : ℚ := 0
  codCollected : ℚ := 0
  preTripInspectionId : Option ℕ := none
  loadingInspectionId : Option ℕ := none
  postTripInspectionId : Option ℕ := none
  gatePassId : Option ℕ := none

inductive DeliveryStopStatus
  | pending
  | arrived
  | delivered
  | partially
  | failed
  | returned
  | skipped
  deriving DecidableEq

def DeliveryStopStatus.text : DeliveryStopStatus → String
  | pending => "PENDING"
  | arrived => "ARRIVED"
  | delivered => "DELIVERED"
  | partially => "PARTIAL"
  | failed => "FAILED"
  | returned => "RETURNED"
  | skipped => "SKIPPED"

structure DeliveryStop where
  (id tripId : ℕ)
  sequence : ℤ
  shipmentId : Option ℕ := none
  status : DeliveryStopStatus := .pending
  codExpected : ℚ := 0
  codCollected : ℚ := 0
  proofInspectionId : Option ℕ := none

structure DeliveryManifestItem where
  (id tripId : ℕ)
  stopId : Option ℕ := none
  shipmentId : Option ℕ := none
  productId : ℕ
  expectedQty : ℤ
  scannedQty : ℤ := 0
  loadedQty : ℤ := 0
  deliveredQty : ℤ := 0
  returnedQty : ℤ := 0
  damagedQty : ℤ := 0
  status : String := "PENDING"

structure FuelTransaction where
  (id companyId branchId vehicleId : ℕ)
  (liters unitPrice totalAmount : ℚ)
  odometer : Option ℤ := none
  receiptNumber : Option String := none
  evidenceReference : Option String := none
  accountingEventId : Option (ℕ × String) := none

structure TaxAccounts where
  taxCodeId : ℕ
  receivableAccountCode : Option String := none
  payableAccountCode : Option String := none

structure FleetDb where
  nextId : ℕ
  stock : Stock.Db
  ledger : AccountingDb
  taxAccounts : Table TaxAccounts.taxCodeId
  warehouses : Table Warehouse.id
  employees : Table Employee.id
  suppliers : Table Supplier.id
  (orders sales : Table Document.id)
  shipments : Table Shipment.id
  inspections : Table OperationalInspection.id
  gatePasses : Table GatePass.id
  categories : Table AssetCategory.id
  assets : Table Asset.id
  depreciationRuns : Table AssetDepreciationRun.id
  workOrders : Table MaintenanceWorkOrder.id
  vehicles : Table Vehicle.id
  trips : Table DeliveryTrip.id
  stops : Table DeliveryStop.id
  manifestItems : Table DeliveryManifestItem.id
  fuelTransactions : Table FuelTransaction.id

abbrev FleetTx := Tx FleetDb Failure

namespace FleetDb

def empty : FleetDb where
  nextId := 0
  stock := .empty
  ledger := .empty
  taxAccounts := .empty
  warehouses := .empty
  employees := .empty
  suppliers := .empty
  orders := .empty
  sales := .empty
  shipments := .empty
  inspections := .empty
  gatePasses := .empty
  categories := .empty
  assets := .empty
  depreciationRuns := .empty
  workOrders := .empty
  vehicles := .empty
  trips := .empty
  stops := .empty
  manifestItems := .empty
  fuelTransactions := .empty

def stockPart : Part FleetDb Stock.Db where
  get := FleetDb.stock
  set := fun db stock => { db with stock }

def ledgerPart : Part FleetDb AccountingDb where
  get := FleetDb.ledger
  set := fun db ledger => { db with ledger }

def shipment : TableOf FleetDb Shipment.id :=
  ⟨FleetDb.shipments, fun db t => { db with shipments := t }⟩

def gatePass : TableOf FleetDb GatePass.id :=
  ⟨FleetDb.gatePasses, fun db t => { db with gatePasses := t }⟩

def asset : TableOf FleetDb Asset.id := ⟨FleetDb.assets, fun db t => { db with assets := t }⟩

def assetDepreciationRun : TableOf FleetDb AssetDepreciationRun.id :=
  ⟨FleetDb.depreciationRuns, fun db t => { db with depreciationRuns := t }⟩

def maintenanceWorkOrder : TableOf FleetDb MaintenanceWorkOrder.id :=
  ⟨FleetDb.workOrders, fun db t => { db with workOrders := t }⟩

def vehicle : TableOf FleetDb Vehicle.id :=
  ⟨FleetDb.vehicles, fun db t => { db with vehicles := t }⟩

def deliveryTrip : TableOf FleetDb DeliveryTrip.id :=
  ⟨FleetDb.trips, fun db t => { db with trips := t }⟩

def deliveryStop : TableOf FleetDb DeliveryStop.id :=
  ⟨FleetDb.stops, fun db t => { db with stops := t }⟩

def deliveryManifestItem : TableOf FleetDb DeliveryManifestItem.id :=
  ⟨FleetDb.manifestItems, fun db t => { db with manifestItems := t }⟩

def fuelTransaction : TableOf FleetDb FuelTransaction.id :=
  ⟨FleetDb.fuelTransactions, fun db t => { db with fuelTransactions := t }⟩

variable (db : FleetDb)

@[simp] lemma asset_write (r : Asset) : asset.write db r = { db with assets := db.assets.put r } := rfl

@[simp] lemma vehicle_write (r : Vehicle) :
    vehicle.write db r = { db with vehicles := db.vehicles.put r } := rfl

@[simp] lemma deliveryTrip_write (r : DeliveryTrip) :
    deliveryTrip.write db r = { db with trips := db.trips.put r } := rfl

@[simp] lemma deliveryStop_write (r : DeliveryStop) :
    deliveryStop.write db r = { db with stops := db.stops.put r } := rfl

@[simp] lemma deliveryManifestItem_write (r : DeliveryManifestItem) :
    deliveryManifestItem.write db r = { db with manifestItems := db.manifestItems.put r } := rfl

def stopsOf (tripId : ℕ) : List DeliveryStop := db.stops.findMany fun s => s.tripId = tripId

def itemsOf (tripId : ℕ) : List DeliveryManifestItem :=
  db.manifestItems.findMany fun i => i.tripId = tripId

def receivableAccount (taxCodeId : Option ℕ) : String :=
  ((taxCodeId.bind db.taxAccounts.find?).bind TaxAccounts.receivableAccountCode).getD "1205"

def payableAccount (taxCodeId : Option ℕ) : String :=
  ((taxCodeId.bind db.taxAccounts.find?).bind TaxAccounts.payableAccountCode).getD "2201"

end FleetDb

/-- The tax line of a taxed amount; an amount without tax has none. -/
def taxLinesOf (taxCodeId : Option ℕ) (direction : TaxDirection) (tax : TaxedAmount) : List TaxLine :=
  match taxCodeId with
  | some id => if 0 < tax.tax then [⟨id, direction, tax.net, tax.tax⟩] else []
  | none => []

def settlementAccount (paymentMode : String) : String :=
  if paymentMode = "CASH" then "1101" else if paymentMode = "BANK" then "1102" else "2101"

def freshId : FleetTx ℕ := do
  let db ← get
  set { db with nextId := db.nextId + 1 }
  pure db.nextId

/-! ### Lookups in the tenant scope -/

def findScoped {ρ : Type} (found : FleetDb → Option ρ) (ofTenant : ρ → Bool)
    (entityType : String) : FleetTx ρ := do
  let db ← get
  orThrow ((found db).filter ofTenant) (tenantAccessDenied entityType)

def assertOptional {ρ : Type} (find : ℕ → FleetTx ρ) : Option ℕ → FleetTx Unit
  | none => pure ()
  | some id => do
    let _ ← find id
    pure ()

variable (scope : TenantScope)

def scopedVehicle (id : ℕ) : FleetTx Vehicle :=
  findScoped (fun db => db.vehicles.find? id)
    (fun v => v.companyId = scope.companyId && v.branchId = scope.branchId) "Vehicle"

def scopedTrip (id : ℕ) : FleetTx DeliveryTrip :=
  findScoped (fun db => db.trips.find? id)
    (fun t => t.companyId = scope.companyId && t.branchId = scope.branchId) "DeliveryTrip"

def scopedAsset (id : ℕ) : FleetTx Asset :=
  findScoped (fun db => db.assets.find? id)
    (fun a => a.companyId = scope.companyId && a.branchId = some scope.branchId) "Asset"

def scopedWorkOrder (id : ℕ) : FleetTx MaintenanceWorkOrder :=
  findScoped (fun db => db.workOrders.find? id)
    (fun w => w.companyId = scope.companyId && w.branchId = some scope.branchId)
    "MaintenanceWorkOrder"

def findWarehouse (id : ℕ) : FleetTx Warehouse :=
  findScoped (fun db => db.warehouses.find? id)
    (fun w => w.branchId = scope.branchId && w.companyId = scope.companyId) "Warehouse"

def assertWarehouse : Option ℕ → FleetTx Unit := assertOptional (findWarehouse scope)

def assertEmployee : Option ℕ → FleetTx Unit :=
  assertOptional fun id => findScoped (fun db => db.employees.find? id)
    (fun e => e.companyId = scope.companyId && e.branchId = scope.branchId && e.isActive) "Employee"

def assertSupplier : Option ℕ → FleetTx Unit :=
  assertOptional fun id => findScoped (fun db => db.suppliers.find? id)
    (fun s => s.companyId = scope.companyId) "Supplier"

def findCategory (id : ℕ) : FleetTx AssetCategory :=
  findScoped (fun db => db.categories.find? id) (fun c => c.companyId = scope.companyId)
    "AssetCategory"

def assertInspection (id : ℕ) (sourceType : String) (sourceId : ℕ) : FleetTx OperationalInspection :=
  findScoped (fun db => db.inspections.find? id)
    (fun i => i.companyId = scope.companyId && i.branchId = some scope.branchId &&
      i.sourceType = sourceType && i.sourceId = sourceId) "OperationalInspection"

def assertGatePass (id tripId : ℕ) : FleetTx GatePass :=
  findScoped (fun db => db.gatePasses.find? id)
    (fun g => g.companyId = scope.companyId && g.branchId = scope.branchId &&
      g.sourceType = "DeliveryTrip" && g.sourceId = tripId) "GatePass"

def assertShipment : Option ℕ → FleetTx Unit :=
  assertOptional fun id => do
    let s ← findScoped (fun db => db.shipments.find? id) (fun _ => true) "Shipment"
    findWarehouse scope s.warehouseId

def assertDocument (found : FleetDb → Table Document.id) (entityType : String) :
    Option ℕ → FleetTx Unit :=
  assertOptional fun id => do
    let d ← findScoped (fun db => (found db).find? id) (fun d => d.branchId = scope.branchId)
      entityType
    findWarehouse scope d.warehouseId

def assertOrder : Option ℕ → FleetTx Unit := assertDocument scope FleetDb.orders "Order"

def assertSale : Option ℕ → FleetTx Unit := assertDocument scope FleetDb.sales "Sale"

/-! ### What a lookup does -/

section

variable {db db' : FleetDb} {scope : TenantScope}

variable {ρ : Type} {entityType : String} {found : FleetDb → Option ρ} {ofTenant : ρ → Bool}

lemma commits_findScoped {r : ρ} : Commits (findScoped found ofTenant entityType) db r db' ↔
      (found db = some r ∧ ofTenant r = true) ∧ db = db' := by
  simp only [findScoped, commits_bind, commits_get, commits_orThrow, Option.filter_eq_some_iff]
  constructor
  · rintro ⟨_, _, ⟨rfl, rfl⟩, h, rfl⟩
    exact ⟨h, rfl⟩
  · rintro ⟨h, rfl⟩
    exact ⟨db, db, ⟨rfl, rfl⟩, h, rfl⟩

lemma findScoped_readOnly : ReadOnly (findScoped found ofTenant entityType) :=
  leaves_get.bind fun _ => leaves_orThrow

lemma assertOptional_readOnly {find : ℕ → FleetTx ρ} (h : ∀ id, ReadOnly (find id))
    {id : Option ℕ} : ReadOnly (assertOptional find id) := by
  cases id with
  | none => exact leaves_pure
  | some id => exact (h id).bind fun _ => leaves_pure

variable {id : Option ℕ}

lemma assertWarehouse_readOnly : ReadOnly (assertWarehouse scope id) :=
  assertOptional_readOnly fun _ => findScoped_readOnly

lemma assertEmployee_readOnly : ReadOnly (assertEmployee scope id) :=
  assertOptional_readOnly fun _ => findScoped_readOnly

lemma assertSupplier_readOnly : ReadOnly (assertSupplier scope id) :=
  assertOptional_readOnly fun _ => findScoped_readOnly

lemma assertShipment_readOnly : ReadOnly (assertShipment scope id) :=
  assertOptional_readOnly fun _ => findScoped_readOnly.bind fun _ => findScoped_readOnly

lemma assertDocument_readOnly {found : FleetDb → Table Document.id} :
    ReadOnly (assertDocument scope found entityType id) :=
  assertOptional_readOnly fun _ => findScoped_readOnly.bind fun _ => findScoped_readOnly

lemma commits_scopedVehicle {id : ℕ} {v : Vehicle} (h : Commits (scopedVehicle scope id) db v db') :
    v ∈ db.vehicles ∧ v.id = id ∧ db = db' := by
  obtain ⟨⟨hv, _⟩, rfl⟩ := commits_findScoped.mp h
  obtain ⟨hmem, hid⟩ := find?_eq_some.mp hv
  exact ⟨hmem, hid, rfl⟩

lemma commits_scopedTrip {id : ℕ} {t : DeliveryTrip} (h : Commits (scopedTrip scope id) db t db') :
    t ∈ db.trips ∧ t.id = id ∧ db = db' := by
  obtain ⟨⟨ht, _⟩, rfl⟩ := commits_findScoped.mp h
  obtain ⟨hmem, hid⟩ := find?_eq_some.mp ht
  exact ⟨hmem, hid, rfl⟩

end

end Mayatoko.Fleet
