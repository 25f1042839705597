import Mayatoko.Fleet.Schema

/-!
# Delivery trips and fuel

`createTrip`, `confirmLoading`, `dispatch`, `completeStop`, `closeTrip` and `recordFuel` of
`FleetService`, each one serializable transaction. The scope that a request may name is taken to be
the one of the user; amounts are exact decimals and document numbers enter as drawn.
-/

namespace Mayatoko.Fleet

open Core Accounting FleetDb
open Procurement (InspectionStatus)
open Transit (TenantScope)

/-! ### Creation -/

/-- A stop of a new trip; the request validation only lets amounts that are not negative pass. -/
structure DeliveryStopInput where
  sequence : ℤ
  shipmentId : Option ℕ := none
  orderId : Option ℕ := none
  saleId : Option ℕ := none
  codExpected : Option ℚ≥0 := none

/-- An item of a new trip; the request validation only lets positive quantities pass. -/
structure ManifestItemInput where
  stopSequence : Option ℤ := none
  shipmentId : Option ℕ := none
  orderId : Option ℕ := none
  productId : ℕ
  batchId : Option (ℕ × ℕ × String) := none
  serialId : Option String := none
  expectedQty : ℕ+

structure CreateDeliveryTrip where
  (vehicleId driverEmployeeId : ℕ)
  originWarehouseId : Option ℕ := none
  plannedDepartureAt : Option ℕ := none
  plannedReturnAt : Option ℕ := none
  startOdometer : Option ℕ := none
  totalWeight : ℚ≥0 := 0
  totalVolume : ℚ≥0 := 0
  stops : List DeliveryStopInput
  manifestItems : List ManifestItemInput
  number : String

variable (scope : TenantScope)

def checkStopInput (stop : DeliveryStopInput) : FleetTx Unit := do
  assertShipment scope stop.shipmentId
  assertOrder scope stop.orderId
  assertSale scope stop.saleId

def assertBatch (productId : ℕ) (batchId : ℕ × ℕ × String) : FleetTx Unit := do
  let db ← get
  let batch ← orThrow ((db.stock.batches.find? batchId).filter fun b => b.productId = productId)
    (tenantAccessDenied "InventoryBatch")
  assertWarehouse scope (some batch.warehouseId)

def assertSerial (productId : ℕ) (serialId : String) : FleetTx Unit := do
  let db ← get
  let serial ← orThrow ((db.stock.serials.find? serialId).filter fun s => s.productId = productId)
    (tenantAccessDenied "InventorySerial")
  assertWarehouse scope (some serial.warehouseId)

def checkManifestItem (stops : List DeliveryStopInput) (item : ManifestItemInput) :
    FleetTx Unit := do
  refuse (item.stopSequence.filter fun n => !stops.any (·.sequence = n))
    fun n => .badRequest s!"Stop sequence {n} tidak ditemukan."
  assertShipment scope item.shipmentId
  assertOrder scope item.orderId
  let db ← get
  let _ ← orThrow (db.stock.products.find? item.productId)
    (.badRequest s!"Produk {item.productId} tidak ditemukan.")
  item.batchId.elim (pure ()) (assertBatch scope item.productId)
  item.serialId.elim (pure ()) (assertSerial scope item.productId)

def createStops (tripId : ℕ) : List DeliveryStopInput → FleetTx (List (ℤ × ℕ))
  | [] => pure []
  | stop :: rest => do
    let id ← freshId
    deliveryStop.create { id, tripId, sequence := stop.sequence, shipmentId := stop.shipmentId,
                          codExpected := stop.codExpected.elim 0 (↑) } .uniqueViolation
    let stopMap ← createStops tripId rest
    pure ((stop.sequence, id) :: stopMap)

def createManifestItem (tripId : ℕ) (stopMap : List (ℤ × ℕ)) (item : ManifestItemInput) :
    FleetTx Unit := do
  let id ← freshId
  deliveryManifestItem.create
    { id, tripId, stopId := item.stopSequence.bind (stopMap.lookup ·), shipmentId := item.shipmentId,
      productId := item.productId, expectedQty := item.expectedQty } .uniqueViolation

def CreateDeliveryTrip.row (dto : CreateDeliveryTrip) (id : ℕ) : DeliveryTrip where
  id := id
  companyId := scope.companyId
  branchId := scope.branchId
  number := dto.number
  vehicleId := dto.vehicleId
  driverEmployeeId := dto.driverEmployeeId
  startOdometer := dto.startOdometer.map (↑)
  totalPackages := (dto.manifestItems.map fun i => (i.expectedQty : ℤ)).sum
  codExpected := (dto.stops.map fun s => s.codExpected.elim (0 : ℚ) (↑)).sum

def checkVehicle (dto : CreateDeliveryTrip) (vehicle : Vehicle) : FleetTx Unit := do
  require (dto.startOdometer.all (fun o => vehicle.currentOdometer ≤ (o : ℤ)) = true) (.badRequest
    "Odometer awal trip tidak boleh lebih kecil dari odometer kendaraan saat ini.")
  require (dto.plannedDepartureAt.all (fun d => dto.plannedReturnAt.all (d ≤ ·)) = true) (.badRequest
    "Rencana waktu kembali tidak boleh sebelum waktu berangkat.")
  require (vehicle.capacityWeight.all (fun c => (dto.totalWeight : ℚ) ≤ c) = true)
    (.badRequest "Berat muatan melebihi kapasitas kendaraan.")
  require (vehicle.capacityVolume.all (fun c => (dto.totalVolume : ℚ) ≤ c) = true)
    (.badRequest "Volume muatan melebihi kapasitas kendaraan.")

def placeTrip (dto : CreateDeliveryTrip) (vehicle : Vehicle) : FleetTx ℕ := do
  let id ← freshId
  let db ← get
  require (db.trips.findMany (fun t => t.companyId = scope.companyId && t.number = dto.number) = [])
    .uniqueViolation
  deliveryTrip.create (dto.row scope id) .uniqueViolation
  let stopMap ← createStops id dto.stops
  dto.manifestItems.forM (createManifestItem id stopMap)
  let _ ← FleetDb.vehicle.update vehicle.id (fun v => { v with
    status := .assigned, defaultDriverEmployeeId := some dto.driverEmployeeId }) .recordNotFound
  pure id

def createTrip (dto : CreateDeliveryTrip) : FleetTx ℕ := do
  require (dto.stops ≠ [] ∧ dto.manifestItems ≠ [])
    (.badRequest "Trip membutuhkan tujuan dan manifest barang.")
  require ((dto.stops.map DeliveryStopInput.sequence).Nodup)
    (.badRequest "Sequence tujuan pengiriman harus unik.")
  let vehicle ← scopedVehicle scope dto.vehicleId
  require (vehicle.status = .available) (.badRequest s!"Kendaraan berstatus {vehicle.status.text}.")
  assertEmployee scope (some dto.driverEmployeeId)
  assertWarehouse scope dto.originWarehouseId
  dto.stops.forM (checkStopInput scope)
  dto.manifestItems.forM (checkManifestItem scope dto.stops)
  checkVehicle dto vehicle
  placeTrip scope dto vehicle

/-! ### Loading and dispatch -/

structure LoadingScan where
  (manifestItemId scannedQty : ℕ)
  damagedQty : Option ℕ := none

def LoadingScan.apply (scan : LoadingScan) (item : DeliveryManifestItem) : DeliveryManifestItem :=
  { item with
    scannedQty := scan.scannedQty
    loadedQty := max 0 ((scan.scannedQty : ℤ) - scan.damagedQty.getD 0)
    damagedQty := scan.damagedQty.getD 0
    status := if (scan.scannedQty : ℤ) = item.expectedQty ∧ scan.damagedQty.getD 0 = 0 then "LOADED"
      else "MISMATCH" }

def confirmScan (items : List DeliveryManifestItem) (scan : LoadingScan) : FleetTx Unit := do
  let item ← orThrow (items.find? fun i => i.id = scan.manifestItemId)
    (.badRequest s!"Manifest item {scan.manifestItemId} tidak ditemukan.")
  require ((scan.scannedQty : ℤ) ≤ item.expectedQty)
    (.badRequest "Jumlah scan melebihi manifest.")
  let _ ← deliveryManifestItem.update item.id scan.apply .recordNotFound
  pure ()

def DeliveryManifestItem.loadedWhole (item : DeliveryManifestItem) : Bool :=
  item.loadedQty = item.expectedQty && item.damagedQty ≤ 0

def confirmLoading (tripId inspectionId : ℕ) (scans : List LoadingScan) : FleetTx DeliveryTrip := do
  let trip ← scopedTrip scope tripId
  require (trip.status ∈ [.draft, .planned, .loading])
    (.badRequest "Trip tidak dapat diproses loading.")
  let inspection ← assertInspection scope inspectionId "DeliveryTrip" trip.id
  require (inspection.status ∈ [.passed, .partially, .approved])
    (.badRequest "Pemeriksaan loading belum lulus.")
  let db ← get
  scans.forM (confirmScan (db.itemsOf trip.id))
  let after ← get
  require ((after.itemsOf trip.id).all DeliveryManifestItem.loadedWhole = true) (.badRequest
    "Masih ada selisih loading. Koreksi manifest atau minta approval sebelum dispatch.")
  deliveryTrip.update trip.id (fun t => { t with
    status := .readyToDispatch, loadingInspectionId := some inspection.id }) .recordNotFound

structure DispatchTrip where
  (preTripInspectionId gatePassId : ℕ)
  startOdometer : Option ℕ := none

def DispatchTrip.start (dto : DispatchTrip) (trip : DeliveryTrip) : Option ℤ :=
  (dto.startOdometer.map Nat.cast).or trip.startOdometer

def shipManifest (trip : DeliveryTrip) (gatePassId : ℕ) : FleetTx Unit := do
  let db ← get
  let shipmentIds := ((db.itemsOf trip.id).filterMap DeliveryManifestItem.shipmentId).eraseDups
  shipmentIds.forM fun id => assertShipment scope (some id)
  if shipmentIds ≠ [] then do
    let _ ← shipment.updateMany (fun s => shipmentIds.contains s.id) fun s => { s with
      status := .inTransit, outboundInspectionId := trip.loadingInspectionId,
      gatePassId := some gatePassId }
    pure ()
  else pure ()

def dispatch (tripId : ℕ) (dto : DispatchTrip) : FleetTx DeliveryTrip := do
  let trip ← scopedTrip scope tripId
  require (trip.status = .readyToDispatch) (.badRequest "Trip belum siap dispatch.")
  let preTrip ← assertInspection scope dto.preTripInspectionId "DeliveryTrip" trip.id
  require (preTrip.status ∈ [.passed, .approved])
    (.badRequest "Pemeriksaan kendaraan sebelum jalan belum lulus.")
  let pass ← assertGatePass scope dto.gatePassId trip.id
  require (pass.status = .approved) (.badRequest "Gate pass outbound belum disetujui.")
  shipManifest scope trip pass.id
  let _ ← vehicle.update trip.vehicleId (fun v => { v with
    status := .onTrip, currentOdometer := (dto.start trip).getD v.currentOdometer }) .recordNotFound
  let _ ← gatePass.update pass.id (fun g => { g with status := .exited }) .recordNotFound
  deliveryTrip.update trip.id (fun t => { t with
    status := .dispatched, preTripInspectionId := some preTrip.id, gatePassId := some pass.id,
    startOdometer := dto.start trip }) .recordNotFound

/-! ### Stops -/

inductive StopOutcome
  | delivered
  | partially
  | failed
  | returned
  deriving DecidableEq

def StopOutcome.status : StopOutcome → DeliveryStopStatus
  | delivered => .delivered
  | partially => .partially
  | failed => .failed
  | returned => .returned

structure CompleteStop where
  status : StopOutcome
  codCollected : Option ℚ≥0 := none
  proofInspectionId : Option ℕ := none

def CompleteStop.cod (dto : CompleteStop) : ℚ := dto.codCollected.elim 0 (↑)

def DeliveryStopStatus.isOpen (s : DeliveryStopStatus) : Bool := s ∈ [.pending, .arrived]

def DeliveryStopStatus.comesBack (s : DeliveryStopStatus) : Bool :=
  s ∈ [.failed, .partially, .returned]

def checkProof (stop : DeliveryStop) (dto : CompleteStop) : FleetTx Unit := do
  require (dto.cod ≤ stop.codExpected)
    (.badRequest "COD yang diterima melebihi COD yang diharapkan pada stop.")
  require (dto.status = .delivered ∨ dto.status = .partially ∨ dto.cod ≤ 0)
    (.badRequest "COD tidak boleh dicatat pada stop gagal/returned.")
  require (dto.status ≠ .delivered ∨ dto.proofInspectionId ≠ none)
    (.badRequest "Bukti serah terima wajib untuk status DELIVERED.")
  dto.proofInspectionId.elim (pure ()) fun id => do
    let proof ← assertInspection scope id "DeliveryStop" stop.id
    require (proof.status ∈ [.passed, .approved])
      (.badRequest "Bukti pengiriman belum disetujui.")

/-- What completing its stop makes of an item that was read with `loadedQty` units on board. -/
def DeliveryManifestItem.settle (outcome : StopOutcome) (loadedQty : ℤ)
    (item : DeliveryManifestItem) : DeliveryManifestItem :=
  if outcome = .delivered then { item with deliveredQty := loadedQty, status := "DELIVERED" }
  else { item with returnedQty := loadedQty, status := "RETURN_PENDING" }

def settleItem (outcome : StopOutcome) (item : DeliveryManifestItem) : FleetTx Unit := do
  let _ ← deliveryManifestItem.update item.id (DeliveryManifestItem.settle outcome item.loadedQty)
    .recordNotFound
  pure ()

/-- The status and the amount of a stop, as the trip counts them while `stop` is being completed. -/
def completedStatus (stop : DeliveryStop) (dto : CompleteStop) (row : DeliveryStop) :
    DeliveryStopStatus :=
  if row.id = stop.id then dto.status.status else row.status

def completedCod (stop : DeliveryStop) (dto : CompleteStop) (row : DeliveryStop) : ℚ :=
  if row.id = stop.id then dto.cod else row.codCollected

def updateTrip (trip : DeliveryTrip) (stop : DeliveryStop) (dto : CompleteStop) : FleetTx Unit := do
  let db ← get
  let tripStops := db.stopsOf trip.id
  let allDone := tripStops.all fun row => !(completedStatus stop dto row).isOpen
  let someBack := tripStops.any fun row => (completedStatus stop dto row).comesBack
  let codTotal := (tripStops.map (completedCod stop dto)).sum
  let _ ← deliveryTrip.update trip.id (fun t => { t with
    codCollected := codTotal
    status := if allDone then (if someBack then .partiallyDelivered else .delivered)
      else t.status }) .recordNotFound
  pure ()

/-- The shipment of a stop, if there is one, is delivered or failed with it. -/
def updateShipment (shipmentId : Option ℕ) (status : Loyalty.ShipmentStatus) : FleetTx Unit :=
  match shipmentId with
  | none => pure ()
  | some id => do
    let _ ← shipment.update id (fun s => { s with status }) .recordNotFound
    pure ()

def recordStop (trip : DeliveryTrip) (stop : DeliveryStop) (dto : CompleteStop) :
    FleetTx DeliveryStop := do
  let updated ← deliveryStop.update stop.id (fun s => { s with
    status := dto.status.status, codCollected := dto.cod,
    proofInspectionId := dto.proofInspectionId.or s.proofInspectionId }) .recordNotFound
  let db ← get
  ((db.itemsOf trip.id).filter fun i => i.stopId = some stop.id).forM (settleItem dto.status)
  updateShipment stop.shipmentId (if dto.status = .delivered then .delivered else .failed)
  updateTrip trip stop dto
  pure updated

def completeStop (stopId : ℕ) (dto : CompleteStop) : FleetTx DeliveryStop := do
  let stop ← findScoped (fun db => db.stops.find? stopId) (fun _ => true) "DeliveryStop"
  let trip ← scopedTrip scope stop.tripId
  require (trip.status ∈ [.dispatched, .inTransit, .partiallyDelivered]) (.badRequest
    s!"Stop tidak dapat diselesaikan ketika trip berstatus {trip.status.text}.")
  if stop.status.isOpen then do
    checkProof scope stop dto
    assertShipment scope stop.shipmentId
    recordStop trip stop dto
  else do
    require (stop.status = dto.status.status)
      (.badRequest s!"Stop sudah berstatus {stop.status.text} dan tidak dapat ditimpa.")
    pure stop

/-! ### Closing -/

structure CloseTrip where
  (postTripInspectionId endOdometer : ℕ)

def returnItem (item : DeliveryManifestItem) : FleetTx Unit := do
  let returnedQty := max 0 (item.loadedQty - item.deliveredQty)
  let _ ← deliveryManifestItem.update item.id (fun i => { i with
    returnedQty, status := if 0 < returnedQty then "RETURNED" else item.status }) .recordNotFound
  pure ()

def markReturned (stop : DeliveryStop) : FleetTx Unit :=
  if stop.status ≠ .returned then do
    let _ ← deliveryStop.update stop.id (fun s => { s with status := .returned }) .recordNotFound
    pure ()
  else pure ()

def returnStop (tripId : ℕ) (stop : DeliveryStop) : FleetTx Unit := do
  markReturned stop
  assertShipment scope stop.shipmentId
  updateShipment stop.shipmentId .returned
  let db ← get
  ((db.itemsOf tripId).filter fun i => i.stopId = some stop.id).forM returnItem

def closeTrip (tripId : ℕ) (dto : CloseTrip) : FleetTx DeliveryTrip := do
  let trip ← scopedTrip scope tripId
  require (trip.status ∈ [.delivered, .partiallyDelivered, .returning])
    (.badRequest "Trip belum dapat ditutup.")
  require (trip.startOdometer.all (fun o => o ≤ (dto.endOdometer : ℤ)) = true)
    (.badRequest "Odometer akhir lebih kecil dari awal.")
  let inspection ← assertInspection scope dto.postTripInspectionId "DeliveryTrip" trip.id
  require (inspection.status ∈ [.passed, .partially, .approved])
    (.badRequest "Pemeriksaan kendaraan setelah perjalanan belum selesai.")
  let db ← get
  ((db.stopsOf trip.id).filter fun s => s.status.comesBack).forM (returnStop scope trip.id)
  let _ ← scopedVehicle scope trip.vehicleId
  let _ ← vehicle.update trip.vehicleId (fun v => { v with
    status := if inspection.status = .partially then .maintenance else .available
    currentOdometer := dto.endOdometer }) .recordNotFound
  deliveryTrip.update trip.id (fun t => { t with
    status := .closed, endOdometer := some (dto.endOdometer : ℤ),
    postTripInspectionId := some inspection.id }) .recordNotFound

/-! ### Fuel -/

structure RecordFuel where
  vehicleId : ℕ
  tripId : Option ℕ := none
  (liters unitPrice : ℚ)
  transactionDate : ℕ
  odometer : Option ℕ := none
  supplierId : Option ℕ := none
  receiptNumber : Option String := none
  taxCodeId : Option ℕ := none
  paymentMode : Option String := none
  evidenceReference : Option String := none

namespace RecordFuel

variable (dto : RecordFuel)

/-- The receipt number and the evidence reference, an empty text counting as none. -/
def receipt : Option String := dto.receiptNumber.filter (· ≠ "")

def evidence : Option String := dto.evidenceReference.filter (· ≠ "")

/-- The transaction was recorded with the same receipt, or the same evidence where there is none. -/
def duplicates (f : FuelTransaction) : Bool :=
  f.companyId = scope.companyId && f.branchId = scope.branchId && f.vehicleId = dto.vehicleId &&
    match dto.receipt with
    | some _ => f.receiptNumber = dto.receipt
    | none => f.evidenceReference = dto.evidence

def sameFacts (f : FuelTransaction) : Bool :=
  f.liters = dto.liters && f.unitPrice = dto.unitPrice && f.odometer = dto.odometer.map Nat.cast

def stableReference : String :=
  match dto.receipt with
  | some receipt => s!"receipt:{receipt}"
  | none => (dto.evidence.map fun e => s!"evidence:{e}").getD ""

def mode : String := (dto.paymentMode.getD "CASH").toUpper

def event (fuelId : ℕ) (tax : TaxedAmount) (db : FleetDb) : PostOperationalEventInput where
  companyId := scope.companyId
  branchId := scope.branchId
  eventType := if dto.mode = "CREDIT" then "FLEET_FUEL_CREDIT" else "FLEET_FUEL_CASH"
  sourceType := "FuelTransaction"
  sourceId := toString fuelId
  idempotencyKey := s!"fuel:{dto.vehicleId}:{dto.stableReference}"
  businessDate := some dto.transactionDate
  amounts := [("expense", tax.net), ("inputTax", tax.tax), ("gross", tax.gross),
    ("settlement", tax.gross)]
  accountCodes := [("expense", "5202"), ("inputTax", db.receivableAccount dto.taxCodeId),
    ("settlement", settlementAccount dto.mode)]
  taxLines := taxLinesOf dto.taxCodeId .input tax

end RecordFuel

def fuelTrip (vehicle : Vehicle) : Option ℕ → FleetTx (Option DeliveryTrip)
  | none => pure none
  | some id => do
    let trip ← scopedTrip scope id
    require (trip.vehicleId = vehicle.id)
      (.badRequest "Trip tidak menggunakan kendaraan yang dipilih.")
    pure (some trip)

def advanceMeter (vehicle : Vehicle) : Option ℕ → FleetTx Unit
  | none => pure ()
  | some odometer =>
    if vehicle.currentOdometer < odometer then do
      let _ ← FleetDb.vehicle.update vehicle.id (fun v => { v with currentOdometer := odometer })
        .recordNotFound
      pure ()
    else pure ()

def placeFuel (dto : RecordFuel) (vehicle : Vehicle) (tax : TaxedAmount) :
    FleetTx FuelTransaction := do
  require (dto.mode ∈ ["CASH", "BANK", "CREDIT"])
    (.badRequest "Payment mode BBM hanya CASH, BANK, atau CREDIT.")
  require (dto.mode ≠ "CREDIT" ∨ dto.supplierId ≠ none)
    (.badRequest "BBM kredit wajib memiliki supplier agar utang dapat direkonsiliasi.")
  let id ← freshId
  fuelTransaction.create
    { id, companyId := scope.companyId, branchId := scope.branchId, vehicleId := vehicle.id,
      liters := dto.liters, unitPrice := dto.unitPrice, totalAmount := tax.gross,
      odometer := dto.odometer.map (↑), receiptNumber := dto.receiptNumber,
      evidenceReference := dto.evidenceReference } .uniqueViolation
  let db ← get
  let event ← ledgerPart.lift (postOperationalEvent (dto.event scope id tax db))
  advanceMeter vehicle dto.odometer
  fuelTransaction.update id (fun f => { f with accountingEventId := some event.key })
    .recordNotFound

def recordFuel (dto : RecordFuel) : FleetTx FuelTransaction := do
  let vehicle ← scopedVehicle scope dto.vehicleId
  require (vehicle.status ≠ .inactive ∧ vehicle.status ≠ .disposed) (.badRequest
    s!"Kendaraan berstatus {vehicle.status.text} tidak dapat menerima transaksi BBM.")
  assertSupplier scope dto.supplierId
  let trip ← fuelTrip scope vehicle dto.tripId
  require (dto.odometer.all (fun o => vehicle.currentOdometer ≤ (o : ℤ)) = true) (.badRequest
    "Odometer transaksi BBM tidak boleh lebih kecil dari odometer kendaraan saat ini.")
  require ((trip.bind DeliveryTrip.startOdometer).all
      (fun start => dto.odometer.all fun o => start ≤ (o : ℤ)) = true) (.badRequest
    "Odometer transaksi BBM tidak boleh lebih kecil dari odometer awal trip.")
  let base := toDecimalPlaces (dto.liters * dto.unitPrice) 2
  let tax ← ledgerPart.lift (calculateTax dto.taxCodeId base scope.companyId dto.transactionDate
    [.expense, .purchase, .other])
  require (dto.receipt ≠ none ∨ dto.evidence ≠ none) (.badRequest
    "Transaksi BBM wajib memiliki receiptNumber atau evidenceReference untuk trace dan retry aman.")
  let db ← get
  match (db.fuelTransactions.findMany (dto.duplicates scope)).head? with
  | some duplicate => do
    require (dto.sameFacts duplicate = true) (.badRequest
      "Receipt/evidence BBM sudah digunakan oleh transaksi lain dengan nilai berbeda.")
    pure duplicate
  | none => placeFuel scope dto vehicle tax

end Mayatoko.Fleet
