import Mayatoko.Fleet.Assets
import Mayatoko.Fleet.TripFacts

/-!
# The meter of a vehicle

Five transactions write the odometer of a vehicle. Fuel and maintenance compare their reading with the
meter, the dispatch and the close of a trip do not: the first takes over any start reading, the second
compares only with the start of the trip. So the meter runs forward in a run exactly if the readings of
its dispatches and closes do not lie behind it.
-/

namespace Mayatoko.Fleet

open Core Accounting FleetDb
open Transit (TenantScope)

variable {db db' : FleetDb} {scope : TenantScope}

/-! ### Fuel and maintenance -/

def MeterAdvanced (db db' : FleetDb) : Prop :=
  db'.vehicles = db.vehicles ∨ ∃ v ∈ db.vehicles, ∃ odometer : ℤ, v.currentOdometer ≤ odometer ∧
    db'.vehicles = db.vehicles.put { v with currentOdometer := odometer }

structure Metered (db db' : FleetDb) : Prop where
  advanced : MeterAdvanced db db'
  trips : db'.trips = db.trips
  stops : db'.stops = db.stops
  items : db'.manifestItems = db.manifestItems

lemma Metered.refl : Metered db db := ⟨.inl rfl, rfl, rfl, rfl⟩

lemma Metered.congr {db₁ db₂ : FleetDb} (h : Metered db₁ db₂) (hbefore : db₁.route = db.route)
    (hafter : db'.route = db₂.route) : Metered db db' := by
  obtain ⟨hv, ht, hs, hi⟩ := route_eq_iff.mp hbefore
  obtain ⟨hv', ht', hs', hi'⟩ := route_eq_iff.mp hafter
  refine ⟨?_, (ht'.trans h.trips).trans ht, (hs'.trans h.stops).trans hs, (hi'.trans h.items).trans hi⟩
  rw [MeterAdvanced, hv', ← hv]
  exact h.advanced

variable {v : Vehicle} {odometer : Option ℕ}

lemma advanceMeter_commits {u : Unit} (hv : v ∈ db.vehicles) (h : Commits (advanceMeter v odometer) db u db') :
    Metered db db' := by
  cases odometer with
  | none =>
    obtain ⟨_, rfl⟩ := commits_pure.mp h
    exact .refl
  | some o =>
    simp only [advanceMeter, commits_ite, commits_steps, TableOf.commits_update] at h
    obtain ⟨hlt, _, _, ⟨x, hx, _, rfl⟩, _, rfl⟩ | ⟨_, _, rfl⟩ := h
    · obtain rfl := mem_unique (find?_of_mem hv) hx
      exact ⟨.inr ⟨v, hv, o, hlt.le, rfl⟩, rfl, rfl, rfl⟩
    · exact .refl

lemma fuelTrip_readOnly {id : Option ℕ} : ReadOnly (fuelTrip scope v id) := by
  cases id with
  | none => exact leaves_pure
  | some id => exact findScoped_readOnly.bind fun _ => leaves_require.bind fun _ => leaves_pure

lemma placeFuel_commits {dto : RecordFuel} {tax : TaxedAmount} {f : FuelTransaction}
    (hv : v ∈ db.vehicles) (h : Commits (placeFuel scope dto v tax) db f db') :
    Metered db db' := by
  simp only [placeFuel, commits_steps] at h
  obtain ⟨_, _, id, t, hid, _, t₁, hcreate, event, t₂, hevent, _, t₃, hmeter, hupdate⟩ := h
  have hbefore : t₂.route = db.route :=
    (offPapers_route.ledger.lift _ _ _ hevent).trans
      ((offPapers_route.fuelTransaction.create _ _ _ hcreate).trans
        (offPapers_route.freshId _ _ _ hid))
  have hafter : db'.route = t₃.route := offPapers_route.fuelTransaction.update _ _ _ hupdate
  have hvehicles := (route_eq_iff.mp hbefore).1
  exact (advanceMeter_commits (hvehicles.symm ▸ hv) hmeter).congr hbefore hafter

lemma recordFuel_commits {dto : RecordFuel} {f : FuelTransaction}
    (h : Commits (recordFuel scope dto) db f db') :
    Metered db db' := by
  simp only [recordFuel, commits_steps] at h
  obtain ⟨v, _, hv, _, _, _, hsupplier, _, _, htrip, _, _, tax, t, htax, _, h⟩ := h
  obtain ⟨hmem, _, rfl⟩ := commits_scopedVehicle hv
  obtain rfl := assertSupplier_readOnly.eq hsupplier
  obtain rfl := fuelTrip_readOnly.eq htrip
  obtain rfl : db = t := ReadOnly.eq (Part.readOnly_lift (fun _ => rfl) leaves_calculateTax) htax
  split at h
  · simp only [commits_steps] at h
    obtain ⟨_, _, rfl⟩ := h
    exact .refl
  · exact placeFuel_commits hmem h

lemma consumeParts_route {workId : ℕ} {parts : List MaintenancePartUsage} :
    Leaves route (consumeParts scope workId parts) := by
  induction parts with
  | nil => exact leaves_pure
  | cons part rest ih =>
    refine Leaves.bind ?_ fun _ => offPapers_route.stock.lift.bind fun _ => ih.bind fun _ =>
      leaves_pure
    exact fun s u s' h => congrArg route (assertWarehouse_readOnly s u s' h)

lemma postPositive_route {amount : ℚ} {input : PostOperationalEventInput} :
    Leaves route (postPositive amount input) :=
  (offPapers_route.ledger.lift.bind fun _ => leaves_pure).ite leaves_pure

lemma checkMaintenanceInspection_readOnly {workId : ℕ} {id : Option ℕ} :
    ReadOnly (checkMaintenanceInspection scope workId id) := by
  cases id with
  | none => exact leaves_pure
  | some id => exact findScoped_readOnly.bind fun _ => leaves_require

variable {vehicleId : Option ℕ}

lemma checkOdometer_commits {u : Unit} (h : Commits (checkOdometer scope vehicleId odometer) db u db') :
    db = db' ∧ ∀ id o, vehicleId = some id → odometer = some o →
      ∃ v ∈ db.vehicles, v.id = id ∧ v.currentOdometer ≤ o := by
  match vehicleId, odometer with
  | some id, some o =>
    simp only [checkOdometer, commits_steps] at h
    obtain ⟨v, _, hv, hle, rfl⟩ := h
    obtain ⟨hmem, hid, rfl⟩ := commits_scopedVehicle hv
    refine ⟨rfl, ?_⟩
    rintro _ _ ⟨⟩ ⟨⟩
    exact ⟨v, hmem, hid, hle⟩
  | some _, none =>
    obtain ⟨_, rfl⟩ := commits_pure.mp h
    exact ⟨rfl, by simp⟩
  | none, _ =>
    obtain ⟨_, rfl⟩ := commits_pure.mp h
    exact ⟨rfl, by simp⟩

lemma recordOdometer_commits {u : Unit} (hcheck : ∀ id o, vehicleId = some id → odometer = some o →
      ∃ v ∈ db.vehicles, v.id = id ∧ v.currentOdometer ≤ o)
    (h : Commits (recordOdometer vehicleId odometer) db u db') :
    Metered db db' := by
  match vehicleId, odometer with
  | some id, some o =>
    simp only [recordOdometer, commits_steps, TableOf.commits_update] at h
    obtain ⟨_, _, ⟨x, hx, _, rfl⟩, _, rfl⟩ := h
    obtain ⟨v, hv, rfl, hle⟩ := hcheck id o rfl rfl
    obtain rfl := mem_unique (find?_of_mem hv) hx
    exact ⟨.inr ⟨v, hv, o, hle, rfl⟩, rfl, rfl, rfl⟩
  | some _, none =>
    obtain ⟨_, rfl⟩ := commits_pure.mp h
    exact .refl
  | none, _ =>
    obtain ⟨_, rfl⟩ := commits_pure.mp h
    exact .refl

variable {w : MaintenanceWorkOrder} {dto : CompleteMaintenance}

lemma finishMaintenance_commits {work : MaintenanceWorkOrder}
    (h : Commits (finishMaintenance scope work dto) db w db') :
    Metered db db' := by
  simp only [finishMaintenance, commits_steps] at h
  obtain ⟨_, _, hasset, _, _, hcategory, _, _, hinspection, _, _, tax, t, htax, _, _, hcheck, _, t₁, hparts,
    _, t₂, hexternal, _, t₃, hpost, _, _, _, t₄, hrecord, hupdate⟩ := h
  obtain rfl := findScoped_readOnly.eq hasset
  obtain rfl := findScoped_readOnly.eq hcategory
  obtain rfl := checkMaintenanceInspection_readOnly.eq hinspection
  obtain rfl : db = t := ReadOnly.eq (Part.readOnly_lift (fun _ => rfl) leaves_calculateTax) htax
  obtain ⟨rfl, hchecked⟩ := checkOdometer_commits hcheck
  have hbefore : t₃.route = db.route :=
    (postPositive_route _ _ _ hpost).trans ((postPositive_route _ _ _ hexternal).trans
      (consumeParts_route _ _ _ hparts))
  have hafter : db'.route = t₄.route := offPapers_route.maintenanceWorkOrder.update _ _ _ hupdate
  have hvehicles := (route_eq_iff.mp hbefore).1
  exact (recordOdometer_commits (hvehicles.symm ▸ hchecked) hrecord).congr hbefore hafter

lemma completeMaintenance_commits {id : ℕ} (h : Commits (completeMaintenance scope id dto) db w db') :
    Metered db db' := by
  simp only [completeMaintenance, commits_steps, commits_ite] at h
  obtain ⟨work, _, hwork, ⟨_, _, rfl⟩ | ⟨_, _, hfinish⟩⟩ := h
  · obtain rfl := findScoped_readOnly.eq hwork
    exact .refl
  · obtain rfl := findScoped_readOnly.eq hwork
    exact finishMaintenance_commits hfinish

/-! ### Runs -/

inductive FleetCall
  | createTrip (scope : TenantScope) (dto : CreateDeliveryTrip)
  | confirmLoading (scope : TenantScope) (tripId inspectionId : ℕ) (scans : List LoadingScan)
  | dispatch (scope : TenantScope) (tripId : ℕ) (dto : DispatchTrip)
  | completeStop (scope : TenantScope) (stopId : ℕ) (dto : CompleteStop)
  | closeTrip (scope : TenantScope) (tripId : ℕ) (dto : CloseTrip)
  | recordFuel (scope : TenantScope) (dto : RecordFuel)
  | completeMaintenance (scope : TenantScope) (id : ℕ) (dto : CompleteMaintenance)

/-- The transaction of a call, without its result. -/
def FleetCall.tx : FleetCall → FleetTx Unit
  | createTrip scope dto => discard (Fleet.createTrip scope dto)
  | confirmLoading scope tripId inspectionId scans =>
    discard (Fleet.confirmLoading scope tripId inspectionId scans)
  | dispatch scope tripId dto => discard (Fleet.dispatch scope tripId dto)
  | completeStop scope stopId dto => discard (Fleet.completeStop scope stopId dto)
  | closeTrip scope tripId dto => discard (Fleet.closeTrip scope tripId dto)
  | recordFuel scope dto => discard (Fleet.recordFuel scope dto)
  | completeMaintenance scope id dto => discard (Fleet.completeMaintenance scope id dto)

inductive FleetStep : FleetDb → Option FleetCall → FleetDb → Prop
  | call {db db' : FleetDb} {c : FleetCall} : Commits c.tx db () db' → FleetStep db (some c) db'
  | elsewhere {db db' : FleetDb} :
      (∀ v ∈ db.vehicles, ∃ v' ∈ db'.vehicles, v'.id = v.id ∧
        v'.currentOdometer = v.currentOdometer) →
      db'.trips = db.trips → db'.stops = db.stops → db'.manifestItems = db.manifestItems →
      FleetStep db none db'

inductive FleetEffect (db db' : FleetDb) : Option FleetCall → Prop
  | created {scope : TenantScope} {dto : CreateDeliveryTrip} {id : ℕ} :
      TripCreated scope dto id db db' → FleetEffect db db' (some (.createTrip scope dto))
  | loaded {scope : TenantScope} {tripId inspectionId : ℕ} {scans : List LoadingScan} :
      TripLoaded tripId db db' →
        FleetEffect db db' (some (.confirmLoading scope tripId inspectionId scans))
  | dispatched {scope : TenantScope} {tripId : ℕ} {dto : DispatchTrip} :
      TripDispatched tripId dto db db' → FleetEffect db db' (some (.dispatch scope tripId dto))
  | replayed {scope : TenantScope} {stopId : ℕ} {dto : CompleteStop} :
      db' = db → FleetEffect db db' (some (.completeStop scope stopId dto))
  | completed {scope : TenantScope} {stopId : ℕ} {dto : CompleteStop} {stop : DeliveryStop} :
      StopCompleted stop dto db db' → FleetEffect db db' (some (.completeStop scope stopId dto))
  | closed {scope : TenantScope} {tripId : ℕ} {dto : CloseTrip} :
      TripClosed tripId dto db db' → FleetEffect db db' (some (.closeTrip scope tripId dto))
  | fuelled {scope : TenantScope} {dto : RecordFuel} :
      Metered db db' → FleetEffect db db' (some (.recordFuel scope dto))
  | maintained {scope : TenantScope} {id : ℕ} {dto : CompleteMaintenance} :
      Metered db db' → FleetEffect db db' (some (.completeMaintenance scope id dto))
  | elsewhere :
      (∀ v ∈ db.vehicles, ∃ v' ∈ db'.vehicles, v'.id = v.id ∧
        v'.currentOdometer = v.currentOdometer) →
      db'.trips = db.trips → db'.stops = db.stops → db'.manifestItems = db.manifestItems →
      FleetEffect db db' none

lemma FleetCall.effect {c : FleetCall} (h : Commits c.tx db () db') : FleetEffect db db' (some c) := by
  cases c with
  | createTrip scope dto =>
    obtain ⟨_, hc⟩ := commits_discard.mp h
    exact .created (createTrip_commits hc)
  | confirmLoading scope tripId inspectionId scans =>
    obtain ⟨_, hc⟩ := commits_discard.mp h
    exact .loaded (confirmLoading_commits hc)
  | dispatch scope tripId dto =>
    obtain ⟨_, hc⟩ := commits_discard.mp h
    exact .dispatched (dispatch_commits hc)
  | completeStop scope stopId dto =>
    obtain ⟨_, hc⟩ := commits_discard.mp h
    obtain hsame | ⟨stop, hstop⟩ := completeStop_commits hc
    · exact .replayed hsame
    · exact .completed hstop
  | closeTrip scope tripId dto =>
    obtain ⟨_, hc⟩ := commits_discard.mp h
    exact .closed (closeTrip_commits hc)
  | recordFuel scope dto =>
    obtain ⟨_, hc⟩ := commits_discard.mp h
    exact .fuelled (recordFuel_commits hc)
  | completeMaintenance scope id dto =>
    obtain ⟨_, hc⟩ := commits_discard.mp h
    exact .maintained (completeMaintenance_commits hc)

variable {a : Option FleetCall}

lemma FleetStep.effect (h : FleetStep db a db') : FleetEffect db db' a := by
  cases h with
  | call hc => exact FleetCall.effect hc
  | elsewhere hmeters htrips hstops hitems => exact .elsewhere hmeters htrips hstops hitems

/-! ### The meter runs forward -/

def MetersForward (db db' : FleetDb) : Prop :=
  ∀ v ∈ db.vehicles, ∃ v' ∈ db'.vehicles, v'.id = v.id ∧ v.currentOdometer ≤ v'.currentOdometer

/-- A closed trip does not end before it starts. -/
def DeliveryTrip.EndsAfterStart (t : DeliveryTrip) : Prop :=
  t.status = .closed → ∃ e, t.endOdometer = some e ∧ ∀ s, t.startOdometer = some s → s ≤ e

def TripsForward (db : FleetDb) : Prop := ∀ t ∈ db.trips, t.EndsAfterStart

def FleetDb.meterOf (db : FleetDb) (tripId : ℕ) : Option ℤ :=
  ((db.trips.find? tripId).bind fun t => db.vehicles.find? t.vehicleId).map Vehicle.currentOdometer

def FleetDb.startReading (db : FleetDb) (tripId : ℕ) (dto : DispatchTrip) : Option ℤ :=
  (db.trips.find? tripId).bind dto.start

/-- The reading of a dispatch or a close is not behind the meter of the vehicle. -/
def ReadsForward (db : FleetDb) : Option FleetCall → Prop
  | some (.dispatch _ tripId dto) =>
    ∀ start ∈ db.startReading tripId dto, ∀ m ∈ db.meterOf tripId, m ≤ start
  | some (.closeTrip _ tripId dto) => ∀ m ∈ db.meterOf tripId, m ≤ dto.endOdometer
  | _ => True

instance (db : FleetDb) (a : Option FleetCall) : Decidable (ReadsForward db a) := by
  unfold ReadsForward
  split <;> infer_instance

lemma metersForward_of_eq (h : db'.vehicles = db.vehicles) : MetersForward db db' :=
  fun v hv => ⟨v, h ▸ hv, rfl, le_refl _⟩

lemma metersForward_iff_of_put {w : Vehicle} (h : db'.vehicles = db.vehicles.put w)
    (hv : v ∈ db.vehicles) (hid : w.id = v.id) :
    MetersForward db db' ↔ v.currentOdometer ≤ w.currentOdometer := by
  constructor
  · intro hforward
    obtain ⟨v', hv', hid', hle⟩ := hforward v hv
    have hw : w ∈ db'.vehicles := h ▸ mem_put_self _ _
    rwa [eq_of_key_eq hv' hw (hid'.trans hid.symm)] at hle
  · intro hle x hx
    rw [h]
    by_cases hkey : x.id = w.id
    · obtain rfl := eq_of_key_eq hx hv (hkey.trans hid)
      exact ⟨w, mem_put_self _ _, hid, hle⟩
    · exact ⟨x, mem_put.mpr (Or.inr ⟨hx, hkey⟩), rfl, le_refl _⟩

lemma MeterAdvanced.metersForward (h : MeterAdvanced db db') : MetersForward db db' := by
  obtain heq | ⟨v, hv, o, hle, hput⟩ := h
  · exact metersForward_of_eq heq
  · exact (metersForward_iff_of_put hput hv rfl).mpr hle

lemma meterOf_eq {t : DeliveryTrip} (ht : t ∈ db.trips) (hv : v ∈ db.vehicles)
    (hid : v.id = t.vehicleId) : db.meterOf t.id = some v.currentOdometer := by
  rw [meterOf, find?_of_mem ht, Option.bind_some, ← hid, find?_of_mem hv]
  rfl

lemma metersForward_iff_of_dispatch {tripId : ℕ} {dto : DispatchTrip} (h : TripDispatched tripId dto db db') :
    MetersForward db db' ↔ ReadsForward db (some (.dispatch scope tripId dto)) := by
  obtain ⟨t, ht, rfl, _, v, hv, hid, hvehicles, _⟩ := h.rows
  rw [metersForward_iff_of_put hvehicles hv rfl, ReadsForward, startReading, meterOf_eq ht hv hid,
    find?_of_mem ht, Option.bind_some]
  cases hstart : dto.start t with
  | none => simp
  | some start => simp

lemma metersForward_iff_of_close {tripId : ℕ} {dto : CloseTrip} (h : TripClosed tripId dto db db') :
    MetersForward db db' ↔ ReadsForward db (some (.closeTrip scope tripId dto)) := by
  obtain ⟨t, ht, rfl, _, _, v, hv, hid, ⟨_, hvehicles⟩, _⟩ := h.rows
  rw [metersForward_iff_of_put hvehicles hv rfl, ReadsForward, meterOf_eq ht hv hid]
  simp

lemma metersForward_iff_of_step (h : FleetStep db a db') : MetersForward db db' ↔ ReadsForward db a := by
  cases h.effect with
  | created heffect =>
    obtain ⟨v, hv, hvehicles⟩ := heffect.vehicle
    exact iff_of_true ((metersForward_iff_of_put hvehicles hv rfl).mpr (le_refl _)) trivial
  | loaded heffect => exact iff_of_true (metersForward_of_eq heffect.vehicles) trivial
  | dispatched heffect => exact metersForward_iff_of_dispatch heffect
  | replayed hsame => exact iff_of_true (metersForward_of_eq (congrArg vehicles hsame)) trivial
  | completed heffect => exact iff_of_true (metersForward_of_eq heffect.vehicles) trivial
  | closed heffect => exact metersForward_iff_of_close heffect
  | fuelled heffect => exact iff_of_true heffect.advanced.metersForward trivial
  | maintained heffect => exact iff_of_true heffect.advanced.metersForward trivial
  | elsewhere hmeters _ _ _ =>
    refine iff_of_true (fun v hv => ?_) trivial
    obtain ⟨v', hv', hid, heq⟩ := hmeters v hv
    exact ⟨v', hv', hid, heq.ge⟩

lemma TripsForward.put (h : TripsForward db) {t : DeliveryTrip}
    (htrips : db'.trips = db.trips.put t) (ht : t.EndsAfterStart) : TripsForward db' := by
  intro x hx
  rcases mem_put.mp (htrips ▸ hx) with rfl | ⟨hx, _⟩
  · exact ht
  · exact h x hx

lemma TripsForward.congr (h : TripsForward db) (htrips : db'.trips = db.trips) : TripsForward db' := by
  rwa [TripsForward, htrips]

lemma tripsForward_of_step (hdb : TripsForward db) (h : FleetStep db a db') : TripsForward db' := by
  cases h.effect with
  | created heffect => exact hdb.put heffect.trips (by nofun)
  | loaded heffect =>
    obtain ⟨t, _, _, _, _, htrips⟩ := heffect.trips
    exact hdb.put htrips (by nofun)
  | dispatched heffect =>
    obtain ⟨t, _, _, _, _, _, _, _, _, _, htrips⟩ := heffect.rows
    exact hdb.put htrips (by nofun)
  | replayed hsame => exact hdb.congr (congrArg trips hsame)
  | completed heffect =>
    obtain ⟨t, ht, _, hstatus, htrips⟩ := heffect.trips
    refine hdb.put htrips fun hclosed => ?_
    -- the trip is under way, and completing a stop does not close it
    dsimp only at hclosed
    split_ifs at hclosed
    simp [hclosed] at hstatus
  | closed heffect =>
    obtain ⟨t, _, _, _, hstart, _, _, _, _, _, htrips⟩ := heffect.rows
    exact hdb.put htrips fun _ => ⟨_, rfl, hstart⟩
  | fuelled heffect => exact hdb.congr heffect.trips
  | maintained heffect => exact hdb.congr heffect.trips
  | elsewhere _ htrips _ _ => exact hdb.congr htrips

/-- In every run, no step turns a meter back and no closed trip ends before its start exactly if every
dispatch and every close reads a meter that has run forward. -/
theorem metersForward_iff {calls : List (Option FleetCall)} (h : TripsForward db) :
    Run (fun s a s' => FleetStep s a s' ∧ MetersForward s s' ∧ TripsForward s') db calls db' ↔
      Run (Guarded ReadsForward FleetStep) db calls db' := by
  refine Run.and_iff_guarded_of_invariant (fun s a s' hs hstep => tripsForward_of_step hs hstep)
    (fun s a s' hs hstep => ?_) h
  rw [and_iff_left (tripsForward_of_step hs hstep)]
  exact metersForward_iff_of_step hstep

def depot : FleetDb :=
  { FleetDb.empty with
    stock := { Stock.Db.empty with products := Table.empty.put { id := 7, name := "Beras" } }
    employees := Table.empty.put { id := 3, companyId := 1, branchId := 1 }
    vehicles := Table.empty.put { id := 5, companyId := 1, branchId := 1, currentOdometer := 1000 }
    inspections := Table.empty.put
      { id := 1, companyId := 1, branchId := some 1, type := "VEHICLE_PRETRIP",
        sourceType := "DeliveryTrip", sourceId := 0, status := .passed }
    gatePasses := Table.empty.put
      { id := 1, companyId := 1, branchId := 1, direction := "OUTBOUND", status := .approved,
        sourceType := "DeliveryTrip", sourceId := 0 } }

def dispatchAt (start : Option ℕ) : List FleetCall :=
  [.createTrip ⟨1, 1⟩ { vehicleId := 5, driverEmployeeId := 3, number := "TRIP-1",
                        stops := [{ sequence := 1 }],
                        manifestItems := [{ stopSequence := some 1, productId := 7,
                                            expectedQty := 2 }] },
    .confirmLoading ⟨1, 1⟩ 0 1 [⟨2, 2, none⟩], .dispatch ⟨1, 1⟩ 0 ⟨1, 1, start⟩]

variable {calls : List FleetCall}

lemma fleetRun_of_execute
    (h : (execute (calls.forM FleetCall.tx) db).1 = .ok ()) :
    Run FleetStep db (calls.map some) (execute (calls.forM FleetCall.tx) db).2 :=
  (commits_forM_iff_run.mp (commits_of_execute h)).map fun _ _ _ hs => FleetStep.call hs

def FleetCall.guarded (c : FleetCall) : FleetTx Unit := do
  let db ← get
  require (ReadsForward db (some c)) .recordNotFound
  c.tx

lemma guardedRun_of_execute
    (h : (execute (calls.forM FleetCall.guarded) db).1 = .ok ()) :
    Run (Guarded ReadsForward FleetStep) db (calls.map some)
      (execute (calls.forM FleetCall.guarded) db).2 := by
  refine (commits_forM_iff_run.mp (commits_of_execute h)).map fun s c s' hs => ?_
  simp only [FleetCall.guarded, commits_steps] at hs
  obtain ⟨hreads, hc⟩ := hs
  exact ⟨hreads, .call hc⟩

lemma depot_tripsForward : TripsForward depot := by
  intro t ht
  cases ht

/-- A dispatch that reads 500 turns a meter of 1000 back. -/
theorem dispatch_turnsMeterBack :
    ∃ db, TripsForward depot ∧ Run FleetStep depot ((dispatchAt (some 500)).map some) db ∧
      depot.vehicles.rows.map Vehicle.currentOdometer = [1000] ∧
      db.vehicles.rows.map Vehicle.currentOdometer = [500] :=
  ⟨_, depot_tripsForward, fleetRun_of_execute (by decide +kernel), by decide +kernel,
    by decide +kernel⟩

theorem metersForward_dispatched : ∃ db, db.vehicles.rows.map Vehicle.currentOdometer = [1200] ∧
      Run (fun s a s' => FleetStep s a s' ∧ MetersForward s s' ∧ TripsForward s') depot
        ((dispatchAt (some 1200)).map some) db := by
  have hrun := @guardedRun_of_execute depot (dispatchAt (some 1200)) (by decide +kernel)
  exact ⟨_, by decide +kernel, (metersForward_iff depot_tripsForward).mpr hrun⟩

end Mayatoko.Fleet
