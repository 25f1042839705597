import Mayatoko.Fleet.Trips

/-!
# What the transactions on trips write

For each transaction of a trip, what it makes of the vehicles, the trips, the stops and the manifest.
-/

namespace Mayatoko.Fleet

open Core Accounting FleetDb
open Transit (TenantScope)

variable {α : Type} {db db' : FleetDb} {scope : TenantScope}

def FleetDb.route (db : FleetDb) :
    Table Vehicle.id × Table DeliveryTrip.id × Table DeliveryStop.id × Table DeliveryManifestItem.id :=
  (db.vehicles, db.trips, db.stops, db.manifestItems)

/-- `f` only looks at vehicles, trips, stops, manifest and assets. -/
structure OffPapers (f : FleetDb → α) : Prop where
  frame : ∀ db n st l sh g fu w r, f { db with
    nextId := n, stock := st, ledger := l, shipments := sh, gatePasses := g, fuelTransactions := fu,
    workOrders := w, depreciationRuns := r } = f db

namespace OffPapers

variable {f : FleetDb → α} (hf : OffPapers f)

include hf

lemma freshId : Leaves f freshId := by
  intro db id db' h
  simp only [Fleet.freshId, commits_steps, commits_set] at h
  obtain ⟨_, _, rfl, rfl, rfl⟩ := h
  exact hf.frame ..

lemma stock : stockPart.Apart f := ⟨fun _ _ => hf.frame ..⟩

lemma ledger : ledgerPart.Apart f := ⟨fun _ _ => hf.frame ..⟩

lemma shipment : shipment.Apart f := ⟨fun _ _ => hf.frame ..⟩

lemma fuelTransaction : fuelTransaction.Apart f := ⟨fun _ _ => hf.frame ..⟩

lemma maintenanceWorkOrder : maintenanceWorkOrder.Apart f := ⟨fun _ _ => hf.frame ..⟩

lemma shipManifest {trip : DeliveryTrip} {gatePassId : ℕ} : Leaves f (shipManifest scope trip gatePassId) := by
  refine leaves_get.bind fun _ => Leaves.bind ?_ fun _ => ?_
  · exact Leaves.forM fun _ s a s' h => congrArg f (assertShipment_readOnly s a s' h)
  · exact (hf.shipment.updateMany.bind fun _ => leaves_pure).ite leaves_pure

lemma updateShipment {id : Option ℕ} {status : Loyalty.ShipmentStatus} :
    Leaves f (updateShipment id status) := by
  cases id with
  | none => exact leaves_pure
  | some id => exact hf.shipment.update.bind fun _ => leaves_pure

end OffPapers

lemma offPapers_route : OffPapers route := ⟨fun _ _ _ _ _ _ _ _ _ => rfl⟩

lemma route_eq_iff {a b : FleetDb} : a.route = b.route ↔ a.vehicles = b.vehicles ∧
    a.trips = b.trips ∧ a.stops = b.stops ∧ a.manifestItems = b.manifestItems := by
  simp [FleetDb.route]

/-! ### Creation -/

structure NewStop (tripId : ℕ) (s : DeliveryStop) : Prop where
  trip : s.tripId = tripId
  status : s.status = .pending
  collected : s.codCollected = 0
  expected : 0 ≤ s.codExpected

structure NewItem (tripId : ℕ) (stops : List DeliveryStop) (i : DeliveryManifestItem) : Prop where
  trip : i.tripId = tripId
  expected : 0 < i.expectedQty
  loaded : i.loadedQty = 0
  settled : i.deliveredQty = 0 ∧ i.returnedQty = 0
  stop : ∀ id, i.stopId = some id → ∃ s ∈ stops, s.id = id

def DeliveryStopInput.cod (stop : DeliveryStopInput) : ℚ := stop.codExpected.elim 0 (↑)

lemma cod_nonneg {o : Option ℚ≥0} : 0 ≤ o.elim (0 : ℚ) (↑) := by
  cases o with
  | none => exact le_refl _
  | some x => exact x.coe_nonneg

variable {tripId : ℕ} {stopMap : List (ℤ × ℕ)}

lemma createStops_commits {inputs : List DeliveryStopInput}
    (h : Commits (createStops tripId inputs) db stopMap db') :
    (db'.vehicles = db.vehicles ∧ db'.trips = db.trips ∧ db'.manifestItems = db.manifestItems) ∧
      ∃ added, db'.stops.rows = db.stops.rows ++ added ∧ (∀ s ∈ added, NewStop tripId s) ∧
        added.map DeliveryStop.codExpected = inputs.map DeliveryStopInput.cod ∧
        ∀ n id, stopMap.lookup n = some id → ∃ s ∈ added, s.id = id := by
  induction inputs generalizing db stopMap with
  | nil =>
    obtain ⟨rfl, rfl⟩ := commits_pure.mp h
    exact ⟨⟨rfl, rfl, rfl⟩, [], (append_nil _).symm, nofun, rfl, nofun⟩
  | cons input rest ih =>
    simp only [createStops, commits_bind, commits_pure, TableOf.commits_create] at h
    obtain ⟨id, t, hid, _, _, ⟨hfresh, rfl⟩, map, _, hrest, rfl, rfl⟩ := h
    obtain ⟨hvehicles, htrips, hstops, hitems⟩ := route_eq_iff.mp (offPapers_route.freshId _ _ _ hid)
    obtain ⟨⟨hv, ht, hi⟩, added, hrows, hnew, hcod, hmap⟩ := ih hrest
    refine ⟨⟨hv.trans hvehicles, ht.trans htrips, hi.trans hitems⟩, ?_⟩
    set row : DeliveryStop := { id, tripId, sequence := input.sequence,
                                shipmentId := input.shipmentId, codExpected := input.cod }
    refine ⟨row :: added, ?_, ?_, ?_, ?_⟩
    · have hput : (t.stops.put row).rows = t.stops.rows ++ [row] := by
        refine Table.rows_put_of_not_mem fun hmem => ?_
        obtain ⟨s, hs, hkey⟩ := mem_map.mp hmem
        exact find?_eq_none.mp hfresh s hs hkey
      rw [hrows, ← hstops]
      exact (congrArg (· ++ added) hput).trans (append_assoc _ _ _)
    · exact forall_mem_cons.mpr ⟨⟨rfl, rfl, rfl, cod_nonneg⟩, hnew⟩
    · simpa using ⟨rfl, hcod⟩
    · intro n sid hsid
      rw [List.lookup_cons] at hsid
      split at hsid
      · exact ⟨row, mem_cons_self, Option.some.inj hsid⟩
      · obtain ⟨s, hs, hs'⟩ := hmap n sid hsid
        exact ⟨s, mem_cons_of_mem _ hs, hs'⟩

variable {u : Unit}

lemma createManifestItems_commits {stops : List DeliveryStop} {inputs : List ManifestItemInput}
    (hmap : ∀ n id, stopMap.lookup n = some id → ∃ s ∈ stops, s.id = id)
    (h : Commits (inputs.forM (createManifestItem tripId stopMap)) db u db') :
    (db'.vehicles = db.vehicles ∧ db'.trips = db.trips ∧ db'.stops = db.stops) ∧
      ∃ added, db'.manifestItems.rows = db.manifestItems.rows ++ added ∧
        ∀ i ∈ added, NewItem tripId stops i := by
  induction inputs generalizing db with
  | nil =>
    obtain rfl := commits_forM_nil.mp h
    exact ⟨⟨rfl, rfl, rfl⟩, [], (append_nil _).symm, nofun⟩
  | cons input rest ih =>
    obtain ⟨t, hfirst, hrest⟩ := commits_forM_cons.mp h
    simp only [createManifestItem, commits_bind, TableOf.commits_create] at hfirst
    obtain ⟨id, t', hid, hfresh, rfl⟩ := hfirst
    obtain ⟨hvehicles, htrips, hstops, hitems⟩ := route_eq_iff.mp (offPapers_route.freshId _ _ _ hid)
    obtain ⟨⟨hv, ht, hs⟩, added, hrows, hnew⟩ := ih hrest
    refine ⟨⟨hv.trans hvehicles, ht.trans htrips, hs.trans hstops⟩, ?_⟩
    set row : DeliveryManifestItem :=
      { id, tripId, stopId := input.stopSequence.bind (stopMap.lookup ·),
        shipmentId := input.shipmentId, productId := input.productId,
        expectedQty := input.expectedQty }
    refine ⟨row :: added, ?_, forall_mem_cons.mpr ⟨?_, hnew⟩⟩
    · have hput : (t'.manifestItems.put row).rows = t'.manifestItems.rows ++ [row] := by
        refine Table.rows_put_of_not_mem fun hmem => ?_
        obtain ⟨i, hi, hkey⟩ := mem_map.mp hmem
        exact find?_eq_none.mp hfresh i hi hkey
      rw [hrows, ← hitems]
      exact (congrArg (· ++ added) hput).trans (append_assoc _ _ _)
    · refine ⟨rfl, ?_, rfl, ⟨rfl, rfl⟩, ?_⟩
      · exact Int.natCast_pos.mpr input.expectedQty.pos
      · intro sid hsid
        obtain ⟨n, _, hn⟩ := Option.bind_eq_some_iff.mp hsid
        exact hmap n sid hn

structure TripCreated (scope : TenantScope) (dto : CreateDeliveryTrip) (id : ℕ)
    (db db' : FleetDb) : Prop where
  fresh : db.trips.find? id = none
  trips : db'.trips = db.trips.put (dto.row scope id)
  vehicle : ∃ v ∈ db.vehicles, db'.vehicles = db.vehicles.put { v with
    status := .assigned, defaultDriverEmployeeId := some dto.driverEmployeeId }
  rows : ∃ stops items, db'.stops.rows = db.stops.rows ++ stops ∧
    db'.manifestItems.rows = db.manifestItems.rows ++ items ∧ (∀ s ∈ stops, NewStop id s) ∧
    stops.map DeliveryStop.codExpected = dto.stops.map DeliveryStopInput.cod ∧
    ∀ i ∈ items, NewItem id stops i

lemma checkStopInput_readOnly {stop : DeliveryStopInput} : ReadOnly (checkStopInput scope stop) :=
  assertShipment_readOnly.bind fun _ => assertDocument_readOnly.bind fun _ =>
    assertDocument_readOnly

lemma checkManifestItem_readOnly {stops : List DeliveryStopInput} {item : ManifestItemInput} :
    ReadOnly (checkManifestItem scope stops item) := by
  refine leaves_refuse.bind fun _ => assertShipment_readOnly.bind fun _ =>
    assertDocument_readOnly.bind fun _ => leaves_get.bind fun _ => leaves_orThrow.bind fun _ =>
      Leaves.bind ?_ fun _ => ?_
  · cases item.batchId with
    | none => exact leaves_pure
    | some id =>
      exact leaves_get.bind fun _ => leaves_orThrow.bind fun _ => assertWarehouse_readOnly
  · cases item.serialId with
    | none => exact leaves_pure
    | some id =>
      exact leaves_get.bind fun _ => leaves_orThrow.bind fun _ => assertWarehouse_readOnly

lemma checkVehicle_readOnly {dto : CreateDeliveryTrip} {v : Vehicle} : ReadOnly (checkVehicle dto v) :=
  leaves_require.bind fun _ => leaves_require.bind fun _ => leaves_require.bind fun _ =>
    leaves_require

lemma createTrip_commits {dto : CreateDeliveryTrip} {id : ℕ}
    (h : Commits (createTrip scope dto) db id db') : TripCreated scope dto id db db' := by
  simp only [createTrip, commits_bind, commits_require] at h
  obtain ⟨_, _, ⟨_, rfl⟩, _, _, ⟨_, rfl⟩, v, _, hv, _, _, ⟨_, rfl⟩, _, _, hemployee, _, _, hwarehouse,
    _, _, hstops, _, _, hitems, _, _, hcheck, hplace⟩ := h
  obtain ⟨hmem, _, rfl⟩ := commits_scopedVehicle hv
  obtain rfl := assertEmployee_readOnly.eq hemployee
  obtain rfl := assertWarehouse_readOnly.eq hwarehouse
  obtain rfl := ReadOnly.eq (Leaves.forM fun _ => checkStopInput_readOnly) hstops
  obtain rfl := ReadOnly.eq (Leaves.forM fun _ => checkManifestItem_readOnly) hitems
  obtain rfl := checkVehicle_readOnly.eq hcheck
  simp only [placeTrip, commits_bind, commits_get, commits_require, commits_pure,
    TableOf.commits_create, TableOf.commits_update] at hplace
  obtain ⟨id, t, hid, _, _, ⟨rfl, rfl⟩, _, _, ⟨_, rfl⟩, _, _, ⟨hfresh, rfl⟩, stopMap, t₁, hnewStops,
    _, t₂, hnewItems, _, _, ⟨o, ho, _, rfl⟩, rfl, rfl⟩ := hplace
  obtain ⟨hvehicles, htrips, hstops, hitems⟩ := route_eq_iff.mp (offPapers_route.freshId _ _ _ hid)
  obtain ⟨⟨hv₁, ht₁, hi₁⟩, stops, hrows, hnew, hcod, hmap⟩ := createStops_commits hnewStops
  obtain ⟨⟨hv₂, ht₂, hs₂⟩, items, hrows', hnew'⟩ := createManifestItems_commits hmap hnewItems
  have hvehicles' : t₂.vehicles = db.vehicles := (hv₂.trans hv₁).trans hvehicles
  change t₂.vehicles.find? v.id = some o at ho
  rw [hvehicles', find?_of_mem hmem] at ho
  obtain rfl := Option.some.inj ho
  constructor
  case fresh => exact htrips ▸ hfresh
  case trips => exact (ht₂.trans ht₁).trans (congrArg (Table.put · _) htrips)
  case vehicle => exact ⟨v, hmem, congrArg (Table.put · _) hvehicles'⟩
  case rows =>
    refine ⟨stops, items, ?_, ?_, hnew, hcod, hnew'⟩
    · exact (congrArg Table.rows hs₂).trans (hstops ▸ hrows)
    · refine hrows'.trans (congrArg (Table.rows · ++ items) ?_)
      exact hi₁.trans hitems

/-! ### Loading and dispatch -/

def Scanned (tripId : ℕ) (i i' : DeliveryManifestItem) : Prop :=
  i' = i ∨ i.tripId = tripId ∧ ∃ scan : LoadingScan, i' = scan.apply i

structure TripLoaded (tripId : ℕ) (db db' : FleetDb) : Prop where
  trips : ∃ t ∈ db.trips, t.id = tripId ∧ t.status ∈ [.draft, .planned, .loading] ∧ ∃ i,
    db'.trips = db.trips.put { t with status := .readyToDispatch, loadingInspectionId := some i }
  vehicles : db'.vehicles = db.vehicles
  stops : db'.stops = db.stops
  items : ∀ i' ∈ db'.manifestItems, ∃ i ∈ db.manifestItems, Scanned tripId i i'
  whole : ∀ i ∈ db'.itemsOf tripId, i.loadedQty = i.expectedQty

variable {items : List DeliveryManifestItem}

lemma confirmScan_commits {scan : LoadingScan} (h : Commits (confirmScan items scan) db u db') :
    ∃ item ∈ items, ∃ i ∈ db.manifestItems, i.id = item.id ∧
      db' = { db with manifestItems := db.manifestItems.put (scan.apply i) } := by
  simp only [confirmScan, commits_steps, TableOf.commits_update] at h
  obtain ⟨item, hitem, _, _, _, ⟨i, hi, _, rfl⟩, _, rfl⟩ := h
  obtain ⟨hmem, hid⟩ := find?_eq_some.mp hi
  exact ⟨item, List.mem_of_find?_eq_some hitem, i, hmem, hid, rfl⟩

variable {i i' : DeliveryManifestItem}

lemma Scanned.apply (h : Scanned tripId i i')
    (hi : i.tripId = tripId) (scan : LoadingScan) : Scanned tripId i (scan.apply i') := by
  refine .inr ⟨hi, scan, ?_⟩
  obtain rfl | ⟨_, earlier, rfl⟩ := h
  · rfl
  · rfl

lemma Scanned.id_eq (h : Scanned tripId i i') : i'.id = i.id := by
  obtain rfl | ⟨_, _, rfl⟩ := h
  · rfl
  · rfl

variable {scans : List LoadingScan}

lemma confirmScans_commits (hitems : ∀ i ∈ items, i ∈ db.itemsOf tripId)
    (h : Commits (scans.forM (confirmScan items)) db u db') :
    db' = { db with manifestItems := db'.manifestItems } ∧
      ∀ i' ∈ db'.manifestItems, ∃ i ∈ db.manifestItems, Scanned tripId i i' := by
  refine h.forM (I := fun _ t => t = { db with manifestItems := t.manifestItems } ∧
    ∀ i' ∈ t.manifestItems, ∃ i ∈ db.manifestItems, Scanned tripId i i') ?_
    ⟨rfl, fun i hi => ⟨i, hi, .inl rfl⟩⟩
  rintro scan _ t t' ⟨hframe, hrows⟩ hscan
  obtain ⟨item, hitem, x, hx, hid, rfl⟩ := confirmScan_commits hscan
  refine ⟨by rw [hframe], fun i' hi' => ?_⟩
  rcases mem_put.mp hi' with rfl | ⟨hi', _⟩
  · obtain ⟨i, hi, hscanned⟩ := hrows x hx
    obtain ⟨hmem, htrip⟩ := mem_findMany.mp (hitems item hitem)
    obtain rfl := eq_of_key_eq hi hmem (hscanned.id_eq.symm.trans hid)
    exact ⟨i, hi, hscanned.apply (by simpa using htrip) scan⟩
  · exact hrows i' hi'

variable {t' : DeliveryTrip}

lemma confirmLoading_commits {inspectionId : ℕ}
    (h : Commits (confirmLoading scope tripId inspectionId scans) db t' db') : TripLoaded tripId db db' := by
  simp only [confirmLoading, commits_steps, TableOf.commits_update] at h
  obtain ⟨t, _, ht, hstatus, inspection, _, hinspection, _, _, t₁, hscans, hwhole, o, ho, rfl, rfl⟩ := h
  obtain ⟨hmem, rfl, rfl⟩ := commits_scopedTrip ht
  obtain rfl := findScoped_readOnly.eq hinspection
  obtain ⟨hframe, hrows⟩ := confirmScans_commits (fun _ hi => hi) hscans
  rw [hframe] at ho
  obtain rfl := mem_unique (find?_of_mem hmem) ho
  constructor
  case trips =>
    refine ⟨t, hmem, rfl, hstatus, inspection.id, ?_⟩
    rw [hframe]
    rfl
  case vehicles => rw [hframe]; rfl
  case stops => rw [hframe]; rfl
  case items => exact hrows
  case whole =>
    intro i hi
    have hloaded := List.all_eq_true.mp hwhole i hi
    simp only [DeliveryManifestItem.loadedWhole, cond_iff] at hloaded
    exact hloaded.1

structure TripDispatched (tripId : ℕ) (dto : DispatchTrip) (db db' : FleetDb) : Prop where
  rows : ∃ t ∈ db.trips, t.id = tripId ∧ t.status = .readyToDispatch ∧
    ∃ v ∈ db.vehicles, v.id = t.vehicleId ∧
      db'.vehicles = db.vehicles.put { v with
        status := .onTrip, currentOdometer := (dto.start t).getD v.currentOdometer } ∧
      ∃ p g, db'.trips = db.trips.put { t with
        status := .dispatched, preTripInspectionId := some p, gatePassId := some g,
        startOdometer := dto.start t }
  stops : db'.stops = db.stops
  items : db'.manifestItems = db.manifestItems

lemma dispatch_commits {dto : DispatchTrip}
    (h : Commits (dispatch scope tripId dto) db t' db') : TripDispatched tripId dto db db' := by
  obtain ⟨t, _, ht, hrest⟩ := commits_bind.mp h
  obtain ⟨hmem, rfl, rfl⟩ := commits_scopedTrip ht
  obtain ⟨hstatus, hrest⟩ := commits_require_bind.mp hrest
  obtain ⟨preTrip, _, hpre, hrest⟩ := commits_bind.mp hrest
  obtain rfl := findScoped_readOnly.eq hpre
  obtain ⟨_, hrest⟩ := commits_require_bind.mp hrest
  obtain ⟨pass, _, hpass, hrest⟩ := commits_bind.mp hrest
  obtain rfl := findScoped_readOnly.eq hpass
  obtain ⟨_, hrest⟩ := commits_require_bind.mp hrest
  obtain ⟨_, t₁, hship, hrest⟩ := commits_bind.mp hrest
  obtain ⟨_, _, hvehicle, hrest⟩ := commits_bind.mp hrest
  obtain ⟨v, hv, _, rfl⟩ := TableOf.commits_update.mp hvehicle
  obtain ⟨_, t₂, hpassed, htrip⟩ := commits_bind.mp hrest
  obtain ⟨g, _, _, rfl⟩ := TableOf.commits_update.mp hpassed
  obtain ⟨o, ho, rfl, rfl⟩ := TableOf.commits_update.mp htrip
  obtain ⟨hvehicles, htrips, hstops, hitems⟩ :=
    route_eq_iff.mp (offPapers_route.shipManifest _ _ _ hship)
  change t₁.vehicles.find? t.vehicleId = some v at hv
  change t₁.trips.find? t.id = some o at ho
  rw [hvehicles] at hv
  rw [htrips] at ho
  obtain rfl := mem_unique (find?_of_mem hmem) ho
  obtain ⟨hvmem, hvid⟩ := find?_eq_some.mp hv
  refine ⟨⟨t, hmem, rfl, hstatus, v, hvmem, hvid, ?_, preTrip.id, pass.id, ?_⟩, hstops, hitems⟩
  · exact congrArg (Table.put · _) hvehicles
  · exact congrArg (Table.put · _) htrips

/-! ### Stops -/

structure StopCompleted (stop : DeliveryStop) (dto : CompleteStop) (db db' : FleetDb) : Prop where
  mem : stop ∈ db.stops
  opened : stop.status.isOpen = true
  cod : dto.cod ≤ stop.codExpected
  stops : ∃ p, db'.stops = db.stops.put { stop with
    status := dto.status.status, codCollected := dto.cod, proofInspectionId := p }
  items : ∀ i' ∈ db'.manifestItems, ∃ i ∈ db.manifestItems,
    (i.tripId = stop.tripId ∧ i.stopId = some stop.id) ∧ i' = i.settle dto.status i.loadedQty ∨
      ¬ (i.tripId = stop.tripId ∧ i.stopId = some stop.id) ∧ i' = i
  vehicles : db'.vehicles = db.vehicles
  trips : ∃ t ∈ db.trips, t.id = stop.tripId ∧
    t.status ∈ [.dispatched, .inTransit, .partiallyDelivered] ∧ db'.trips = db.trips.put { t with
      codCollected := ((db'.stopsOf t.id).map DeliveryStop.codCollected).sum
      status := if (db'.stopsOf t.id).all fun s => !s.status.isOpen then
          (if (db'.stopsOf t.id).any fun s => s.status.comesBack then .partiallyDelivered
            else .delivered)
        else t.status }

variable {outcome : StopOutcome}

lemma settle_id {n : ℤ} : (i.settle outcome n).id = i.id := by
  rw [DeliveryManifestItem.settle]
  split <;> rfl

lemma manifest_apart {f : FleetDb → α} (hf : ∀ db t, f { db with manifestItems := t } = f db) :
    deliveryManifestItem.Apart f := ⟨hf⟩

lemma settleItems_commits
    (hnodup : (items.map DeliveryManifestItem.id).Nodup) (hin : ∀ i ∈ items, i ∈ db.manifestItems)
    (h : Commits (items.forM (settleItem outcome)) db u db') :
    (db'.vehicles = db.vehicles ∧ db'.trips = db.trips ∧ db'.stops = db.stops) ∧
      ∀ i' ∈ db'.manifestItems, ∃ i ∈ db.manifestItems,
        i ∈ items ∧ i' = i.settle outcome i.loadedQty ∨ i ∉ items ∧ i' = i := by
  have hleaves : Leaves (fun db => (db.vehicles, db.trips, db.stops)) (items.forM (settleItem outcome)) :=
    Leaves.forM fun _ => (manifest_apart fun _ _ => rfl).update.bind fun _ => leaves_pure
  have hframe := hleaves _ _ _ h
  simp only [Prod.mk.injEq] at hframe
  exact ⟨hframe, TableOf.forM_update_commits (T := deliveryManifestItem)
    (g := fun r => DeliveryManifestItem.settle outcome r.loadedQty) (fun _ _ => rfl)
    (fun _ _ => settle_id) hnodup hin h⟩

variable {stop : DeliveryStop} {dto : CompleteStop}

lemma completed_eq {row : DeliveryStop} {p : Option ℕ}
    {stops : Table DeliveryStop.id} (hrow : row ∈ stops.put { stop with
      status := dto.status.status, codCollected := dto.cod, proofInspectionId := p }) :
    completedStatus stop dto row = row.status ∧ completedCod stop dto row = row.codCollected := by
  rcases mem_put.mp hrow with rfl | ⟨_, hne⟩
  · exact ⟨if_pos rfl, if_pos rfl⟩
  · exact ⟨if_neg hne, if_neg hne⟩

lemma updateTrip_commits {trip t : DeliveryTrip}
    {p : Option ℕ} {stops : Table DeliveryStop.id} (ht : db.trips.find? trip.id = some t)
    (hstops : db.stops = stops.put { stop with
      status := dto.status.status, codCollected := dto.cod, proofInspectionId := p })
    (h : Commits (updateTrip trip stop dto) db u db') :
    db' = { db with trips := db.trips.put { t with
      codCollected := ((db.stopsOf trip.id).map DeliveryStop.codCollected).sum
      status := if (db.stopsOf trip.id).all fun s => !s.status.isOpen then
          (if (db.stopsOf trip.id).any fun s => s.status.comesBack then .partiallyDelivered
            else .delivered)
        else t.status } } := by
  have hrow : ∀ row ∈ db.stopsOf trip.id, completedStatus stop dto row = row.status ∧
      completedCod stop dto row = row.codCollected := by
    intro row hrow
    have hmem := (mem_findMany.mp hrow).1
    rw [hstops] at hmem
    exact completed_eq hmem
  simp only [updateTrip, commits_steps, TableOf.commits_update] at h
  obtain ⟨_, _, ⟨o, ho, _, rfl⟩, _, rfl⟩ := h
  obtain rfl := mem_unique ht ho
  have hstatus : (db.stopsOf trip.id).map (completedStatus stop dto) =
      (db.stopsOf trip.id).map DeliveryStop.status :=
    map_congr_left fun row h => (hrow row h).1
  have hall := congrArg (fun l : List DeliveryStopStatus => l.all fun s => !s.isOpen) hstatus
  have hany := congrArg (fun l : List DeliveryStopStatus => l.any fun s => s.comesBack) hstatus
  simp only [List.all_map, List.any_map, Function.comp_def] at hall hany
  have hsum : (db.stopsOf trip.id).map (completedCod stop dto) =
      (db.stopsOf trip.id).map DeliveryStop.codCollected :=
    map_congr_left fun row h => (hrow row h).2
  rw [deliveryTrip_write, hall, hany, hsum]

lemma checkProof_commits
    (h : Commits (checkProof scope stop dto) db u db') : dto.cod ≤ stop.codExpected ∧ db = db' := by
  simp only [checkProof, commits_steps] at h
  obtain ⟨hcod, _, _, hproof⟩ := h
  refine ⟨hcod, ReadOnly.eq (x := dto.proofInspectionId.elim (pure ()) _) ?_ hproof⟩
  cases dto.proofInspectionId with
  | none => exact leaves_pure
  | some id => exact findScoped_readOnly.bind fun _ => leaves_require

/-- Completing a stop again changes nothing. -/
lemma completeStop_commits {stopId : ℕ} {s' : DeliveryStop}
    (h : Commits (completeStop scope stopId dto) db s' db') :
    db' = db ∨ ∃ stop, StopCompleted stop dto db db' := by
  simp only [completeStop, commits_steps, commits_ite] at h
  obtain ⟨stop, _, hstop, t, _, ht, hstatus, ⟨hopen, _, _, hproof, _, _, hshipment, h⟩ | ⟨_, _, _, rfl⟩⟩ := h
  · obtain ⟨⟨hfind, _⟩, rfl⟩ := commits_findScoped.mp hstop
    obtain ⟨hmem, hid, rfl⟩ := commits_scopedTrip ht
    obtain ⟨hsmem, hsid⟩ := find?_eq_some.mp hfind
    obtain ⟨hcod, rfl⟩ := checkProof_commits hproof
    obtain rfl := assertShipment_readOnly.eq hshipment
    simp only [recordStop, commits_steps, TableOf.commits_update] at h
    obtain ⟨_, _, ⟨x, hx, _, rfl⟩, _, t₁, hitems, _, t₂, hship, _, t₃, htrip, _, rfl⟩ := h
    obtain rfl := mem_unique (find?_of_mem hsmem) hx
    obtain ⟨⟨hvehicles, htrips, hstops⟩, hrows⟩ := settleItems_commits
      ((Table.nodup_findMany _ _).sublist (List.filter_sublist.map _))
      (fun i hi => (mem_findMany.mp (List.mem_of_mem_filter hi)).1) hitems
    obtain ⟨hvehicles₂, htrips₂, hstops₂, hitems₂⟩ :=
      route_eq_iff.mp (offPapers_route.updateShipment _ _ _ hship)
    have hstops' := hstops₂.trans hstops
    have htrips' := htrips₂.trans htrips
    have hfindTrip : t₂.trips.find? t.id = some t := by
      rw [htrips']
      exact find?_of_mem hmem
    obtain rfl := updateTrip_commits hfindTrip hstops' htrip
    refine .inr ⟨stop, hsmem, hopen, hcod, ⟨_, hstops'⟩, ?_, hvehicles₂.trans hvehicles, ?_⟩
    · intro i' hi'
      obtain ⟨i, hi, hcase⟩ := hrows i' (hitems₂ ▸ hi')
      have hfilter : i ∈ (db.itemsOf t.id).filter (fun i => i.stopId = some stop.id) ↔
          i.tripId = stop.tripId ∧ i.stopId = some stop.id := by
        rw [mem_filter, itemsOf, mem_findMany, hid, decide_eq_true_eq, decide_eq_true_eq]
        exact ⟨fun h => ⟨h.1.2, h.2⟩, fun h => ⟨⟨hi, h.1⟩, h.2⟩⟩
      refine ⟨i, hi, ?_⟩
      rcases hcase with ⟨hin, rfl⟩ | ⟨hout, rfl⟩
      · exact .inl ⟨hfilter.mp hin, rfl⟩
      · exact .inr ⟨fun hboth => hout (hfilter.mpr hboth), rfl⟩
    · refine ⟨t, hmem, hid, hstatus, ?_⟩
      exact congrArg (Table.put · _) htrips'
  · exact .inl ((commits_findScoped.mp hstop).2.trans (commits_scopedTrip ht).2.2).symm

/-! ### Closing -/

def DeliveryManifestItem.ComesBack (stops : Table DeliveryStop.id) (i : DeliveryManifestItem) : Prop :=
  ∃ s ∈ stops, i.stopId = some s.id ∧ s.status.comesBack = true

/-- An item whose goods come back gets what was not delivered as returned. -/
def Returned (stops : Table DeliveryStop.id) (i i' : DeliveryManifestItem) : Prop :=
  i' = i ∨ i.ComesBack stops ∧
    ∃ status, i' = { i with returnedQty := max 0 (i.loadedQty - i.deliveredQty), status }

def DeliveryStop.cash (s : DeliveryStop) : ℕ × ℕ × ℚ × ℚ :=
  (s.id, s.tripId, s.codExpected, s.codCollected)

def DeliveryManifestItem.target (i : DeliveryManifestItem) : ℕ × ℕ × Option ℕ :=
  (i.id, i.tripId, i.stopId)

structure Returning (db db' : FleetDb) : Prop where
  back : ∀ s' ∈ db'.stops, ∃ s ∈ db.stops, s' = s ∨ s.status.comesBack = true ∧
    s' = { s with status := .returned }
  items : ∀ i' ∈ db'.manifestItems, ∃ i ∈ db.manifestItems, Returned db.stops i i'

structure TripClosed (tripId : ℕ) (dto : CloseTrip) (db db' : FleetDb) : Prop where
  rows : ∃ t ∈ db.trips, t.id = tripId ∧
    t.status ∈ [.delivered, .partiallyDelivered, .returning] ∧
    (∀ o, t.startOdometer = some o → o ≤ dto.endOdometer) ∧
    ∃ v ∈ db.vehicles, v.id = t.vehicleId ∧
      (∃ status, db'.vehicles = db.vehicles.put { v with
        status, currentOdometer := dto.endOdometer }) ∧
      ∃ i, db'.trips = db.trips.put { t with
        status := .closed, endOdometer := some (dto.endOdometer : ℤ),
        postTripInspectionId := some i }
  cash : db'.stops.rows.map DeliveryStop.cash = db.stops.rows.map DeliveryStop.cash
  targets : db'.manifestItems.rows.map DeliveryManifestItem.target =
    db.manifestItems.rows.map DeliveryManifestItem.target
  returning : Returning db db'

lemma markReturned_leaves {f : FleetDb → α} (hf : ∀ db t, f { db with stops := t } = f db)
    {stop : DeliveryStop} : Leaves f (markReturned stop) := by
  have hstops : deliveryStop.Apart f := ⟨hf⟩
  exact (hstops.update.bind fun _ => leaves_pure).ite leaves_pure

lemma returnItem_leaves {f : FleetDb → α} (hf : ∀ db t, f { db with manifestItems := t } = f db)
    {i : DeliveryManifestItem} : Leaves f (returnItem i) :=
  (manifest_apart hf).update.bind fun _ => leaves_pure

lemma returnStop_leaves {f : FleetDb → α} (hf : OffPapers f)
    (hstop : ∀ stop, Leaves f (markReturned stop)) (hitem : ∀ i, Leaves f (returnItem i))
    {tripId : ℕ} {stop : DeliveryStop} : Leaves f (returnStop scope tripId stop) := by
  refine (hstop stop).bind fun _ => Leaves.bind ?_ fun _ => hf.updateShipment.bind fun _ =>
    leaves_get.bind fun _ => Leaves.forM hitem
  exact fun s u s' h => congrArg f (assertShipment_readOnly s u s' h)

lemma returnStop_fleet : Leaves (fun db => (db.vehicles, db.trips)) (returnStop scope tripId stop) :=
  returnStop_leaves ⟨fun _ _ _ _ _ _ _ _ _ => rfl⟩
    (fun _ => markReturned_leaves fun _ _ => rfl) fun _ => returnItem_leaves fun _ _ => rfl

lemma returnStop_cash :
    Leaves (fun db => db.stops.rows.map DeliveryStop.cash) (returnStop scope tripId stop) := by
  refine returnStop_leaves ⟨fun _ _ _ _ _ _ _ _ _ => rfl⟩ (fun stop => ?_)
    fun _ => returnItem_leaves fun _ _ => rfl
  refine Leaves.ite (Leaves.bind ?_ fun _ => leaves_pure) leaves_pure
  refine TableOf.leaves_update_map (T := deliveryStop) (p := DeliveryStop.cash) (fun _ _ => rfl) ?_
  exact fun _ => ⟨rfl, rfl⟩

lemma returnStop_targets : Leaves (fun db => db.manifestItems.rows.map DeliveryManifestItem.target)
      (returnStop scope tripId stop) := by
  refine returnStop_leaves ⟨fun _ _ _ _ _ _ _ _ _ => rfl⟩
    (fun _ => markReturned_leaves fun _ _ => rfl) fun i => Leaves.bind ?_ fun _ => leaves_pure
  refine TableOf.leaves_update_map (T := deliveryManifestItem) (p := DeliveryManifestItem.target)
    (fun _ _ => rfl) ?_
  exact fun _ => ⟨rfl, rfl⟩

lemma Returned.trans {stops : Table DeliveryStop.id} {i₁ i₂ : DeliveryManifestItem}
    (h : Returned stops i i₁) (h' : Returned stops i₁ i₂) : Returned stops i i₂ := by
  obtain rfl | ⟨hback, _, rfl⟩ := h
  · exact h'
  · obtain rfl | ⟨_, status, rfl⟩ := h'
    · exact .inr ⟨hback, _, rfl⟩
    · exact .inr ⟨hback, status, rfl⟩

lemma returnItems_commits {stops : Table DeliveryStop.id}
    (hnodup : (items.map DeliveryManifestItem.id).Nodup) (hin : ∀ i ∈ items, i ∈ db.manifestItems)
    (hback : ∀ i ∈ items, i.ComesBack stops) (h : Commits (items.forM returnItem) db u db') :
    ∀ i' ∈ db'.manifestItems, ∃ i ∈ db.manifestItems, Returned stops i i' := by
  intro i' hi'
  obtain ⟨i, hi, ⟨hmem, rfl⟩ | ⟨_, rfl⟩⟩ := TableOf.forM_update_commits (T := deliveryManifestItem)
    (g := fun r i => { i with
      returnedQty := max 0 (r.loadedQty - r.deliveredQty)
      status := if 0 < max 0 (r.loadedQty - r.deliveredQty) then "RETURNED" else r.status })
    (fun _ _ => rfl) (fun _ _ => rfl) hnodup hin h i' hi'
  · exact ⟨i, hi, .inr ⟨hback i hmem, _, rfl⟩⟩
  · exact ⟨i', hi, .inl rfl⟩

lemma markReturned_commits {db₁ : FleetDb} (hdb : Returning db db₁) {stop : DeliveryStop} {u : Unit}
    (hstop : stop ∈ db.stops) (hback : stop.status.comesBack = true)
    (h : Commits (markReturned stop) db₁ u db') : Returning db db' := by
  simp only [markReturned, commits_ite, commits_steps, TableOf.commits_update] at h
  obtain ⟨_, _, _, ⟨o, ho, _, rfl⟩, _, rfl⟩ | ⟨_, _, rfl⟩ := h
  · obtain ⟨hmem, hid⟩ := find?_eq_some.mp ho
    refine ⟨fun s' hs' => ?_, hdb.items⟩
    rcases mem_put.mp hs' with rfl | ⟨hs', _⟩
    · obtain ⟨s, hs, rfl | ⟨_, rfl⟩⟩ := hdb.back o hmem
      · obtain rfl := eq_of_key_eq hs hstop hid
        exact ⟨o, hs, .inr ⟨hback, rfl⟩⟩
      · obtain rfl := eq_of_key_eq hs hstop hid
        exact ⟨s, hs, .inr ⟨hback, rfl⟩⟩
    · exact hdb.back s' hs'
  · exact hdb

lemma returnStop_commits {db₁ db₂ : FleetDb}
    (hdb : Returning db db₁) (hstop : stop ∈ db.stops) (hback : stop.status.comesBack = true)
    (h : Commits (returnStop scope tripId stop) db₁ u db₂) : Returning db db₂ := by
  simp only [returnStop, commits_steps] at h
  obtain ⟨_, t, hmark, _, _, hshipment, _, t₁, hship, hitems⟩ := h
  obtain rfl := assertShipment_readOnly.eq hshipment
  have hmarked := markReturned_commits hdb hstop hback hmark
  obtain ⟨_, _, hstops, hmanifest⟩ :=
    route_eq_iff.mp (offPapers_route.updateShipment _ _ _ hship)
  have hkeep : db₂.stops = t₁.stops :=
    Leaves.forM (fun _ => returnItem_leaves (f := stops) fun _ _ => rfl) _ _ _ hitems
  constructor
  case back =>
    rw [hkeep, hstops]
    exact hmarked.back
  case items =>
    have hrows : ∀ i' ∈ db₂.manifestItems, ∃ i ∈ t₁.manifestItems, Returned db.stops i i' :=
      returnItems_commits ((Table.nodup_findMany _ _).sublist (List.filter_sublist.map _))
        (fun i hi => (mem_findMany.mp (List.mem_of_mem_filter hi)).1)
        (fun i hi => ⟨stop, hstop, by simpa using (mem_filter.mp hi).2, hback⟩) hitems
    intro i' hi'
    obtain ⟨i₁, hi₁, hreturned₁⟩ := hrows i' hi'
    obtain ⟨i, hi, hreturned⟩ := hmarked.items i₁ (hmanifest ▸ hi₁)
    exact ⟨i, hi, hreturned.trans hreturned₁⟩

lemma closeTrip_commits {dto : CloseTrip}
    (h : Commits (closeTrip scope tripId dto) db t' db') : TripClosed tripId dto db db' := by
  simp only [closeTrip, commits_steps, TableOf.commits_update] at h
  obtain ⟨t, _, ht, hstatus, hstart, inspection, _, hinspection, _, _, t₁, hreturn, _, _, hvehicle, _, _, ⟨v,
    hv, _, rfl⟩, o, ho, rfl, rfl⟩ := h
  obtain ⟨hmem, rfl, rfl⟩ := commits_scopedTrip ht
  obtain rfl := findScoped_readOnly.eq hinspection
  obtain rfl := findScoped_readOnly.eq hvehicle
  have hreturning : Returning db t₁ := by
    refine (hreturn.forM (I := fun rest t => (∀ s ∈ rest, s ∈ db.stops ∧ s.status.comesBack = true) ∧
      Returning db t) ?_ ⟨fun s hs => ?_, ?_⟩).2
    · rintro s rest t t' ⟨hrest, hdb⟩ hs
      obtain ⟨⟨hstop, hback⟩, hrest⟩ := forall_mem_cons.mp hrest
      exact ⟨hrest, returnStop_commits hdb hstop hback hs⟩
    · obtain ⟨hs, hback⟩ := mem_filter.mp hs
      exact ⟨(mem_findMany.mp hs).1, hback⟩
    · exact ⟨fun s hs => ⟨s, hs, .inl rfl⟩, fun i hi => ⟨i, hi, .inl rfl⟩⟩
  have hfleet := Leaves.forM (fun _ => returnStop_fleet) _ _ _ hreturn
  have hcash := Leaves.forM (fun _ => returnStop_cash) _ _ _ hreturn
  have htargets := Leaves.forM (fun _ => returnStop_targets) _ _ _ hreturn
  simp only [Prod.mk.injEq] at hfleet
  obtain ⟨hvehicles, htrips⟩ := hfleet
  change t₁.vehicles.find? t.vehicleId = some v at hv
  change t₁.trips.find? t.id = some o at ho
  rw [hvehicles] at hv
  rw [htrips] at ho
  obtain rfl := mem_unique (find?_of_mem hmem) ho
  obtain ⟨hvmem, hvid⟩ := find?_eq_some.mp hv
  constructor
  case rows =>
    refine ⟨t, hmem, rfl, hstatus, fun start hs => by simpa [hs] using hstart, v, hvmem, hvid,
      ⟨if inspection.status = .partially then .maintenance else .available, ?_⟩, inspection.id, ?_⟩
    · exact congrArg (Table.put · _) hvehicles
    · exact congrArg (Table.put · _) htrips
  case cash => exact hcash
  case targets => exact htargets
  case returning => exact ⟨hreturning.back, hreturning.items⟩

end Mayatoko.Fleet
