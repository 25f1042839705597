import Mayatoko.Fleet.Meter
import Mayatoko.Orders.Shipments

/-!
# Trips and the orders that they carry

A trip takes the shipments of storefront orders along: its dispatch sends them on their way, and its
stops deliver them or bring them back, with no look at the orders. The shop and the fleet therefore run
on one table of shipments here. Status of shipment and order stay in agreement exactly in the runs in
which trips leave with shipments of shipped orders only, and stops touch no shipment of an order that
still has to be delivered.
-/

namespace Mayatoko.Fleet

open Core TableOf Accounting FleetDb
open Loyalty (ShipmentStatus)
open Orders (Shipment Order OrdersDb OrdersConfig OrderCall Marked marked_put marked_of_eq Agree Agreed
  Owned RevenueRight RevenuePosted)
open Transit (TenantScope)

variable {α : Type} {db db' : FleetDb} {scope : TenantScope} {u : Unit}

/-! ### What a trip does to the shipments -/

def FleetDb.manifestShipments (db : FleetDb) (tripId : ℕ) : List ℕ :=
  ((db.itemsOf tripId).filterMap DeliveryManifestItem.shipmentId).eraseDups

def FleetDb.returningStops (db : FleetDb) (tripId : ℕ) : List DeliveryStop :=
  (db.stopsOf tripId).filter fun s => s.status.comesBack

def StopOutcome.shipment (outcome : StopOutcome) : ShipmentStatus :=
  if outcome = .delivered then .delivered else .failed

lemma leaves_updateShipment {f : FleetDb → α} (hs : FleetDb.shipment.Apart f) {id : Option ℕ}
    {status : ShipmentStatus} : Leaves f (updateShipment id status) := by
  cases id with
  | none => exact leaves_pure
  | some id => exact hs.update.bind fun _ => leaves_pure

/-- `f` looks at neither vehicles, trips, stops, manifest nor gate passes. -/
structure OffRoad (f : FleetDb → α) : Prop where
  frame : ∀ db n v t s m g, f { db with
    nextId := n, vehicles := v, trips := t, stops := s, manifestItems := m, gatePasses := g } = f db

namespace OffRoad

variable {f : FleetDb → α} (hf : OffRoad f)

include hf

lemma freshId : Leaves f freshId := by
  intro db id db' h
  simp only [Fleet.freshId, commits_steps, commits_set] at h
  obtain ⟨_, _, rfl, rfl, rfl⟩ := h
  exact hf.frame ..

lemma vehicle : vehicle.Apart f := ⟨fun _ _ => hf.frame ..⟩

lemma deliveryTrip : deliveryTrip.Apart f := ⟨fun _ _ => hf.frame ..⟩

lemma deliveryStop : deliveryStop.Apart f := ⟨fun _ _ => hf.frame ..⟩

lemma deliveryManifestItem : deliveryManifestItem.Apart f := ⟨fun _ _ => hf.frame ..⟩

lemma gatePass : gatePass.Apart f := ⟨fun _ _ => hf.frame ..⟩

lemma createStops {tripId : ℕ} {inputs : List DeliveryStopInput} : Leaves f (createStops tripId inputs) := by
  induction inputs with
  | nil => exact leaves_pure
  | cons input rest ih =>
    exact hf.freshId.bind fun _ => hf.deliveryStop.create.bind fun _ => ih.bind fun _ => leaves_pure

variable {dto : CreateDeliveryTrip}

lemma placeTrip {v : Vehicle} : Leaves f (placeTrip scope dto v) := by
  refine hf.freshId.bind fun _ => leaves_get.bind fun _ => leaves_require.bind fun _ => ?_
  refine hf.deliveryTrip.create.bind fun _ => hf.createStops.bind fun _ => Leaves.bind ?_ fun _ => ?_
  · exact Leaves.forM fun _ => hf.freshId.bind fun _ => hf.deliveryManifestItem.create
  · exact hf.vehicle.update.bind fun _ => leaves_pure

lemma createTrip : Leaves f (createTrip scope dto) := by
  refine leaves_require.bind fun _ => leaves_require.bind fun _ => ?_
  refine findScoped_readOnly.leaves.bind fun _ => leaves_require.bind fun _ => ?_
  refine assertEmployee_readOnly.leaves.bind fun _ => assertWarehouse_readOnly.leaves.bind fun _ => ?_
  refine (Leaves.forM fun _ => checkStopInput_readOnly.leaves).bind fun _ => ?_
  refine (Leaves.forM fun _ => checkManifestItem_readOnly.leaves).bind fun _ => ?_
  exact checkVehicle_readOnly.leaves.bind fun _ => hf.placeTrip

lemma confirmLoading {tripId inspectionId : ℕ} {scans : List LoadingScan} :
    Leaves f (confirmLoading scope tripId inspectionId scans) := by
  refine findScoped_readOnly.leaves.bind fun _ => leaves_require.bind fun _ => ?_
  refine findScoped_readOnly.leaves.bind fun _ => leaves_require.bind fun _ => ?_
  refine leaves_get.bind fun _ => (Leaves.forM fun _ => ?_).bind fun _ => leaves_get.bind fun _ =>
    leaves_require.bind fun _ => hf.deliveryTrip.update
  exact leaves_orThrow.bind fun _ => leaves_require.bind fun _ =>
    hf.deliveryManifestItem.update.bind fun _ => leaves_pure

lemma updateTrip {trip : DeliveryTrip} {stop : DeliveryStop} {dto : CompleteStop} :
    Leaves f (updateTrip trip stop dto) :=
  leaves_get.bind fun _ => hf.deliveryTrip.update.bind fun _ => leaves_pure

variable {items : List DeliveryManifestItem}

lemma settleItems {outcome : StopOutcome} : Leaves f (items.forM (settleItem outcome)) :=
  Leaves.forM fun _ => hf.deliveryManifestItem.update.bind fun _ => leaves_pure

lemma markReturned {stop : DeliveryStop} : Leaves f (markReturned stop) :=
  (hf.deliveryStop.update.bind fun _ => leaves_pure).ite leaves_pure

lemma returnItems : Leaves f (items.forM returnItem) :=
  Leaves.forM fun _ => hf.deliveryManifestItem.update.bind fun _ => leaves_pure

section Shipments

variable (hs : FleetDb.shipment.Apart f)

include hs

lemma dispatch {tripId : ℕ} {dto : DispatchTrip} : Leaves f (dispatch scope tripId dto) := by
  refine findScoped_readOnly.leaves.bind fun _ => leaves_require.bind fun _ => ?_
  refine findScoped_readOnly.leaves.bind fun _ => leaves_require.bind fun _ => ?_
  refine findScoped_readOnly.leaves.bind fun _ => leaves_require.bind fun _ => Leaves.bind ?_ fun _ => ?_
  · refine leaves_get.bind fun _ => (Leaves.forM fun _ => assertShipment_readOnly.leaves).bind fun _ => ?_
    exact (hs.updateMany.bind fun _ => leaves_pure).ite leaves_pure
  · exact hf.vehicle.update.bind fun _ => hf.gatePass.update.bind fun _ => hf.deliveryTrip.update

lemma completeStop {stopId : ℕ} {dto : CompleteStop} : Leaves f (completeStop scope stopId dto) := by
  refine findScoped_readOnly.leaves.bind fun stop => findScoped_readOnly.leaves.bind fun _ => ?_
  refine leaves_require.bind fun _ => Leaves.ite ?_ (leaves_require.bind fun _ => leaves_pure)
  refine Leaves.bind ?_ fun _ => assertShipment_readOnly.leaves.bind fun _ => ?_
  · refine leaves_require.bind fun _ => leaves_require.bind fun _ => leaves_require.bind fun _ => ?_
    cases dto.proofInspectionId with
    | none => exact leaves_pure
    | some id => exact findScoped_readOnly.leaves.bind fun _ => leaves_require
  · refine hf.deliveryStop.update.bind fun _ => leaves_get.bind fun _ => hf.settleItems.bind fun _ => ?_
    exact (leaves_updateShipment hs).bind fun _ => hf.updateTrip.bind fun _ => leaves_pure

lemma closeTrip {tripId : ℕ} {dto : CloseTrip} : Leaves f (closeTrip scope tripId dto) := by
  refine findScoped_readOnly.leaves.bind fun _ => leaves_require.bind fun _ => ?_
  refine leaves_require.bind fun _ => findScoped_readOnly.leaves.bind fun _ => ?_
  refine leaves_require.bind fun _ => leaves_get.bind fun _ => (Leaves.forM fun stop => ?_).bind fun _ => ?_
  · refine hf.markReturned.bind fun _ => assertShipment_readOnly.leaves.bind fun _ => ?_
    exact (leaves_updateShipment hs).bind fun _ => leaves_get.bind fun _ => hf.returnItems
  · exact findScoped_readOnly.leaves.bind fun _ => hf.vehicle.update.bind fun _ => hf.deliveryTrip.update

end Shipments

end OffRoad

lemma offRoad_shipments : OffRoad FleetDb.shipments := ⟨fun _ _ _ _ _ _ _ => rfl⟩

lemma updateShipment_marked {id : Option ℕ} {status : ShipmentStatus}
    (h : Commits (updateShipment id status) db u db') :
    Marked id.toList status db.shipments db'.shipments := by
  cases id with
  | none =>
    obtain ⟨_, rfl⟩ := commits_pure.mp h
    exact Orders.marked_of_same rfl
  | some id =>
    obtain ⟨_, hupdate, _⟩ := commits_bind_pure.mp h
    obtain ⟨s, hfind, _, rfl⟩ := commits_update.mp hupdate
    exact marked_put status (g := fun s => { s with status }) hfind fun _ => rfl

lemma shipManifest_marked {trip : DeliveryTrip} {gatePassId : ℕ}
    (h : Commits (shipManifest scope trip gatePassId) db u db') :
    Marked (db.manifestShipments trip.id) .inTransit db.shipments db'.shipments := by
  simp only [shipManifest, commits_bind, commits_get, commits_ite, commits_pure, commits_updateMany] at h
  obtain ⟨_, _, ⟨rfl, rfl⟩, _, _, hassert, h⟩ := h
  obtain rfl := ReadOnly.eq (Leaves.forM fun _ => assertShipment_readOnly) hassert
  obtain ⟨_, _, _, ⟨_, rfl⟩, _, rfl⟩ | ⟨hnone, _, rfl⟩ := h
  · refine (map_map ..).trans (map_congr_left fun s _ => ?_)
    simp only [Function.comp_apply, List.contains_iff_mem]
    split
    next hmem => exact Orders.mark_eq_markAs.mpr ⟨rfl, rfl, rfl, (if_pos hmem).symm⟩
    next hmem => exact Orders.mark_eq_markAs.mpr ⟨rfl, rfl, rfl, (if_neg hmem).symm⟩
  · have hempty : db.manifestShipments trip.id = [] := not_not.mp hnone
    rw [hempty]
    exact Orders.marked_of_same rfl

variable {tripId : ℕ}

lemma dispatch_marked {dto : DispatchTrip} {t' : DeliveryTrip}
    (h : Commits (dispatch scope tripId dto) db t' db') :
    Marked (db.manifestShipments tripId) .inTransit db.shipments db'.shipments := by
  simp only [dispatch, commits_steps, commits_update] at h
  obtain ⟨t, _, ht, _, preTrip, _, hpre, _, pass, _, hpass, _, _, t₁, hship, _, _, ⟨v, _, _, rfl⟩, _, _, ⟨g,
    _, _, rfl⟩, o, _, rfl, rfl⟩ := h
  obtain ⟨_, rfl, rfl⟩ := commits_scopedTrip ht
  obtain rfl := findScoped_readOnly.eq hpre
  obtain rfl := findScoped_readOnly.eq hpass
  have hmarked := shipManifest_marked hship
  exact hmarked

lemma recordStop_marked {trip : DeliveryTrip} {stop s' : DeliveryStop} {dto : CompleteStop}
    (h : Commits (recordStop trip stop dto) db s' db') :
    Marked stop.shipmentId.toList dto.status.shipment db.shipments db'.shipments := by
  simp only [recordStop, commits_steps, commits_update] at h
  obtain ⟨_, _, ⟨x, _, _, rfl⟩, _, t₁, hitems, _, t₂, hship, _, t₃, htrip, _, rfl⟩ := h
  have hbefore := offRoad_shipments.settleItems _ _ _ hitems
  have hafter := offRoad_shipments.updateTrip _ _ _ htrip
  have hmarked := updateShipment_marked hship
  rw [hafter, ← show t₁.shipments = db.shipments from hbefore]
  exact hmarked

lemma completeStop_marked {stopId : ℕ} {dto : CompleteStop} {s' : DeliveryStop}
    (h : Commits (completeStop scope stopId dto) db s' db') :
    ∃ stop, db.stops.find? stopId = some stop ∧
      (stop.status.isOpen = true ∧
          Marked stop.shipmentId.toList dto.status.shipment db.shipments db'.shipments ∨
        stop.status.isOpen = false ∧ db'.shipments = db.shipments) := by
  simp only [completeStop, commits_steps, commits_ite] at h
  obtain ⟨stop, _, hstop, t, _, ht, _, ⟨hopen, _, _, hproof, _, _, hshipment, h⟩ | ⟨hclosed, _, _, rfl⟩⟩ := h
  · obtain ⟨⟨hfind, _⟩, rfl⟩ := commits_findScoped.mp hstop
    obtain ⟨_, _, rfl⟩ := commits_scopedTrip ht
    obtain ⟨_, rfl⟩ := checkProof_commits hproof
    obtain rfl := assertShipment_readOnly.eq hshipment
    exact ⟨stop, hfind, .inl ⟨hopen, recordStop_marked h⟩⟩
  · obtain ⟨⟨hfind, _⟩, rfl⟩ := commits_findScoped.mp hstop
    obtain ⟨_, _, rfl⟩ := commits_scopedTrip ht
    exact ⟨stop, hfind, .inr ⟨Bool.eq_false_iff.mpr hclosed, rfl⟩⟩

lemma returnStop_marked {stop : DeliveryStop} (h : Commits (returnStop scope tripId stop) db u db') :
    Marked stop.shipmentId.toList .returned db.shipments db'.shipments := by
  simp only [returnStop, commits_steps] at h
  obtain ⟨_, t, hmark, _, _, hshipment, _, t₁, hship, hitems⟩ := h
  obtain rfl := assertShipment_readOnly.eq hshipment
  have hbefore := offRoad_shipments.markReturned _ _ _ hmark
  have hafter := offRoad_shipments.returnItems _ _ _ hitems
  rw [hafter, ← hbefore]
  exact updateShipment_marked hship

lemma returnStops_marked {stops : List DeliveryStop}
    (h : Commits (stops.forM (returnStop scope tripId)) db u db') :
    Marked (stops.filterMap DeliveryStop.shipmentId) .returned db.shipments db'.shipments := by
  induction stops generalizing db with
  | nil =>
    obtain rfl := commits_forM_nil.mp h
    exact Orders.marked_of_same rfl
  | cons stop stops ih =>
    obtain ⟨t, hfirst, hrest⟩ := commits_forM_cons.mp h
    have hmarked := (returnStop_marked hfirst).trans (ih hrest)
    rw [List.filterMap_cons]
    cases hid : stop.shipmentId with
    | none => simpa [hid] using hmarked
    | some id => simpa [hid] using hmarked

lemma closeTrip_marked {dto : CloseTrip} {t' : DeliveryTrip}
    (h : Commits (closeTrip scope tripId dto) db t' db') :
    Marked ((db.returningStops tripId).filterMap DeliveryStop.shipmentId) .returned db.shipments
      db'.shipments := by
  simp only [closeTrip, commits_steps, commits_update] at h
  obtain ⟨t, _, ht, _, _, inspection, _, hinspection, _, _, t₁, hreturn, _, _, hvehicle, _, _, ⟨v, _, _, rfl⟩,
    o, _, rfl, rfl⟩ := h
  obtain ⟨_, rfl, rfl⟩ := commits_scopedTrip ht
  obtain rfl := findScoped_readOnly.eq hinspection
  obtain rfl := findScoped_readOnly.eq hvehicle
  have hmarked := returnStops_marked hreturn
  exact hmarked

/-! ### The shop and the fleet -/

structure LogisticsDb where
  shop : OrdersDb
  fleet : FleetDb

namespace LogisticsDb

def shopPart : Part LogisticsDb OrdersDb where
  get := LogisticsDb.shop
  set := fun d shop => { d with shop }

def fleetPart : Part LogisticsDb FleetDb where
  get := fun d => { d.fleet with
    stock := d.shop.stock, ledger := d.shop.ledger, shipments := d.shop.shipments,
    inspections := d.shop.inspections, gatePasses := d.shop.gatePasses }
  set := fun d fleet =>
    { shop := { d.shop with
        stock := fleet.stock, ledger := fleet.ledger, shipments := fleet.shipments,
        inspections := fleet.inspections, gatePasses := fleet.gatePasses }
      fleet }

end LogisticsDb

open LogisticsDb

inductive LogisticsCall
  | order (c : OrderCall)
  | createTrip (scope : TenantScope) (dto : CreateDeliveryTrip)
  | confirmLoading (scope : TenantScope) (tripId inspectionId : ℕ) (scans : List LoadingScan)
  | dispatch (scope : TenantScope) (tripId : ℕ) (dto : DispatchTrip)
  | completeStop (scope : TenantScope) (stopId : ℕ) (dto : CompleteStop)
  | closeTrip (scope : TenantScope) (tripId : ℕ) (dto : CloseTrip)

def LogisticsCall.tx (cfg : OrdersConfig) : LogisticsCall → Tx LogisticsDb Failure Unit
  | order c => shopPart.lift (c.tx cfg)
  | createTrip scope dto => fleetPart.lift (discard (Fleet.createTrip scope dto))
  | confirmLoading scope tripId inspectionId scans =>
    fleetPart.lift (discard (Fleet.confirmLoading scope tripId inspectionId scans))
  | dispatch scope tripId dto => fleetPart.lift (discard (Fleet.dispatch scope tripId dto))
  | completeStop scope stopId dto => fleetPart.lift (discard (Fleet.completeStop scope stopId dto))
  | closeTrip scope tripId dto => fleetPart.lift (discard (Fleet.closeTrip scope tripId dto))

/-- A call commits, or some other transaction does, which leaves orders, payments, reservations and
shipments alone and posts nothing twice. -/
inductive LogisticsStep (cfg : OrdersConfig) (d : LogisticsDb) :
    Option LogisticsCall → LogisticsDb → Prop
  | call {c : LogisticsCall} {d' : LogisticsDb} (h : Commits (c.tx cfg) d () d') :
      LogisticsStep cfg d (some c) d'
  | elsewhere {d' : LogisticsDb} (hcoupling : d'.shop.coupling = d.shop.coupling)
      (hshipments : d'.shop.shipments = d.shop.shipments)
      (hledger : ∀ key, PostsOnce d.shop.ledger d'.shop.ledger key) : LogisticsStep cfg d none d'

def StockIssued (db : OrdersDb) (o : Order) : Prop :=
  (∀ r ∈ db.reservationsOf o, r.status = .consumed) ∧
    ∀ p, Stock.heldOf (db.reservationsOf o) p = o.ordered p

/-- What has left the warehouse belongs to an order that was shipped, with its stock issued and its
revenue posted, and what was shipped can still be delivered. -/
structure ShipmentRight (db : OrdersDb) (s : Shipment) (o : Order) : Prop where
  left : s.status ∈ [.inTransit, .pickedUp, .delivered] →
    o.status ∈ [.shipped, .completed] ∧ StockIssued db o ∧ RevenuePosted db o
  underWay : o.status = .shipped → s.status ∈ [.inTransit, .pickedUp]

def ShipmentsRight (d : LogisticsDb) : Prop :=
  ∀ s ∈ d.shop.shipments, ∀ o ∈ d.shop.orders, s.orderId = some o.id → ShipmentRight d.shop s o

/-- The call leaves the statuses of shipments and orders in agreement. A trip only leaves with shipments
of orders that were shipped; a stop that is delivered is one of a completed order, and no other stop is
one of an order that still has to be delivered. -/
def KeepsAgreement (d : LogisticsDb) : Option LogisticsCall → Prop
  | some (.dispatch _ tripId _) => ∀ s ∈ d.shop.shipments, ∀ o ∈ d.shop.orders,
      s.orderId = some o.id → s.id ∈ d.fleet.manifestShipments tripId →
      o.status ∈ [.shipped, .completed]
  | some (.completeStop _ stopId dto) => ∀ s ∈ d.shop.shipments, ∀ o ∈ d.shop.orders,
      s.orderId = some o.id →
      ∀ stop ∈ d.fleet.stops, stop.id = stopId → stop.status.isOpen = true →
      stop.shipmentId = some s.id →
      (dto.status = .delivered → o.status = .completed) ∧
        (dto.status ≠ .delivered → o.status ≠ .shipped)
  | some (.closeTrip _ tripId _) => ∀ s ∈ d.shop.shipments, ∀ o ∈ d.shop.orders,
      s.orderId = some o.id →
      ∀ stop ∈ d.fleet.returningStops tripId, stop.shipmentId = some s.id → o.status ≠ .shipped
  | _ => True

instance (d : LogisticsDb) (c : Option LogisticsCall) : Decidable (KeepsAgreement d c) :=
  match c with
  | some (.dispatch _ tripId _) => inferInstanceAs (Decidable (∀ s ∈ d.shop.shipments.rows,
      ∀ o ∈ d.shop.orders.rows, s.orderId = some o.id → s.id ∈ d.fleet.manifestShipments tripId →
      o.status ∈ [.shipped, .completed]))
  | some (.completeStop _ stopId dto) => inferInstanceAs (Decidable (∀ s ∈ d.shop.shipments.rows,
      ∀ o ∈ d.shop.orders.rows, s.orderId = some o.id → ∀ stop ∈ d.fleet.stops.rows,
      stop.id = stopId → stop.status.isOpen = true → stop.shipmentId = some s.id →
      (dto.status = .delivered → o.status = .completed) ∧
        (dto.status ≠ .delivered → o.status ≠ .shipped)))
  | some (.closeTrip _ tripId _) => inferInstanceAs (Decidable (∀ s ∈ d.shop.shipments.rows,
      ∀ o ∈ d.shop.orders.rows, s.orderId = some o.id →
      ∀ stop ∈ d.fleet.returningStops tripId, stop.shipmentId = some s.id → o.status ≠ .shipped))
  | some (.order _) | some (.createTrip _ _) | some (.confirmLoading _ _ _ _) | none =>
    isTrue trivial

/-! ### What a step does -/

variable {cfg : OrdersConfig} {d d' : LogisticsDb} {ids : List ℕ} {status : ShipmentStatus}

def MarksAgree (d : LogisticsDb) (ids : List ℕ) (status : ShipmentStatus) : Prop :=
  ∀ s ∈ d.shop.shipments, ∀ o ∈ d.shop.orders, s.orderId = some o.id → s.id ∈ ids →
    Agree status o.status

/-- A step that is no call of the orders service gives some shipments a status. -/
structure Carries (d d' : LogisticsDb) (ids : List ℕ) (status : ShipmentStatus) : Prop where
  coupling : d'.shop.coupling = d.shop.coupling
  ledger : ∀ key, PostsOnce d.shop.ledger d'.shop.ledger key
  marked : Marked ids status d.shop.shipments d'.shop.shipments

lemma Carries.orders (h : Carries d d' ids status) : d'.shop.orders = d.shop.orders :=
  congrArg Prod.fst h.coupling

lemma carries_of_lift {x : FleetTx α} (hx : Leaves (fun db : FleetDb => (db.stock, db.ledger)) x)
    (h : Commits (fleetPart.lift (discard x)) d u d') :
    ∃ a f, Commits x (fleetPart.get d) a f ∧ d' = fleetPart.set d f ∧
      ∀ ids status, Marked ids status d.shop.shipments f.shipments → Carries d d' ids status := by
  obtain ⟨f, hc, rfl⟩ := Part.commits_lift.mp h
  obtain ⟨a, hc⟩ := commits_discard.mp hc
  obtain ⟨hstock, hledger⟩ := Prod.mk.inj (hx _ _ _ hc)
  refine ⟨a, f, hc, rfl, fun ids status hmarked => ⟨?_, ?_, hmarked⟩⟩
  · exact congrArg (fun stock : Stock.Db => (d.shop.orders, d.shop.payments, stock.reservations)) hstock
  · intro key
    change PostsOnce d.shop.ledger f.ledger key
    rw [show f.ledger = d.shop.ledger from hledger]
    exact .inl rfl

lemma offRoad_stock : OffRoad fun db : FleetDb => (db.stock, db.ledger) :=
  ⟨fun _ _ _ _ _ _ _ => rfl⟩

lemma shipment_stock : FleetDb.shipment.Apart fun db : FleetDb => (db.stock, db.ledger) :=
  ⟨fun _ _ => rfl⟩

inductive LogisticsEffect (d d' : LogisticsDb) (c : Option LogisticsCall) : Prop
  | fulfils (hkeeps : KeepsAgreement d c) (hcoupled : Orders.Coupled d'.shop)
      (h : Orders.Fulfils d.shop d'.shop)
  | carries (ids : List ℕ) (status : ShipmentStatus) (h : Carries d d' ids status)
      (hiff : KeepsAgreement d c ↔ MarksAgree d ids status)

variable {o : Stock.OrderStatus}

lemma agree_inTransit_iff : Agree .inTransit o ↔ o ∈ [.shipped, .completed] := by
  constructor
  · intro h
    exact h.left (by simp)
  · intro h
    exact ⟨fun _ => h, fun _ => by simp⟩

lemma agree_outcome_iff {outcome : StopOutcome} : Agree outcome.shipment o ↔
      (outcome = .delivered → o = .completed) ∧ (outcome ≠ .delivered → o ≠ .shipped) := by
  rw [StopOutcome.shipment]
  split
  next hdelivered =>
    simp only [hdelivered, true_implies, ne_eq, not_true_eq_false, false_implies, and_true]
    constructor
    · intro h
      have hleft := h.left (by simp)
      simp only [mem_cons, not_mem_nil, or_false] at hleft
      rcases hleft with rfl | rfl
      · have hunder := h.underWay rfl
        simp at hunder
      · rfl
    · rintro rfl
      exact ⟨fun _ => by simp, by simp⟩
  next hnot =>
    simp only [hnot, false_implies, ne_eq, not_false_eq_true, true_implies, true_and]
    constructor
    · rintro h rfl
      have hunder := h.underWay rfl
      simp at hunder
    · intro h
      exact ⟨by simp, fun ho => absurd ho h⟩

lemma agree_returned_iff : Agree .returned o ↔ o ≠ .shipped := by
  constructor
  · rintro h rfl
    have hunder := h.underWay rfl
    simp at hunder
  · intro h
    exact ⟨by simp, fun ho => absurd ho h⟩

variable {c : Option LogisticsCall}

lemma LogisticsStep.effect (hcoupled : Orders.Coupled d.shop)
    (howned : Owned d.shop) (h : LogisticsStep cfg d c d') : LogisticsEffect d d' c := by
  cases h with
  | elsewhere hcoupling hshipments hledger =>
    refine .carries [] .draft ⟨hcoupling, hledger, Orders.marked_of_same hshipments⟩ ?_
    exact iff_of_true trivial fun _ _ _ _ _ hmem => absurd hmem not_mem_nil
  | @call c _ hc =>
    cases c with
    | order c =>
      obtain ⟨shop, horder, rfl⟩ := Part.commits_lift.mp hc
      exact .fulfils trivial (Orders.coupled_step hcoupled (.call horder)) (OrderCall.fulfils howned horder)
    | createTrip scope dto =>
      obtain ⟨_, f, hc, _, hcarries⟩ := carries_of_lift offRoad_stock.createTrip hc
      refine .carries [] .draft (hcarries [] _ (Orders.marked_of_same ?_)) ?_
      · exact offRoad_shipments.createTrip _ _ _ hc
      · exact iff_of_true trivial fun _ _ _ _ _ hmem => absurd hmem not_mem_nil
    | confirmLoading scope tripId inspectionId scans =>
      obtain ⟨_, f, hc, _, hcarries⟩ := carries_of_lift offRoad_stock.confirmLoading hc
      refine .carries [] .draft (hcarries [] _ (Orders.marked_of_same ?_)) ?_
      · exact offRoad_shipments.confirmLoading _ _ _ hc
      · exact iff_of_true trivial fun _ _ _ _ _ hmem => absurd hmem not_mem_nil
    | dispatch scope tripId dto =>
      obtain ⟨_, f, hc, _, hcarries⟩ := carries_of_lift (offRoad_stock.dispatch shipment_stock) hc
      refine .carries _ .inTransit (hcarries _ _ (dispatch_marked hc)) ?_
      refine forall₂_congr fun s _ => forall₂_congr fun o _ => ?_
      rw [agree_inTransit_iff]
      exact Iff.rfl
    | completeStop scope stopId dto =>
      obtain ⟨_, f, hc, _, hcarries⟩ := carries_of_lift (offRoad_stock.completeStop shipment_stock) hc
      obtain ⟨stop, hfind, ⟨hopen, hmarked⟩ | ⟨hclosed, hsame⟩⟩ := completeStop_marked hc
      · obtain ⟨hmem, hid⟩ := find?_eq_some.mp hfind
        refine .carries _ dto.status.shipment (hcarries _ _ hmarked) ?_
        refine forall₂_congr fun s _ => forall₂_congr fun o _ => imp_congr_right fun _ => ?_
        rw [agree_outcome_iff, Option.mem_toList]
        constructor
        · exact fun hkeeps hships => hkeeps stop hmem hid hopen hships
        · intro hagree x hx hxid _ hships
          obtain rfl := eq_of_key_eq hx hmem (hxid.trans hid.symm)
          exact hagree hships
      · refine .carries [] .draft (hcarries [] _ (Orders.marked_of_same hsame)) ?_
        refine iff_of_true ?_ fun _ _ _ _ _ hmem => absurd hmem not_mem_nil
        intro s _ o _ _ x hx hxid hopen
        obtain ⟨hmem, hid⟩ := find?_eq_some.mp hfind
        obtain rfl := eq_of_key_eq hx hmem (hxid.trans hid.symm)
        rw [hclosed] at hopen
        cases hopen
    | closeTrip scope tripId dto =>
      obtain ⟨_, f, hc, _, hcarries⟩ := carries_of_lift (offRoad_stock.closeTrip shipment_stock) hc
      refine .carries _ .returned (hcarries _ _ (closeTrip_marked hc)) ?_
      refine forall₂_congr fun s _ => forall₂_congr fun o _ => imp_congr_right fun _ => ?_
      rw [agree_returned_iff, List.mem_filterMap]
      constructor
      · rintro hkeeps ⟨stop, hmem, hships⟩
        exact hkeeps stop hmem hships
      · exact fun hagree stop hmem hships => hagree ⟨stop, hmem, hships⟩

/-! ### Runs -/

structure OrdersKept (d : LogisticsDb) : Prop where
  coupled : Orders.Coupled d.shop
  owned : Owned d.shop
  revenue : RevenueRight d.shop

lemma Carries.kept (h : Carries d d' ids status) (hd : OrdersKept d) : OrdersKept d' := by
  constructor
  case coupled => exact hd.coupled.congr h.coupling
  case owned => exact hd.owned.marked h.marked fun o ho => ⟨o, h.orders ▸ ho, rfl, rfl⟩
  case revenue =>
    constructor
    case posted => exact fun companyId orderId => (hd.revenue.posted companyId orderId).step (h.ledger _)
    case orders =>
      intro o ho hshipped
      exact (hd.revenue.orders o (h.orders ▸ ho) hshipped).step rfl rfl h.ledger

lemma OrdersKept.step (hd : OrdersKept d) (h : LogisticsStep cfg d c d') : OrdersKept d' := by
  cases h.effect hd.coupled hd.owned with
  | fulfils _ hcoupled hfulfils =>
    exact ⟨hcoupled, hd.owned.step hfulfils, hd.revenue.step hfulfils⟩
  | carries ids status hcarries _ => exact hcarries.kept hd

lemma OrdersKept.issued (hd : OrdersKept d) {o : Order} (ho : o ∈ d.shop.orders)
    (hshipped : o.status ∈ [.shipped, .completed]) : StockIssued d.shop o := by
  have hsettled := hd.coupled.settled o ho
  refine ⟨hsettled.coupled.consumed ?_, hsettled.total⟩
  simpa using hshipped

lemma OrdersKept.right_iff (hd : OrdersKept d) : ShipmentsRight d ↔ Agreed d.shop := by
  refine forall₂_congr fun s _ => forall₂_congr fun o ho => imp_congr_right fun _ => ?_
  constructor
  · intro h
    exact ⟨fun hleft => (h.left hleft).1, h.underWay⟩
  · intro h
    refine ⟨fun hleft => ?_, h.underWay⟩
    have hshipped := h.left hleft
    exact ⟨hshipped, hd.issued ho hshipped, hd.revenue.orders o ho hshipped⟩

lemma Carries.agreed_iff (h : Carries d d' ids status) (hd : Agreed d.shop) :
    Agreed d'.shop ↔ MarksAgree d ids status := by
  constructor
  · intro hagreed s hs o ho howns hmem
    obtain ⟨s', hs', hmark⟩ := h.marked.mem hs
    obtain ⟨_, howns', _, hstatus⟩ := Orders.mark_eq_markAs.mp hmark
    have hagree := hagreed s' hs' o (h.orders ▸ ho) (howns' ▸ howns)
    rw [hstatus, if_pos hmem] at hagree
    exact hagree
  · intro hmarks s' hs' o ho howns
    obtain ⟨s, hs, hmark⟩ := h.marked.of_mem hs'
    obtain ⟨_, howns', _, hstatus⟩ := Orders.mark_eq_markAs.mp hmark
    have ho : o ∈ d.shop.orders := h.orders ▸ ho
    rw [hstatus]
    split
    next hmem => exact hmarks s hs o ho (howns' ▸ howns) hmem
    next => exact hd s hs o ho (howns' ▸ howns)

lemma LogisticsStep.right_iff (hd : OrdersKept d) (hright : ShipmentsRight d)
    (h : LogisticsStep cfg d c d') : ShipmentsRight d' ↔ KeepsAgreement d c := by
  have hagreed := hd.right_iff.mp hright
  rw [(hd.step h).right_iff]
  cases h.effect hd.coupled hd.owned with
  | fulfils hkeeps _ hfulfils => exact iff_of_true (hagreed.step hd.owned hfulfils) hkeeps
  | carries ids status hcarries hiff => exact (hcarries.agreed_iff hagreed).trans hiff.symm

/-- A shop before its first order. -/
structure NothingOrdered (d : LogisticsDb) : Prop where
  orders : Orders.NoOrders d.shop
  shipments : ∀ s ∈ d.shop.shipments, s.orderId = none
  ledger : ∀ companyId orderId, NeverTwice d.shop.ledger (Orders.fulfilledKey companyId orderId)

lemma NothingOrdered.kept (h : NothingOrdered d) : OrdersKept d := by
  constructor
  case coupled => exact h.orders.coupled
  case owned =>
    constructor
    case order =>
      intro s hs id howns
      rw [h.shipments s hs] at howns
      cases howns
    case unique =>
      intro s hs _ _ id howns
      rw [h.shipments s hs] at howns
      cases howns
  case revenue =>
    refine ⟨h.ledger, fun o ho => ?_⟩
    rw [h.orders.orders] at ho
    cases ho

lemma NothingOrdered.right (h : NothingOrdered d) : ShipmentsRight d := by
  intro s hs o _ howns
  rw [h.shipments s hs] at howns
  cases howns

/-- In every run from before the first order, shipments and orders agree in every state exactly if every
step leaves them in agreement. -/
theorem shipments_right_iff {d₀ : LogisticsDb} {calls : List (Option LogisticsCall)} (h₀ : NothingOrdered d₀) :
    Run (Landing ShipmentsRight (LogisticsStep cfg)) d₀ calls d ↔
      Run (Guarded KeepsAgreement (LogisticsStep cfg)) d₀ calls d := by
  refine Run.landing_iff_guarded_of_invariant (J := OrdersKept) ?_ ?_ h₀.kept h₀.right
  · exact fun _ _ _ hd h => hd.step h
  · exact fun _ _ _ hd hright h => h.right_iff hd hright

def newLogistics : LogisticsDb where
  shop := { Orders.newShop with inspections := depot.inspections, gatePasses := depot.gatePasses }
  fleet := { depot with warehouses := Table.empty.put { id := 1, branchId := 1, companyId := 1 } }

def orderAndDispatch (shipmentId : Option ℕ) : List LogisticsCall :=
  [.order (.create { branchCode := "PUSAT", number := "ORD-1", paymentNumber := "PAY-1",
                     items := [⟨⟨⟨7, 1⟩, 0, 0, 0, 0, none⟩, ""⟩] }),
    .order (.selectPayment "ORD-1" (some "COD") "PUSAT" (some "ORD-1")),
    .createTrip ⟨1, 1⟩ { vehicleId := 5, driverEmployeeId := 3, number := "TRIP-1",
                         stops := [{ sequence := 1, shipmentId }],
                         manifestItems := [{ stopSequence := some 1, shipmentId, productId := 7,
                                             expectedQty := Nat.succPNat 0 }] },
    .confirmLoading ⟨1, 1⟩ 0 1 [⟨2, 1, none⟩], .dispatch ⟨1, 1⟩ 0 ⟨1, 1, none⟩]

lemma newLogistics_nothing : NothingOrdered newLogistics := by
  constructor
  case orders => exact ⟨rfl, fun r hr => by cases hr⟩
  case shipments =>
    intro s hs
    cases hs
  case ledger => exact fun _ _ => .inl rfl

variable {calls : List LogisticsCall}

lemma logisticsRun_of_execute
    (h : (execute (calls.forM (LogisticsCall.tx cfg)) d).1 = .ok ()) :
    Run (LogisticsStep cfg) d (calls.map some) (execute (calls.forM (LogisticsCall.tx cfg)) d).2 :=
  (commits_forM_iff_run.mp (commits_of_execute h)).map fun _ _ _ hs => LogisticsStep.call hs

def dispatchedWith (shipmentId : Option ℕ) : LogisticsDb :=
  (execute ((orderAndDispatch shipmentId).forM (LogisticsCall.tx Orders.localConfig)) newLogistics).2

/-- The trip takes along the shipment of an order that was not even packed. -/
theorem dispatch_sendsUnshipped : ∃ d, NothingOrdered newLogistics ∧
      Run (LogisticsStep Orders.localConfig) newLogistics ((orderAndDispatch (some 2)).map some) d ∧
      d.shop.orders.rows.map Order.status = [.processing] ∧
      d.shop.shipments.rows.map (fun s => (s.orderId, s.status)) = [(some 0, .inTransit)] ∧
      ¬ ShipmentsRight d := by
  have hrun : Run (LogisticsStep Orders.localConfig) newLogistics ((orderAndDispatch (some 2)).map some)
      (dispatchedWith (some 2)) := logisticsRun_of_execute (by decide +kernel)
  refine ⟨_, newLogistics_nothing, hrun, by decide +kernel, by decide +kernel, fun hright => ?_⟩
  have hleft : ∀ s ∈ (dispatchedWith (some 2)).shop.shipments.rows,
      ∀ o ∈ (dispatchedWith (some 2)).shop.orders.rows, s.orderId = some o.id →
      s.status = .inTransit → o.status ∈ [.shipped, .completed] :=
    fun s hs o ho howns hstatus => ((hright s hs o ho howns).left (by simp [hstatus])).1
  revert hleft
  decide +kernel

def LogisticsCall.guarded (cfg : OrdersConfig) (c : LogisticsCall) : Tx LogisticsDb Failure Unit := do
  let d ← get
  require (KeepsAgreement d (some c)) .recordNotFound
  c.tx cfg

lemma guardedLogistics_of_execute
    (h : (execute (calls.forM (LogisticsCall.guarded cfg)) d).1 = .ok ()) :
    Run (Guarded KeepsAgreement (LogisticsStep cfg)) d (calls.map some)
      (execute (calls.forM (LogisticsCall.guarded cfg)) d).2 := by
  refine (commits_forM_iff_run.mp (commits_of_execute h)).map fun s c s' hs => ?_
  simp only [LogisticsCall.guarded, commits_steps] at hs
  obtain ⟨hkeeps, hc⟩ := hs
  exact ⟨hkeeps, .call hc⟩

theorem shipments_right_dispatched : ∃ d, d.shop.shipments.rows.map Shipment.status = [.draft] ∧
      d.fleet.trips.rows.map DeliveryTrip.status = [.dispatched] ∧
      Run (Landing ShipmentsRight (LogisticsStep Orders.localConfig)) newLogistics
        ((orderAndDispatch none).map some) d := by
  have hrun := @guardedLogistics_of_execute Orders.localConfig newLogistics (orderAndDispatch none)
    (by decide +kernel)
  exact ⟨_, by decide +kernel, by decide +kernel, (shipments_right_iff newLogistics_nothing).mpr hrun⟩

end Mayatoko.Fleet
