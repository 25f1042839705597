import Mayatoko.Core.Protocol
import Mayatoko.Fleet.Shipments

/-!
# Gate passes

`approveGatePass` and `recordGateMovement` of `OperationsControlService` read the pass and write it later, by
its id; the dispatch of a trip and the shipment of an order read and write it in one serializable
transaction. The gate records a movement and a trip leaves on a pass that is `APPROVED`; an order is shipped
on the pass of its shipment, which may have `EXITED` already. A pass authorises one movement exactly if no
approval and no movement is written once the pass is final.

The dispatch of a trip finds its pass `APPROVED` and makes it final in one transaction, and an order is
shipped once, so that these alone would use a pass once. An approval does not look at the status, and a
movement at the gate was decided on what was read before.
-/

namespace Mayatoko.Control

open Core Common Transit Fleet Orders
open Finance (GatePassStatus)

inductive GateLabel
  | looked
  | approved (passId : ℕ)
  | recorded (passId : ℕ)
  | dispatched (passId : ℕ)
  | shipped (passId : Option ℕ)
  deriving DecidableEq

abbrev GateService := Service GateLabel LogisticsDb Failure

abbrev LogisticsTx := Tx LogisticsDb Failure

def gatePass : TableOf LogisticsDb GatePass.id :=
  ⟨fun d => d.shop.gatePasses, fun d t => { d with shop := { d.shop with gatePasses := t } }⟩

/-- A transaction as a step that has the label `label` where it commits. -/
def transact {α : Type} (label : α → GateLabel) (x : LogisticsTx α) : GateService α :=
  atomically (fun r => match r with
    | .ok a => label a
    | .error _ => .looked) x

/-! ### The gate -/

def scopedGatePass (scope : TenantScope) (id : ℕ) : GateService GatePass := do
  let found ← lookup .looked fun d => (d.shop.gatePasses.find? id).filter fun g =>
    g.companyId = scope.companyId && g.branchId = scope.branchId
  expect found (tenantAccessDenied "GatePass")

def scopedInspection (scope : TenantScope) (id : ℕ) : GateService OperationalInspection := do
  let found ← lookup .looked fun d => (d.shop.inspections.find? id).filter fun i =>
    i.companyId = scope.companyId && i.branchId = some scope.branchId
  expect found (tenantAccessDenied "OperationalInspection")

def checkPassInspection (scope : TenantScope) (pass : GatePass) : GateService Unit :=
  match pass.inspectionId with
  | none => pure ()
  | some inspectionId => do
    let inspection ← scopedInspection scope inspectionId
    check (inspection.status ∈ [.passed, .approved, .partially])
      (.badRequest "Pemeriksaan gate pass belum memenuhi syarat.")
    check (inspection.sourceType = pass.sourceType ∧ inspection.sourceId = pass.sourceId)
      (.badRequest "Pemeriksaan tidak terkait dengan sumber gate pass.")

def writeStatus (id : ℕ) (status : GatePassStatus) : LogisticsTx Unit := do
  let _ ← gatePass.update id (fun g => { g with status }) .recordNotFound

def approveGatePass (scope : TenantScope) (id : ℕ) : GateService Unit := do
  let pass ← scopedGatePass scope id
  checkPassInspection scope pass
  transact (fun _ => .approved id) (writeStatus id .approved)

def movementStatus (direction : String) : GatePassStatus :=
  if direction = "INBOUND" then .entered else .exited

def recordGateMovement (scope : TenantScope) (id : ℕ) : GateService Unit := do
  let pass ← scopedGatePass scope id
  check (pass.status = .approved) (.badRequest "Gate pass belum disetujui.")
  transact (fun _ => .recorded id) (writeStatus id (movementStatus pass.direction))

/-! ### Trips and orders -/

def dispatchTrip (scope : TenantScope) (tripId : ℕ) (dto : DispatchTrip) : GateService Unit :=
  transact (fun _ => .dispatched dto.gatePassId)
    (LogisticsDb.fleetPart.lift (discard (Fleet.dispatch scope tripId dto)))

/-- The shipment of an order. Returns the pass that it was shipped on, if it was shipped now, and on one. -/
def shipOn (scope : TenantScope) (id : ℕ) (dto : DispatchOrder) : LogisticsTx (Option ℕ) := do
  let d ← get
  LogisticsDb.shopPart.lift (Orders.ship scope id dto)
  let leaves := (d.shop.orders.find? id).any fun o =>
    o.status = .packed && o.fulfillmentType ≠ .pickup && dto.ownFleet
  pure (if leaves = true then dto.gatePassId else none)

def shipOrder (scope : TenantScope) (id : ℕ) (dto : DispatchOrder) : GateService Unit := do
  let _ ← transact .shipped (shipOn scope id dto)

inductive GateRequest
  | approve (scope : TenantScope) (id : ℕ)
  | record (scope : TenantScope) (id : ℕ)
  | dispatch (scope : TenantScope) (tripId : ℕ) (dto : DispatchTrip)
  | ship (scope : TenantScope) (id : ℕ) (dto : DispatchOrder)

def serveGate : GateRequest → Process GateLabel LogisticsDb (Except Failure Unit)
  | .approve scope id => (approveGatePass scope id).run
  | .record scope id => (recordGateMovement scope id).run
  | .dispatch scope tripId dto => (dispatchTrip scope tripId dto).run
  | .ship scope id dto => (shipOrder scope id dto).run

/-! ### What is claimed -/

def isFinal (s : GatePassStatus) : Bool := s = .entered || s = .exited

def KeepsFinal (d d' : LogisticsDb) : Prop :=
  ∀ g ∈ d.shop.gatePasses, isFinal g.status = true →
    ∃ g' ∈ d'.shop.gatePasses, g'.id = g.id ∧ isFinal g'.status = true

def movements (passId : ℕ) (labels : List (Option GateLabel)) : ℕ :=
  labels.count (some (.recorded passId)) + labels.count (some (.dispatched passId))

/-- What was done authorises one movement on a pass, none on one that was used before, and one shipment. -/
structure MovedOnce (d : LogisticsDb) (labels : List (Option GateLabel)) : Prop where
  moved : ∀ passId, movements passId labels ≤ 1
  used : ∀ g ∈ d.shop.gatePasses, isFinal g.status = true → movements g.id labels = 0
  shipped : ∀ passId, labels.count (some (.shipped (some passId))) ≤ 1

/-- The gate writes only a pass that has not been used. -/
def WritesUnused (d : LogisticsDb) : Option GateLabel → Prop
  | some (.approved passId) | some (.recorded passId) =>
    ∀ g ∈ d.shop.gatePasses.rows, g.id = passId → isFinal g.status = false
  | some (.looked) | some (.dispatched _) | some (.shipped _) | none => True

def hasLeft (s : Stock.OrderStatus) : Bool := s = .shipped || s = .completed || s = .refunded

structure KeepsSources (d d' : LogisticsDb) : Prop where
  passes : ∀ g ∈ d.shop.gatePasses, ∃ g' ∈ d'.shop.gatePasses,
    g'.id = g.id ∧ g'.sourceType = g.sourceType ∧ g'.sourceId = g.sourceId
  shipments : ∀ s ∈ d.shop.shipments, ∃ s' ∈ d'.shop.shipments, s'.id = s.id ∧ s'.orderId = s.orderId
  orders : ∀ o ∈ d.shop.orders, hasLeft o.status = true →
    ∃ o' ∈ d'.shop.orders, o'.id = o.id ∧ hasLeft o'.status = true

/-- What the rest of the system may do meanwhile: no pass is used, and none that was used is opened again. -/
structure OutsideGate (d d' : LogisticsDb) : Prop where
  sources : KeepsSources d d'
  final : KeepsFinal d d'
  unused : ∀ g' ∈ d'.shop.gatePasses, isFinal g'.status = true →
    ∃ g ∈ d.shop.gatePasses, g.id = g'.id ∧ isFinal g.status = true

open LogisticsDb

/-! ### What a step writes -/

/-- The pass `k` is one of a shipment whose order leaves now. -/
def ShipsOn (d d' : LogisticsDb) (k : ℕ) : Prop :=
  ∃ g ∈ d.shop.gatePasses, g.id = k ∧ ∃ s ∈ d.shop.shipments, s.id = g.sourceId ∧
    ∃ o ∈ d.shop.orders, s.orderId = some o.id ∧ hasLeft o.status = false ∧
      ∃ o' ∈ d'.shop.orders, o'.id = o.id ∧ hasLeft o'.status = true

inductive GateMove (d : LogisticsDb) : GateLabel → LogisticsDb → Prop
  | looks : GateMove d .looked d
  | approves {g : GatePass} {d' : LogisticsDb} (g' : GatePass) (hg : g ∈ d.shop.gatePasses)
      (hid : g'.id = g.id) (hunused : isFinal g'.status = false) (hsources : KeepsSources d d')
      (hpasses : d'.shop.gatePasses = d.shop.gatePasses.put g') : GateMove d (.approved g.id) d'
  | records {g : GatePass} {d' : LogisticsDb} (g' : GatePass) (hg : g ∈ d.shop.gatePasses)
      (hid : g'.id = g.id) (hfinal : isFinal g'.status = true) (hsources : KeepsSources d d')
      (hpasses : d'.shop.gatePasses = d.shop.gatePasses.put g') : GateMove d (.recorded g.id) d'
  | dispatches {g : GatePass} {d' : LogisticsDb} (g' : GatePass) (hg : g ∈ d.shop.gatePasses)
      (hid : g'.id = g.id) (hunused : isFinal g.status = false) (hfinal : isFinal g'.status = true)
      (hsources : KeepsSources d d') (hpasses : d'.shop.gatePasses = d.shop.gatePasses.put g') :
      GateMove d (.dispatched g.id) d'
  | ships {passId : Option ℕ} {d' : LogisticsDb} (hsources : KeepsSources d d')
      (hpasses : d'.shop.gatePasses = d.shop.gatePasses)
      (hships : ∀ k, passId = some k → ShipsOn d d' k) : GateMove d (.shipped passId) d'

variable {d d' : LogisticsDb} {scope : TenantScope} {id : ℕ} {u : Unit}

lemma KeepsSources.refl (d : LogisticsDb) : KeepsSources d d :=
  ⟨fun g hg => ⟨g, hg, rfl, rfl, rfl⟩, fun s hs => ⟨s, hs, rfl, rfl⟩, fun o ho hleft => ⟨o, ho, rfl, hleft⟩⟩

lemma passes_put (g g' : GatePass) (hg : g ∈ d.shop.gatePasses) (hid : g'.id = g.id)
    (htype : g'.sourceType = g.sourceType) (hsource : g'.sourceId = g.sourceId)
    (hpasses : d'.shop.gatePasses = d.shop.gatePasses.put g') {x : GatePass}
    (hx : x ∈ d.shop.gatePasses) : ∃ x' ∈ d'.shop.gatePasses,
      x'.id = x.id ∧ x'.sourceType = x.sourceType ∧ x'.sourceId = x.sourceId := by
  rw [hpasses]
  by_cases hkey : x.id = g.id
  · obtain rfl := eq_of_key_eq hx hg hkey
    exact ⟨g', mem_put.mpr (Or.inl rfl), hid, htype, hsource⟩
  · exact ⟨x, mem_put.mpr (Or.inr ⟨hx, hid ▸ hkey⟩), rfl, rfl, rfl⟩

lemma writeStatus_commits {status : Finance.GatePassStatus} (h : Commits (writeStatus id status) d u d') :
    ∃ g ∈ d.shop.gatePasses, g.id = id ∧ KeepsSources d d' ∧
      d'.shop.gatePasses = d.shop.gatePasses.put { g with status } := by
  simp only [writeStatus, commits_steps, TableOf.commits_update] at h
  obtain ⟨_, _, ⟨g, hg, rfl, rfl⟩, _, rfl⟩ := h
  obtain ⟨hmem, hid⟩ := find?_eq_some.mp hg
  refine ⟨g, hmem, hid, ⟨fun x hx => ?_, fun s hs => ⟨s, hs, rfl, rfl⟩, fun o ho hleft => ⟨o, ho, rfl, hleft⟩⟩,
    rfl⟩
  exact passes_put g { g with status } hmem rfl rfl rfl rfl hx

lemma isFinal_movementStatus (direction : String) : isFinal (movementStatus direction) = true := by
  unfold movementStatus
  split <;> decide

lemma dispatch_passes {tripId : ℕ} {dto : DispatchTrip} {db db' : FleetDb} {t : DeliveryTrip}
    (h : Commits (Fleet.dispatch scope tripId dto) db t db') :
    ∃ g ∈ db.gatePasses, g.id = dto.gatePassId ∧ g.status = .approved ∧
      db'.gatePasses = db.gatePasses.put { g with status := .exited } := by
  simp only [dispatch, commits_steps, TableOf.commits_update] at h
  obtain ⟨trip, _, htrip, _, preTrip, _, hpre, _, pass, _, hpass, happroved, _, t₁, hship, _, _, ⟨v, _, _,
    rfl⟩, _, t₂, ⟨g, hg, _, rfl⟩, o, _, rfl, rfl⟩ := h
  obtain ⟨_, rfl, rfl⟩ := commits_scopedTrip htrip
  obtain rfl := findScoped_readOnly.eq hpre
  obtain ⟨⟨hfind, _⟩, rfl⟩ := commits_findScoped.mp hpass
  have hshipment : FleetDb.shipment.Apart FleetDb.gatePasses := ⟨fun _ _ => rfl⟩
  have hpasses : t₁.gatePasses = db.gatePasses := by
    refine Leaves.bind leaves_get (fun _ => Leaves.bind ?_ fun _ => ?_) _ _ _ hship
    · exact Leaves.forM fun _ => assertShipment_readOnly.leaves
    · exact (hshipment.updateMany.bind fun _ => leaves_pure).ite leaves_pure
  change t₁.gatePasses.find? pass.id = some g at hg
  obtain ⟨hmem, hid⟩ := find?_eq_some.mp hfind
  rw [hpasses, find?_of_mem hmem] at hg
  obtain rfl := Option.some.inj hg
  exact ⟨pass, hmem, hid, happroved, congrArg (Table.put · _) hpasses⟩

lemma shipments_marked (d d' : LogisticsDb) {ids : List ℕ} {status : Loyalty.ShipmentStatus}
    (h : Marked ids status d.shop.shipments d'.shop.shipments) {s : Shipment}
    (hs : s ∈ d.shop.shipments) : ∃ s' ∈ d'.shop.shipments, s'.id = s.id ∧ s'.orderId = s.orderId := by
  obtain ⟨s', hs', hmark⟩ := h.mem hs
  obtain ⟨hid, horder, _⟩ := mark_eq_markAs.mp hmark
  exact ⟨s', hs', hid, horder⟩

lemma dispatchTrip_commits {tripId : ℕ} {dto : DispatchTrip}
    (h : Commits (fleetPart.lift (discard (Fleet.dispatch scope tripId dto))) d u d') :
    GateMove d (.dispatched dto.gatePassId) d' := by
  obtain ⟨f, hc, rfl⟩ := Part.commits_lift.mp h
  obtain ⟨t, hc⟩ := commits_discard.mp hc
  obtain ⟨g, hg, hid, happroved, hpasses⟩ := dispatch_passes hc
  change g ∈ d.shop.gatePasses at hg
  change f.gatePasses = d.shop.gatePasses.put _ at hpasses
  have hmarked : Marked _ _ d.shop.shipments f.shipments := dispatch_marked hc
  rw [← hid]
  refine .dispatches { g with status := .exited } hg rfl (by rw [happroved]; decide) rfl ?_ hpasses
  refine ⟨fun x hx => ?_, fun s hs => ?_, fun o ho hleft => ⟨o, ho, rfl, hleft⟩⟩
  · exact passes_put g { g with status := .exited } hg rfl rfl rfl hpasses hx
  · exact shipments_marked d (fleetPart.set d f) hmarked hs

section

variable {db db' : OrdersDb} {order : Order}

variable {dto : DispatchOrder}

lemma checkDispatch_pass {s : Shipment} (h : Commits (checkDispatch scope order s dto) db u db')
    (hpickup : order.fulfillmentType ≠ .pickup) (hfleet : dto.ownFleet = true) {k : ℕ}
    (hk : dto.gatePassId = some k) : ∃ g ∈ db.gatePasses, g.id = k ∧ g.sourceId = s.id := by
  unfold checkDispatch at h
  rw [if_neg hpickup, if_pos hfleet] at h
  simp only [checkGatePass, commits_steps] at h
  obtain ⟨_, hid, g, hgate, _⟩ := h
  obtain ⟨hfind, hg⟩ := Option.filter_eq_some_iff.mp hgate
  obtain ⟨hmem, hgid⟩ := find?_eq_some.mp hfind
  simp only [cond_iff] at hg
  obtain rfl := mem_unique hk hid
  exact ⟨g, hmem, hgid, hg.1.1.2⟩

lemma stockPart_passes :
    OrdersDb.stockPart.Apart fun db : OrdersDb => (db.orders, db.shipments, db.gatePasses) :=
  ⟨fun _ _ => rfl⟩

lemma ledgerPart_passes :
    OrdersDb.ledgerPart.Apart fun db : OrdersDb => (db.orders, db.shipments, db.gatePasses) :=
  ⟨fun _ _ => rfl⟩

/-- What a shipment writes of order, shipment and passes. -/
lemma dispatchOrder_commits {payment : Payment} {s : Shipment} (hs : db.shipments.find? s.id = some s)
    (h : Commits (dispatchOrder scope order payment s dto) db u db') :
    db'.gatePasses = db.gatePasses ∧ (∃ status, Marked [s.id] status db.shipments db'.shipments) ∧
      ∃ o, db.orders.find? order.id = some o ∧
        ∃ o', o'.id = o.id ∧ o'.status = .shipped ∧ db'.orders = db.orders.put o' := by
  simp only [dispatchOrder, commits_steps, TableOf.commits_update] at h
  obtain ⟨_, t₁, hlines, _, t₂, hitems, event, t₃, hpost, _, _, ⟨x, hx, rfl, rfl⟩, _, _,
    ⟨o, ho, rfl, rfl⟩, _, rfl⟩ := h
  have hlines := Leaves.forM (fun _ => stockPart_passes.lift) _ _ _ hlines
  have hitems := Leaves.forM (fun _ => stockPart_passes.lift.bind fun _ => stockPart_passes.lift) _ _ _ hitems
  have hsame := (ledgerPart_passes.lift _ _ _ hpost).trans (hitems.trans hlines)
  simp only [Prod.mk.injEq] at hsame
  obtain ⟨horders, hshipments, hpasses⟩ := hsame
  change t₃.shipments.find? s.id = some x at hx
  change t₃.orders.find? order.id = some o at ho
  rw [hshipments, hs] at hx
  rw [horders] at ho
  obtain rfl := Option.some.inj hx
  refine ⟨hpasses, ⟨if order.fulfillmentType = .pickup then .pickedUp else .inTransit, ?_⟩, o, ho,
    { o with status := .shipped, accountingEventId := some event.key }, rfl, rfl,
    congrArg (fun t : Table Order.id => t.put _) horders⟩
  exact (marked_of_same hshipments).trans (marked_put _ (g := fun s => { s with
      status := if order.fulfillmentType = .pickup then .pickedUp else .inTransit,
      gatePassId := if order.fulfillmentType = .pickup then none else dto.gatePassId.or s.gatePassId })
      (hshipments ▸ hs) fun _ => rfl)

/-- The order leaves with its shipment, on the pass of the shipment if it takes one, or it has left before. -/
lemma ship_leaves (h : Commits (Orders.ship scope id dto) db u db') :
    ∃ o, db.orders.find? id = some o ∧ (o.status ≠ .packed ∧ db' = db ∨
      o.status = .packed ∧ db'.gatePasses = db.gatePasses ∧
        (∃ o', o'.id = o.id ∧ o'.status = .shipped ∧ db'.orders = db.orders.put o') ∧
        ∃ s ∈ db.shipments, s.orderId = some o.id ∧
          (∃ status, Marked [s.id] status db.shipments db'.shipments) ∧
          (o.fulfillmentType ≠ .pickup → dto.ownFleet = true → ∀ k, dto.gatePassId = some k →
            ∃ g ∈ db.gatePasses, g.id = k ∧ g.sourceId = s.id)) := by
  simp only [ship, findOrder, findShipment, commits_bind, commits_get, commits_orThrow, commits_require,
    commits_ite, commits_pure] at h
  obtain ⟨o, _, ⟨_, _, ⟨rfl, rfl⟩, ho, rfl⟩, h⟩ := h
  obtain ⟨hfind, _⟩ := Option.filter_eq_some_iff.mp ho
  obtain ⟨hmem, hid⟩ := find?_eq_some.mp hfind
  refine ⟨o, hfind, ?_⟩
  obtain ⟨hleft, _, rfl⟩ | ⟨_, _, _, ⟨hpacked, rfl⟩, _, _, ⟨_, _, ⟨rfl, rfl⟩, rfl, rfl⟩, s, _,
    ⟨hs, rfl⟩, _, _, ⟨_, rfl⟩, _, _, hcheck, payment, _, hpay, _, _, ⟨_, rfl⟩, hc⟩ := h
  · refine .inl ⟨fun hpacked => ?_, rfl⟩
    rw [hpacked] at hleft
    simp at hleft
  · obtain ⟨hsmem, hof⟩ := mem_findMany.mp (List.mem_of_mem_head? hs)
    simp only [cond_iff] at hof
    have hpass := checkDispatch_pass hcheck
    obtain rfl := checkDispatch_commits hcheck
    obtain ⟨_, _, rfl⟩ := firstPayment_commits hpay
    obtain ⟨hpasses, hmarked, o', ho', hwritten⟩ := dispatchOrder_commits (find?_of_mem hsmem) hc
    rw [hid, hfind] at ho'
    obtain rfl := Option.some.inj ho'
    exact .inr ⟨hpacked, hpasses, hwritten, s, hsmem, hof.1, hmarked,
      fun hpickup hfleet k hk => hpass hpickup hfleet hk⟩

end

lemma shipOn_commits {dto : DispatchOrder} {passId : Option ℕ} (h : Commits (shipOn scope id dto) d passId d') :
    GateMove d (.shipped passId) d' := by
  simp only [shipOn, commits_steps, Part.commits_lift] at h
  obtain ⟨_, _, ⟨db, hc, rfl⟩, rfl, rfl⟩ := h
  obtain ⟨o, hfind, ⟨hnot, hsame⟩ | ⟨hpacked, hpasses, ⟨o', hid, hshipped, horders⟩, s, hs, howns,
    ⟨status, hmarked⟩, hpass⟩⟩ := ship_leaves hc
  · change db = d.shop at hsame
    subst hsame
    refine .ships (.refl d) rfl fun k hk => ?_
    have hnone : (d.shop.orders.find? id).any (fun o =>
        o.status = .packed && o.fulfillmentType ≠ .pickup && dto.ownFleet) = false := by
      change d.shop.orders.find? id = some o at hfind
      rw [hfind]
      simp [hnot]
    rw [hnone] at hk
    cases hk
  · change d.shop.orders.find? id = some o at hfind
    change db.orders = d.shop.orders.put o' at horders
    obtain ⟨hmem, _⟩ := find?_eq_some.mp hfind
    have hleft : hasLeft o'.status = true := by
      rw [hshipped]
      decide
    have hleaves : o' ∈ db.orders := horders ▸ mem_put.mpr (Or.inl rfl)
    refine .ships ⟨fun g hg => ?_, fun x hx => ?_, fun x hx hxleft => ?_⟩ hpasses fun k hk => ?_
    · exact ⟨g, hpasses.symm ▸ hg, rfl, rfl, rfl⟩
    · exact shipments_marked d (shopPart.set d db) hmarked hx
    · by_cases hkey : x.id = o.id
      · exact ⟨o', hleaves, hid.trans hkey.symm, hleft⟩
      · refine ⟨x, ?_, rfl, hxleft⟩
        change x ∈ db.orders
        rw [horders]
        exact mem_put.mpr (Or.inr ⟨hx, hid ▸ hkey⟩)
    · rw [hfind] at hk
      simp only [Option.any_some, cond_iff, Option.ite_none_right_eq_some] at hk
      obtain ⟨⟨⟨_, hpickup⟩, hfleet⟩, hk⟩ := hk
      obtain ⟨g, hg, hgid, hsource⟩ := hpass hpickup hfleet k hk
      exact ⟨g, hg, hgid, s, hs, hsource.symm, o, hmem, howns, by rw [hpacked]; decide, o', hleaves, hid, hleft⟩

/-! ### The requests make no other steps -/

lemma transact_does {α : Type} {label : α → GateLabel} {x : LogisticsTx α}
    (hcommits : ∀ d a d', Commits x d a d' → GateMove d (label a) d') : Does GateMove (transact label x) :=
  does_atomically hcommits fun _ _ => .looks

lemma scopedGatePass_does : Does GateMove (scopedGatePass scope id) :=
  (does_lookup fun _ => .looks).bind fun _ => does_expect

lemma checkPassInspection_does {pass : GatePass} : Does GateMove (checkPassInspection scope pass) := by
  unfold checkPassInspection
  split
  · exact does_pure
  · refine Does.bind ((does_lookup fun _ => .looks).bind fun _ => does_expect) fun _ => ?_
    exact does_check.bind fun _ => does_check

lemma approveGatePass_does : Does GateMove (approveGatePass scope id) := by
  refine scopedGatePass_does.bind fun pass => checkPassInspection_does.bind fun _ => ?_
  refine transact_does fun d u d' h => ?_
  obtain ⟨g, hg, rfl, hsources, hpasses⟩ := writeStatus_commits h
  exact .approves { g with status := .approved } hg rfl rfl hsources hpasses

lemma recordGateMovement_does : Does GateMove (recordGateMovement scope id) := by
  refine scopedGatePass_does.bind fun pass => does_check.bind fun _ => ?_
  refine transact_does fun d u d' h => ?_
  obtain ⟨g, hg, rfl, hsources, hpasses⟩ := writeStatus_commits h
  exact .records { g with status := movementStatus pass.direction } hg rfl (isFinal_movementStatus _)
    hsources hpasses

lemma serveGate_does (r : GateRequest) : (serveGate r).Steps GateMove := by
  cases r with
  | approve scope id => exact approveGatePass_does
  | record scope id => exact recordGateMovement_does
  | dispatch scope tripId dto => exact transact_does fun _ _ _ h => dispatchTrip_commits h
  | ship scope id dto =>
    exact Does.bind (transact_does fun _ _ _ h => shipOn_commits h) fun _ => does_pure

/-! ### What a step does to the passes that were used -/

abbrev GateStateStep := StateStep GateMove OutsideGate

variable {d₀ : LogisticsDb} {l : Option GateLabel} {past : List (Option GateLabel)}

lemma keepsSources (h : GateStateStep d l d') : KeepsSources d d' := by
  cases h with
  | idle => exact .refl d
  | outside henv => exact henv.sources
  | step hmove =>
    cases hmove with
    | looks => exact .refl d
    | approves _ _ _ _ hsources _ | records _ _ _ _ hsources _ | dispatches _ _ _ _ _ hsources _
    | ships hsources _ _ => exact hsources

lemma KeepsFinal.of_put {g g' : GatePass} (hg : g ∈ d.shop.gatePasses) (hid : g'.id = g.id)
    (hfinal : isFinal g.status = true → isFinal g'.status = true)
    (hpasses : d'.shop.gatePasses = d.shop.gatePasses.put g') : KeepsFinal d d' := by
  intro x hx hxfinal
  rw [hpasses]
  by_cases hkey : x.id = g.id
  · obtain rfl := eq_of_key_eq hx hg hkey
    exact ⟨g', mem_put.mpr (Or.inl rfl), hid, hfinal hxfinal⟩
  · exact ⟨x, mem_put.mpr (Or.inr ⟨hx, hid ▸ hkey⟩), rfl, hxfinal⟩

lemma KeepsFinal.of_eq (hpasses : d'.shop.gatePasses = d.shop.gatePasses) : KeepsFinal d d' :=
  fun g hg hfinal => ⟨g, hpasses.symm ▸ hg, rfl, hfinal⟩

lemma keepsFinal_of_writesUnused (h : GateStateStep d l d') (hunused : WritesUnused d l) : KeepsFinal d d' := by
  cases h with
  | idle => exact .of_eq rfl
  | outside henv => exact henv.final
  | step hmove =>
    cases hmove with
    | looks => exact .of_eq rfl
    | approves g' hg hid _ _ hpasses =>
      exact .of_put hg hid (fun hfinal => by simp [hunused _ hg rfl] at hfinal) hpasses
    | records g' hg hid hfinal _ hpasses | dispatches g' hg hid _ hfinal _ hpasses =>
      exact .of_put hg hid (fun _ => hfinal) hpasses
    | ships _ hpasses _ => exact .of_eq hpasses

lemma movements_append (passId : ℕ) : movements passId (past ++ [l]) = movements passId past +
    if l = some (.recorded passId) ∨ l = some (.dispatched passId) then 1 else 0 := by
  simp only [movements, List.count_append, List.count_singleton]
  rcases l with _ | ⟨_ | _ | _ | _ | _⟩ <;> simp <;> split <;> omega

lemma movements_append_of_ne {passId : ℕ} (hrecorded : l ≠ some (.recorded passId))
    (hdispatched : l ≠ some (.dispatched passId)) : movements passId (past ++ [l]) = movements passId past := by
  rw [movements_append, if_neg (not_or.mpr ⟨hrecorded, hdispatched⟩), Nat.add_zero]

def FinalKnown (d₀ : LogisticsDb) (past : List (Option GateLabel)) (d : LogisticsDb) : Prop :=
  ∀ g ∈ d.shop.gatePasses, isFinal g.status = true →
    (∃ g₀ ∈ d₀.shop.gatePasses, g₀.id = g.id ∧ isFinal g₀.status = true) ∨ 0 < movements g.id past

lemma used_before (h : GateStateStep d l d') {g' : GatePass} (hg' : g' ∈ d'.shop.gatePasses)
    (hfinal : isFinal g'.status = true) :
    (∃ g ∈ d.shop.gatePasses, g.id = g'.id ∧ isFinal g.status = true) ∨
      l = some (.recorded g'.id) ∨ l = some (.dispatched g'.id) := by
  cases h with
  | idle => exact .inl ⟨g', hg', rfl, hfinal⟩
  | outside henv => exact .inl (henv.unused g' hg' hfinal)
  | step hmove =>
    cases hmove with
    | looks => exact .inl ⟨g', hg', rfl, hfinal⟩
    | approves x hg hid hunused _ hpasses =>
      rw [hpasses] at hg'
      obtain rfl | ⟨hold, _⟩ := mem_put.mp hg'
      · rw [hunused] at hfinal
        cases hfinal
      · exact .inl ⟨g', hold, rfl, hfinal⟩
    | records x hg hid _ _ hpasses =>
      rw [hpasses] at hg'
      obtain rfl | ⟨hold, _⟩ := mem_put.mp hg'
      · exact .inr (Or.inl (by rw [hid]))
      · exact .inl ⟨g', hold, rfl, hfinal⟩
    | dispatches x hg hid _ _ _ hpasses =>
      rw [hpasses] at hg'
      obtain rfl | ⟨hold, _⟩ := mem_put.mp hg'
      · exact .inr (Or.inr (by rw [hid]))
      · exact .inl ⟨g', hold, rfl, hfinal⟩
    | ships _ hpasses _ => exact .inl ⟨g', hpasses ▸ hg', rfl, hfinal⟩

lemma FinalKnown.step (h : FinalKnown d₀ past d) (hstep : GateStateStep d l d') :
    FinalKnown d₀ (past ++ [l]) d' := by
  intro g' hg' hfinal
  obtain ⟨g, hg, hid, hgfinal⟩ | hmoved := used_before hstep hg' hfinal
  · rw [← hid]
    obtain hstart | hpos := h g hg hgfinal
    · exact .inl hstart
    · rw [movements_append]
      exact .inr (by omega)
  · rw [movements_append, if_pos hmoved]
    exact .inr (by omega)

/-! ### Movements of guarded steps -/

/-- No pass was moved on twice, none that was used at the start was moved on, and those that were are used. -/
structure MovedRight (d₀ : LogisticsDb) (past : List (Option GateLabel)) (d : LogisticsDb) : Prop where
  moved : ∀ passId, movements passId past ≤ 1
  used : ∀ g₀ ∈ d₀.shop.gatePasses, isFinal g₀.status = true → movements g₀.id past = 0 ∧
    ∃ g ∈ d.shop.gatePasses, g.id = g₀.id ∧ isFinal g.status = true
  final : ∀ passId, 0 < movements passId past →
    ∃ g ∈ d.shop.gatePasses, g.id = passId ∧ isFinal g.status = true

lemma movedRight_start (d : LogisticsDb) : MovedRight d [] d :=
  ⟨fun _ => Nat.zero_le _, fun g hg hfinal => ⟨rfl, g, hg, rfl, hfinal⟩, fun _ h => absurd h (Nat.lt_irrefl 0)⟩

lemma MovedRight.unmoved (h : MovedRight d₀ past d) (hkeeps : KeepsFinal d d')
    (hl : ∀ passId, l ≠ some (.recorded passId) ∧ l ≠ some (.dispatched passId)) :
    MovedRight d₀ (past ++ [l]) d' := by
  have hsame (passId : ℕ) : movements passId (past ++ [l]) = movements passId past :=
    movements_append_of_ne (hl passId).1 (hl passId).2
  constructor
  case moved =>
    intro passId
    rw [hsame]
    exact h.moved passId
  case used =>
    intro g₀ hg₀ hfinal
    obtain ⟨hzero, g, hg, hid, hgfinal⟩ := h.used g₀ hg₀ hfinal
    obtain ⟨g', hg', hid', hgfinal'⟩ := hkeeps g hg hgfinal
    rw [hsame]
    exact ⟨hzero, g', hg', hid'.trans hid, hgfinal'⟩
  case final =>
    intro passId hpos
    rw [hsame] at hpos
    obtain ⟨g, hg, hid, hgfinal⟩ := h.final passId hpos
    obtain ⟨g', hg', hid', hgfinal'⟩ := hkeeps g hg hgfinal
    exact ⟨g', hg', hid'.trans hid, hgfinal'⟩

/-- A movement on a pass that has not been used. -/
lemma MovedRight.move {g g' : GatePass} (h : MovedRight d₀ past d) (hkeeps : KeepsFinal d d')
    (hg : g ∈ d.shop.gatePasses) (hid : g'.id = g.id) (hunused : isFinal g.status = false)
    (hfinal : isFinal g'.status = true) (hpasses : d'.shop.gatePasses = d.shop.gatePasses.put g')
    (hl : l = some (.recorded g.id) ∨ l = some (.dispatched g.id)) : MovedRight d₀ (past ++ [l]) d' := by
  have hopen {x : GatePass} (hx : x ∈ d.shop.gatePasses) (hxfinal : isFinal x.status = true) : x.id ≠ g.id := by
    intro hkey
    obtain rfl := eq_of_key_eq hx hg hkey
    rw [hunused] at hxfinal
    cases hxfinal
  have hnone : movements g.id past = 0 := by
    by_contra hpos
    obtain ⟨x, hx, hxid, hxfinal⟩ := h.final g.id (by omega)
    exact hopen hx hxfinal hxid
  have hother {passId : ℕ} (hne : passId ≠ g.id) : movements passId (past ++ [l]) = movements passId past := by
    refine movements_append_of_ne ?_ ?_ <;> rintro rfl <;> rcases hl with hl | hl <;> cases hl <;> exact hne rfl
  constructor
  case moved =>
    intro passId
    by_cases hkey : passId = g.id
    · rw [hkey, movements_append, hnone, if_pos hl]
    · rw [hother hkey]
      exact h.moved passId
  case used =>
    intro g₀ hg₀ hfinal₀
    obtain ⟨hzero, x, hx, hxid, hxfinal⟩ := h.used g₀ hg₀ hfinal₀
    obtain ⟨x', hx', hxid', hxfinal'⟩ := hkeeps x hx hxfinal
    rw [hother (hxid ▸ hopen hx hxfinal)]
    exact ⟨hzero, x', hx', hxid'.trans hxid, hxfinal'⟩
  case final =>
    intro passId hpos
    by_cases hkey : passId = g.id
    · rw [hpasses]
      exact ⟨g', mem_put.mpr (Or.inl rfl), hid.trans hkey.symm, hfinal⟩
    · rw [hother hkey] at hpos
      obtain ⟨x, hx, hxid, hxfinal⟩ := h.final passId hpos
      obtain ⟨x', hx', hxid', hxfinal'⟩ := hkeeps x hx hxfinal
      exact ⟨x', hx', hxid'.trans hxid, hxfinal'⟩

lemma MovedRight.step (h : MovedRight d₀ past d) (hunused : WritesUnused d l) (hstep : GateStateStep d l d') :
    MovedRight d₀ (past ++ [l]) d' := by
  have hkeeps := keepsFinal_of_writesUnused hstep hunused
  cases hstep with
  | idle | outside _ => exact h.unmoved hkeeps (by simp)
  | step hmove =>
    cases hmove with
    | looks | approves _ _ _ _ _ _ | ships _ _ _ => exact h.unmoved hkeeps (by simp)
    | records g' hg hid hfinal _ hpasses =>
      exact h.move hkeeps hg hid (hunused _ hg rfl) hfinal hpasses (Or.inl rfl)
    | dispatches g' hg hid hopen hfinal _ hpasses =>
      exact h.move hkeeps hg hid hopen hfinal hpasses (Or.inr rfl)

/-! ### Shipments -/

def LeftOn (d : LogisticsDb) (k : ℕ) : Prop :=
  ∃ g ∈ d.shop.gatePasses, g.id = k ∧ ∃ s ∈ d.shop.shipments, s.id = g.sourceId ∧
    ∃ o ∈ d.shop.orders, s.orderId = some o.id ∧ hasLeft o.status = true

variable {k : ℕ}

lemma KeepsSources.leftOn (h : KeepsSources d d') (hleft : LeftOn d k) : LeftOn d' k := by
  obtain ⟨g, hg, rfl, s, hs, hsource, o, ho, howns, hstatus⟩ := hleft
  obtain ⟨g', hg', hid, _, hsource'⟩ := h.passes g hg
  obtain ⟨s', hs', hsid, howns'⟩ := h.shipments s hs
  obtain ⟨o', ho', hoid, hstatus'⟩ := h.orders o ho hstatus
  refine ⟨g', hg', hid, s', hs', ?_, o', ho', ?_, hstatus'⟩
  · rw [hsid, hsource, hsource']
  · rw [howns', howns, hoid]

lemma ShipsOn.leftOn (h : KeepsSources d d') (hships : ShipsOn d d' k) : LeftOn d' k := by
  obtain ⟨g, hg, rfl, s, hs, hsource, o, ho, howns, _, o', ho', hoid, hstatus⟩ := hships
  obtain ⟨g', hg', hid, _, hsource'⟩ := h.passes g hg
  obtain ⟨s', hs', hsid, howns'⟩ := h.shipments s hs
  refine ⟨g', hg', hid, s', hs', ?_, o', ho', ?_, hstatus⟩
  · rw [hsid, hsource, hsource']
  · rw [howns', howns, hoid]

lemma ShipsOn.not_leftOn (hships : ShipsOn d d' k) : ¬ LeftOn d k := by
  rintro ⟨x, hx, rfl, y, hy, hysource, z, hz, hyowns, hleft⟩
  obtain ⟨g, hg, hid, s, hs, hsource, o, ho, howns, hnot, _⟩ := hships
  obtain rfl := eq_of_key_eq hg hx hid
  obtain rfl := eq_of_key_eq hs hy (hsource.trans hysource.symm)
  obtain rfl := eq_of_key_eq ho hz (mem_unique howns hyowns)
  rw [hnot] at hleft
  cases hleft

structure ShippedRight (past : List (Option GateLabel)) (d : LogisticsDb) : Prop where
  once : ∀ passId, past.count (some (.shipped (some passId))) ≤ 1
  left : ∀ passId, some (.shipped (some passId)) ∈ past → LeftOn d passId

lemma ShippedRight.step (h : ShippedRight past d) (hstep : GateStateStep d l d') :
    ShippedRight (past ++ [l]) d' := by
  have hsources := keepsSources hstep
  have hships (k : ℕ) (hk : l = some (.shipped (some k))) : ShipsOn d d' k := by
    subst hk
    cases hstep with
    | step hmove =>
      cases hmove with
      | ships _ _ hships => exact hships k rfl
  constructor
  case once =>
    intro passId
    by_cases hk : l = some (.shipped (some passId))
    · subst hk
      exact count_append_le_one (h.once passId) fun hmem => (hships passId rfl).not_leftOn (h.left passId hmem)
    · have hzero : [l].count (some (.shipped (some passId))) = 0 := by
        rw [List.count_eq_zero, mem_singleton]
        exact Ne.symm hk
      rw [List.count_append, hzero]
      exact h.once passId
  case left =>
    intro passId hmem
    obtain hmem | hmem := mem_append.mp hmem
    · exact hsources.leftOn (h.left passId hmem)
    · exact (hships passId (mem_singleton.mp hmem).symm).leftOn hsources

/-! ### Runs -/

abbrev GateStep := PoolStep serveGate OutsideGate

abbrev GatePool := Pool GateLabel LogisticsDb (Except Failure Unit)

abbrev GateAction := PoolAction GateRequest GateLabel (Except Failure Unit)

lemma unused_of_approved (hstep : GateStateStep d (some (.approved k)) d') (hkeeps : KeepsFinal d d')
    {g : GatePass} (hg : g ∈ d.shop.gatePasses) (hk : g.id = k) : isFinal g.status = false := by
  by_contra hfinal
  obtain ⟨g', hg', hid, hfinal'⟩ := hkeeps g hg (Bool.not_eq_false _ ▸ hfinal)
  cases hstep with
  | step hmove =>
    cases hmove with
    | approves x hx hxid hunused _ hpasses =>
      rw [hpasses] at hg'
      obtain rfl | ⟨_, hne⟩ := mem_put.mp hg'
      · rw [hunused] at hfinal'
        cases hfinal'
      · exact hne (hid.trans (hk.trans hxid.symm))

lemma movements_append_append (passId : ℕ) (past rest : List (Option GateLabel)) :
    movements passId (past ++ rest) = movements passId past + movements passId rest := by
  simp only [movements, List.count_append]
  omega

lemma unused_of_recorded {rest : List (Option GateLabel)} (hknown : FinalKnown d₀ past d)
    (honce : MovedOnce d₀ (past ++ some (.recorded k) :: rest)) {g : GatePass} (hg : g ∈ d.shop.gatePasses)
    (hk : g.id = k) : isFinal g.status = false := by
  subst hk
  by_contra hfinal
  have hcons : movements g.id (some (.recorded g.id) :: rest) = movements g.id rest + 1 := by
    simp only [movements, List.count_cons_self, List.count_cons_of_ne (by simp : some (GateLabel.recorded g.id) ≠
      some (.dispatched g.id))]
    omega
  obtain ⟨g₀, hg₀, hid, hfinal₀⟩ | hpos := hknown g hg (Bool.not_eq_false _ ▸ hfinal)
  · have hzero := honce.used g₀ hg₀ hfinal₀
    rw [hid, movements_append_append, hcons] at hzero
    omega
  · have hle := honce.moved g.id
    rw [movements_append_append, hcons] at hle
    omega

/-- In a run of any requests one movement at most is accepted on every pass, and none on one that was used
before, orders are shipped once on a pass, and used passes stay so, exactly if no approval and no movement at
the gate is written for a pass that has been used meanwhile. -/
theorem gate_pass_once_iff {p q : GatePool} {as : List GateAction} (hidle : p.Idle) :
    (MovedOnce p.state (as.map PoolAction.label) ∧
      Run (fun p a p' => GateStep p a p' ∧ KeepsFinal p.state p'.state) p as q) ↔
      Run (Guarded (fun p a => WritesUnused p.state a.label) GateStep) p as q := by
  constructor
  · rintro ⟨honce, hrun⟩
    have hknown : FinalKnown p.state (([] : List GateAction).map PoolAction.label) p.state :=
      fun g hg hfinal => .inl ⟨g, hg, rfl, hfinal⟩
    have hguarded := hrun.guarded_of_past
      (J := fun past p' => p'.Steps GateMove ∧ FinalKnown p.state (past.map PoolAction.label) p'.state)
      (c := fun p a => WritesUnused p.state a.label) ?_ ⟨hidle.steps, hknown⟩ ?_
    · exact hguarded.mono fun _ _ _ h => ⟨h.1, h.2.1⟩
    · rintro past t a t' ⟨hs, hknown⟩ ⟨hstep, _⟩
      rw [map_append]
      exact ⟨hs.step serveGate_does hstep, hknown.step (hs.state hstep)⟩
    · rintro before a after t t' hsplit ⟨hs, hknown⟩ ⟨hstep, hkeeps⟩
      rw [nil_append] at hsplit
      rw [hsplit, map_append, map_cons] at honce
      have hstate := hs.state hstep
      generalize a.label = l at honce hstate ⊢
      rcases l with _ | ⟨_ | k | k | _ | _⟩
      · trivial
      · trivial
      · exact fun g hg hk => unused_of_approved hstate hkeeps hg hk
      · exact fun g hg hk => unused_of_recorded hknown honce hg hk
      · trivial
      · trivial
  · intro hrun
    have hstates := Pool.run_state serveGate_does hidle.steps hrun
    have hmoved := hstates.invariant_past (I := MovedRight p.state)
      (fun _ _ _ _ hI hg => hI.step hg.1 hg.2) (movedRight_start p.state)
    have hnone : ShippedRight [] p.state := ⟨fun _ => Nat.zero_le _, by simp⟩
    have hshipped := hstates.invariant_past (fun _ _ _ _ hI hg => hI.step hg.2) hnone
    refine ⟨⟨hmoved.moved, fun g hg hfinal => (hmoved.used g hg hfinal).1, hshipped.once⟩, ?_⟩
    refine (hrun.and_of_invariant (I := Pool.Steps GateMove) ?_ ?_ hidle.steps).mono fun _ _ _ h => ⟨h.1.2, h.2⟩
    · exact fun _ _ _ hs hg => hs.step serveGate_does hg.2
    · exact fun _ _ _ hs hg => keepsFinal_of_writesUnused (hs.state hg.2) hg.1

/-! A pass for a lorry that brings a transfer. -/

def lorryPass (status : Finance.GatePassStatus) : GatePass where
  id := 1
  companyId := 1
  branchId := 1
  direction := "OUTBOUND"
  status := status
  sourceType := "StockTransfer"
  sourceId := 4
  plateNumber := some "B 1234 XY"

def lorryAt (status : Finance.GatePassStatus) : GatePool where
  state :=
    { shop := { OrdersDb.empty with gatePasses := Table.empty.put (lorryPass status) }
      fleet := FleetDb.empty }
  running := fun _ => none

def still (_ : Unit) (d : LogisticsDb) : LogisticsDb := d

lemma still_outside (m : Unit) (d : LogisticsDb) : OutsideGate d (still m d) :=
  ⟨.refl d, .of_eq rfl, fun g hg hfinal => ⟨g, hg, rfl, hfinal⟩⟩

instance (d : LogisticsDb) (l : Option GateLabel) : Decidable (WritesUnused d l) := by
  unfold WritesUnused
  split <;> infer_instance

theorem gate_pass_once_lorry :
    ∃ as q, Run (Guarded (fun p a => WritesUnused p.state a.label) GateStep) (lorryAt .draft) as q ∧
      q.state.shop.gatePasses.rows.map GatePass.status = [.exited] ∧
      movements 1 (as.map PoolAction.label) = 1 ∧
      MovedOnce (lorryAt .draft).state (as.map PoolAction.label) ∧
      Run (fun p a p' => GateStep p a p' ∧ KeepsFinal p.state p'.state) (lorryAt .draft) as q := by
  obtain ⟨as, q, hrun, hstatus, hmoved⟩ := Pool.exists_run_of_play serveGate (lorryAt .draft) still_outside
    WritesUnused
    [.start 0 (.approve ⟨1, 1⟩ 1), .step 0, .step 0, .start 1 (.record ⟨1, 1⟩ 1), .step 1, .step 1]
    (fun ls d => d.shop.gatePasses.rows.map GatePass.status = [.exited] ∧ movements 1 ls = 1)
    (by decide +kernel)
  exact ⟨as, q, hrun, hstatus, hmoved, (gate_pass_once_iff fun _ => rfl).mpr hrun⟩

/-- The lorry leaves; the used pass is approved again, and it leaves once more. -/
theorem gate_pass_twice_lorry : ∃ as q bs r, Run GateStep (lorryAt .approved) as q ∧ Run GateStep q bs r ∧
      q.state.shop.gatePasses.rows.map GatePass.status = [.approved] ∧
      r.state.shop.gatePasses.rows.map GatePass.status = [.exited] ∧
      ¬ MovedOnce (lorryAt .approved).state ((as ++ bs).map PoolAction.label) := by
  obtain ⟨as, q, bs, r, hfirst, hsecond, happroved, hexited, htwice⟩ :=
    Pool.exists_runs_of_play serveGate (lorryAt .approved) still_outside (fun _ _ => True)
      [.start 0 (.record ⟨1, 1⟩ 1), .step 0, .step 0, .start 1 (.approve ⟨1, 1⟩ 1), .step 1, .step 1]
      [.start 2 (.record ⟨1, 1⟩ 1), .step 2, .step 2]
      (fun ls s t => s.shop.gatePasses.rows.map GatePass.status = [.approved] ∧
        t.shop.gatePasses.rows.map GatePass.status = [.exited] ∧ movements 1 ls = 2)
      (by decide +kernel)
  refine ⟨as, q, bs, r, .of_guarded hfirst, .of_guarded hsecond, happroved, hexited, fun honce => ?_⟩
  have := honce.moved 1
  omega

end Mayatoko.Control
