import Mayatoko.Orders.Prepayments

/-!
# Orders and their shipments

An order gets its shipment when it is released to fulfilment; packing, shipping, delivering and
cancelling the order move both of them at once. So every transaction of the orders keeps the status of
a shipment in agreement with that of its order, and an order that was shipped has issued its stock and
posted its revenue.
-/

namespace Mayatoko.Orders

open Core TableOf Accounting OrdersDb
open Loyalty (ShipmentStatus)
open Stock (OrderStatus heldOf)
open Transit (TenantScope)

variable {db db' : OrdersDb} {u : Unit} {scope : TenantScope} {order : Order} {payment : Payment}

/-! ### The agreement of the two statuses -/

/-- What has left the warehouse belongs to an order that was shipped, and what was shipped is under
way, so that it can still be delivered. -/
structure Agree (s : ShipmentStatus) (o : OrderStatus) : Prop where
  left : s ∈ [.inTransit, .pickedUp, .delivered] → o ∈ [.shipped, .completed]
  underWay : o = .shipped → s ∈ [.inTransit, .pickedUp]

def Agreed (db : OrdersDb) : Prop :=
  ∀ s ∈ db.shipments, ∀ o ∈ db.orders, s.orderId = some o.id → Agree s.status o.status

structure Owned (db : OrdersDb) : Prop where
  order : ∀ s ∈ db.shipments, ∀ id, s.orderId = some id →
    ∃ o ∈ db.orders, o.id = id ∧ o.warehouseId = s.warehouseId
  unique : ∀ s ∈ db.shipments, ∀ s' ∈ db.shipments, ∀ id, s.orderId = some id →
    s'.orderId = some id → s = s'

def fulfilledKey (companyId orderId : ℕ) : ℕ × String := (companyId, s!"order-fulfilled:{orderId}")

def RevenuePosted (db : OrdersDb) (o : Order) : Prop :=
  ∃ companyId, o.accountingEventId = some (fulfilledKey companyId o.id) ∧
    PostedOnce db.ledger (fulfilledKey companyId o.id)

structure RevenueRight (db : OrdersDb) : Prop where
  posted : ∀ companyId orderId, NeverTwice db.ledger (fulfilledKey companyId orderId)
  orders : ∀ o ∈ db.orders, o.status ∈ [.shipped, .completed] → RevenuePosted db o

/-! ### The marks of the shipments -/

def Shipment.mark (s : Shipment) : ℕ × Option ℕ × ℕ × ShipmentStatus :=
  (s.id, s.orderId, s.warehouseId, s.status)

/-- The mark of a shipment that gets a status if it is one of `ids`. -/
def Shipment.markAs (ids : List ℕ) (status : ShipmentStatus) (s : Shipment) :
    ℕ × Option ℕ × ℕ × ShipmentStatus :=
  (s.id, s.orderId, s.warehouseId, if s.id ∈ ids then status else s.status)

/-- The shipments `ids` get a status, and the others keep theirs. -/
def Marked (ids : List ℕ) (status : ShipmentStatus) (t t' : Table Shipment.id) : Prop :=
  t'.rows.map Shipment.mark = t.rows.map (Shipment.markAs ids status)

section Marked

variable {t t' t'' : Table Shipment.id} {ids ids' : List ℕ} {status : ShipmentStatus}

lemma mark_eq_markAs {s s' : Shipment} : s'.mark = s.markAs ids status ↔ s'.id = s.id ∧
    s'.orderId = s.orderId ∧ s'.warehouseId = s.warehouseId ∧
    s'.status = if s.id ∈ ids then status else s.status := by
  simp only [Shipment.mark, Shipment.markAs, Prod.mk.injEq]

lemma marked_of_eq (status : ShipmentStatus)
    (h : t'.rows.map Shipment.mark = t.rows.map Shipment.mark) : Marked [] status t t' := by
  refine h.trans (map_congr_left fun s _ => ?_)
  exact mark_eq_markAs.mpr ⟨rfl, rfl, rfl, (if_neg not_mem_nil).symm⟩

lemma marked_of_same (h : t' = t) : Marked [] status t t' := marked_of_eq status (h ▸ rfl)

lemma Marked.of_mem (h : Marked ids status t t') {s' : Shipment} (hs : s' ∈ t') :
    ∃ s ∈ t, s'.mark = s.markAs ids status := by
  have hmem : s'.mark ∈ t.rows.map (Shipment.markAs ids status) := h ▸ mem_map_of_mem hs
  obtain ⟨s, hs, hmark⟩ := mem_map.mp hmem
  exact ⟨s, hs, hmark.symm⟩

lemma Marked.mem (h : Marked ids status t t') {s : Shipment} (hs : s ∈ t) :
    ∃ s' ∈ t', s'.mark = s.markAs ids status := by
  have hmem : s.markAs ids status ∈ t'.rows.map Shipment.mark := h.symm ▸ mem_map_of_mem hs
  exact mem_map.mp hmem

lemma Marked.trans (h : Marked ids status t t') (h' : Marked ids' status t' t'') :
    Marked (ids ++ ids') status t t'' := by
  have hsecond : t'.rows.map (Shipment.markAs ids' status) = (t'.rows.map Shipment.mark).map fun m =>
        (m.1, m.2.1, m.2.2.1, if m.1 ∈ ids' then status else m.2.2.2) := by
    rw [map_map]
    rfl
  refine Eq.trans h' (hsecond.trans ?_)
  rw [show t'.rows.map Shipment.mark = t.rows.map (Shipment.markAs ids status) from h, map_map]
  refine map_congr_left fun s _ => ?_
  simp only [Function.comp_apply, Shipment.markAs, mem_append]
  by_cases hids' : s.id ∈ ids' <;> by_cases hids : s.id ∈ ids <;> simp [hids, hids']

lemma marked_put (status : ShipmentStatus) {s : Shipment} {k : ℕ} {g : Shipment → Shipment}
    (hs : t.find? k = some s) (hg : ∀ s, (g s).mark = (s.id, s.orderId, s.warehouseId, status)) :
    Marked [k] status t (t.put (g s)) := by
  have hid (s : Shipment) : (g s).id = s.id := congrArg Prod.fst (hg s)
  have hk := (find?_eq_some.mp hs).2
  rw [Marked, Table.rows_put_of_find hs ((hid s).trans hk), map_map]
  refine map_congr_left fun x _ => ?_
  by_cases hx : x.id = k
  · simp [Shipment.markAs, hx, hg]
  · simp [Shipment.markAs, Shipment.mark, hx]

end Marked

/-! ### What the transactions do to orders and shipments -/

structure Rewritten (db db' : OrdersDb) (o o' : Order) : Prop where
  mem : o ∈ db.orders
  id : o'.id = o.id
  warehouse : o'.warehouseId = o.warehouseId
  orders : db'.orders = db.orders.put o'
  event : o'.status ∈ [.shipped, .completed] →
    o.status = .shipped ∧ o'.accountingEventId = o.accountingEventId ∨
    ∃ companyId, o'.accountingEventId = some (fulfilledKey companyId o.id) ∧
      ∃ ev, db'.ledger.events.find? (fulfilledKey companyId o.id) = some ev

def marks (db : OrdersDb) : List (ℕ × Option ℕ × ℕ × ShipmentStatus) :=
  db.shipments.rows.map Shipment.mark

/-- The shipment that an order gets, if it has none. -/
def NewShipment (db : OrdersDb) (o : Order) (added : List (ℕ × Option ℕ × ℕ × ShipmentStatus)) : Prop :=
  added = [] ∨ (∀ s ∈ db.shipments, s.orderId ≠ some o.id) ∧
    ∃ id, added = [(id, some o.id, o.warehouseId, .draft)]

inductive ShipmentEffect (db db' : OrdersDb) : Prop
  | kept (horders : db'.orders = db.orders) (hmarks : marks db' = marks db)
  | opened (o : Order) (hfresh : db.orders.find? o.id = none) (hstatus : o.status = .pendingPayment)
      (horders : db'.orders = db.orders.put o) (hmarks : marks db' = marks db)
  | released (o o' : Order) (added : List (ℕ × Option ℕ × ℕ × ShipmentStatus))
      (h : Rewritten db db' o o') (hfrom : o.status = .pendingPayment)
      (hto : o'.status ∈ [.paid, .processing]) (hnew : NewShipment db o added)
      (hmarks : marks db' = marks db ++ added)
  | moved (o o' : Order) (ids : List ℕ) (status : ShipmentStatus) (h : Rewritten db db' o o')
      (hto : Agree status o'.status) (hmarked : Marked ids status db.shipments db'.shipments)
      (hids : ∀ s ∈ db.shipments, s.id ∈ ids ↔ s.orderId = some o.id)

structure Fulfils (db db' : OrdersDb) : Prop where
  ledger : ∀ key, PostsOnce db.ledger db'.ledger key
  effect : ShipmentEffect db db'

lemma Fulfils.of_eq (hledger : db'.ledger = db.ledger) (horders : db'.orders = db.orders)
    (hshipments : db'.shipments = db.shipments) : Fulfils db db' := by
  constructor
  case ledger =>
    intro key
    rw [hledger]
    exact .inl rfl
  case effect => exact .kept horders (congrArg (fun t : Table Shipment.id => t.rows.map _) hshipments)

lemma Fulfils.refl (db : OrdersDb) : Fulfils db db := .of_eq rfl rfl rfl

/-! ### Release to fulfilment -/

lemma freshId_shipments : Leaves (fun db : OrdersDb => (db.ledger, db.orders, db.shipments)) freshId := by
  intro db id db' h
  simp only [freshId, commits_steps, commits_set] at h
  obtain ⟨_, _, rfl, rfl, rfl⟩ := h
  rfl

variable {s : Shipment}

lemma ensureInspection_marks {companyId branchId : ℕ} :
    Leaves marks (ensureInspection companyId branchId s) := by
  have hinspection : operationalInspection.Apart marks := ⟨fun _ _ => rfl⟩
  have hfresh : Leaves marks freshId := by
    intro db id db' h
    have hsame := freshId_shipments _ _ _ h
    simp only [Prod.mk.injEq] at hsame
    rw [marks, hsame.2.2, marks]
  refine leaves_get.bind fun _ => Leaves.bind ?_ fun _ => ?_
  · split
    · exact leaves_pure
    · exact hfresh.bind fun _ => hinspection.create.bind fun _ => leaves_pure
  · refine Leaves.ite (Leaves.bind ?_ fun _ => leaves_pure) leaves_pure
    refine TableOf.leaves_update_map (T := OrdersDb.shipment) (p := Shipment.mark) (fun _ _ => rfl) ?_
    exact fun _ => ⟨rfl, rfl⟩

lemma ensureConfirmation_marks {companyId branchId shipmentId : ℕ} :
    Leaves marks (ensureConfirmation companyId branchId shipmentId) := by
  have hconfirmation : operationalConfirmation.Apart marks := ⟨fun _ _ => rfl⟩
  have hfresh : Leaves marks freshId := by
    intro db id db' h
    have hsame := freshId_shipments _ _ _ h
    simp only [Prod.mk.injEq] at hsame
    rw [marks, hsame.2.2, marks]
  exact leaves_get.bind fun _ => (hfresh.bind fun _ => hconfirmation.create).ite leaves_pure

lemma ensureShipment_marks (h : Commits (ensureShipment order) db s db') :
    ∃ added, NewShipment db order added ∧ marks db' = marks db ++ added := by
  simp only [ensureShipment, commits_bind, commits_get] at h
  obtain ⟨_, _, ⟨rfl, rfl⟩, h⟩ := h
  split at h
  · obtain ⟨_, rfl⟩ := commits_pure.mp h
    exact ⟨[], .inl rfl, (append_nil _).symm⟩
  next hnone =>
    simp only [commits_bind, commits_pure, commits_create] at h
    obtain ⟨id, t, hid, _, _, ⟨hfresh, rfl⟩, _, rfl⟩ := h
    have hsame := freshId_shipments _ _ _ hid
    simp only [Prod.mk.injEq] at hsame
    obtain ⟨_, _, hshipments⟩ := hsame
    refine ⟨[(id, some order.id, order.warehouseId, .draft)], .inr ⟨?_, id, rfl⟩, ?_⟩
    · intro s hs howner
      rw [List.head?_eq_none_iff, List.eq_nil_iff_forall_not_mem] at hnone
      exact hnone s (mem_findMany.mpr ⟨hs, decide_eq_true howner⟩)
    · have hnew : id ∉ t.shipments.rows.map Shipment.id := by
        intro hmem
        obtain ⟨s, hs, hkey⟩ := mem_map.mp hmem
        exact find?_eq_none.mp hfresh s hs hkey
      rw [marks, shipment_write, Table.rows_put_of_not_mem hnew, hshipments, map_append, marks]
      rfl

lemma ensureOutboundWorkflow_marks (ho : order ∈ db.orders)
    (h : Commits (ensureOutboundWorkflow order.id) db u db') :
    ∃ added, NewShipment db order added ∧ marks db' = marks db ++ added := by
  simp only [ensureOutboundWorkflow, commits_steps] at h
  obtain ⟨o, hfind, branch, _, s, t, hshipment, _, t₁, hinspection, hconfirmation⟩ := h
  obtain rfl := mem_unique (find?_of_mem ho) hfind
  obtain ⟨added, hnew, hmarks⟩ := ensureShipment_marks hshipment
  refine ⟨added, hnew, ?_⟩
  rw [ensureConfirmation_marks _ _ _ hconfirmation, ensureInspection_marks _ _ _ hinspection, hmarks]

variable {e : Failure} {o : Order}

/-- An order that waits for its payment is released. -/
lemma Fulfils.release {t t' : OrdersDb} {status : OrderStatus}
    (hupdate : Commits (OrdersDb.order.update order.id (fun o => { o with status }) e) t o t')
    (hflow : Commits (ensureOutboundWorkflow order.id) t' u db') (ho : order ∈ db.orders)
    (hfrom : order.status = .pendingPayment) (hto : status ∈ [.paid, .processing])
    (horders : t.orders = db.orders) (hshipments : t.shipments = db.shipments)
    (hledger : ∀ key, PostsOnce db.ledger t.ledger key) : Fulfils db db' := by
  obtain ⟨o₀, hfind, _, rfl⟩ := commits_update.mp hupdate
  change t.orders.find? order.id = some o₀ at hfind
  rw [horders] at hfind
  obtain rfl := mem_unique (find?_of_mem ho) hfind
  have hsame := @OffWorkflow.ensureOutboundWorkflow _ (fun db : OrdersDb => (db.ledger, db.orders))
    ⟨fun _ _ _ _ _ => rfl⟩ order.id _ _ _ hflow
  simp only [order_write, Prod.mk.injEq] at hsame
  obtain ⟨added, hnew, hmarks⟩ := @ensureOutboundWorkflow_marks _ _ _ { order with status }
    (mem_put_self _ _) hflow
  constructor
  case ledger =>
    rw [hsame.1]
    exact hledger
  case effect =>
    refine .released order { order with status } added ⟨ho, rfl, rfl, ?_, ?_⟩ hfrom hto ?_ ?_
    · rw [hsame.2, horders]
    · intro hshipped
      simp only [mem_cons, not_mem_nil, or_false] at hto hshipped
      rcases hto with rfl | rfl <;> rcases hshipped with h | h <;> cases h
    · simpa only [NewShipment, order_write, hshipments] using hnew
    · rw [hmarks, order_write, marks, marks, hshipments]

/-! ### The transactions -/

lemma postPrepayment_fulfils {method : String} {provider externalRef : Option String}
    (ho : order ∈ db.orders) (hfrom : order.status = .pendingPayment)
    (h : Commits (postPrepayment order payment method provider externalRef) db u db') :
    Fulfils db db' := by
  simp only [postPrepayment, commits_steps, Part.commits_lift] at h
  obtain ⟨branch, _, event, _, ⟨ledger, hpost, rfl⟩, _, t, hpayment, _, t', hupdate, hflow⟩ := h
  obtain ⟨p, _, _, rfl⟩ := commits_update.mp hpayment
  exact Fulfils.release hupdate hflow ho hfrom (by simp) rfl rfl (ensurePrepayment_commits hpost).1

lemma Fulfils.updatePayment {k : ℕ} {g : Payment → Payment} {p : Payment}
    (h : Commits (OrdersDb.payment.update k g e) db p db') : Fulfils db db' := by
  obtain ⟨_, _, _, rfl⟩ := commits_update.mp h
  exact .of_eq rfl rfl rfl

variable {cfg : OrdersConfig}

lemma applyMethod_fulfils {method : String} (ho : order ∈ db.orders) (hfrom : order.status = .pendingPayment)
    (hc : Commits (applyMethod cfg order payment method) db u db') : Fulfils db db' := by
  simp only [applyMethod, commits_ite, commits_steps, commits_throw, and_false, or_false] at hc
  obtain ⟨_, _, hpre⟩ | ⟨_, ⟨_, _, t, hpay, _, t', hord, hflow⟩ | ⟨_, ⟨_, _, _, hpay, _, rfl⟩ | ⟨_, _, _, _,
    hpay, _, rfl⟩⟩⟩ := hc
  · exact postPrepayment_fulfils ho hfrom hpre
  · obtain ⟨_, _, _, rfl⟩ := commits_update.mp hpay
    exact Fulfils.release hord hflow ho hfrom (by simp) rfl rfl fun _ => .inl rfl
  · exact .updatePayment hpay
  · exact .updatePayment hpay

lemma selectPayment_fulfils {number branchCode : String} {paymentMethod accessToken : Option String}
    (hc : Commits (selectPayment cfg number paymentMethod branchCode accessToken) db u db') :
    Fulfils db db' := by
  simp only [selectPayment, commits_steps, commits_ite] at hc
  obtain ⟨order, hfind, _, payment, _, hpay, ⟨_, _, rfl⟩ | ⟨hstatus, hmethod⟩⟩ := hc
  · exact (firstPayment_commits hpay).2.2 ▸ .refl _
  · obtain ⟨_, _, rfl⟩ := firstPayment_commits hpay
    exact applyMethod_fulfils (List.mem_of_find?_eq_some hfind) (not_not.mp hstatus) hmethod

variable {id : ℕ}

lemma confirmPayment_fulfils {dto : ConfirmOrderPayment}
    (hc : Commits (confirmPayment scope id dto) db u db') : Fulfils db db' := by
  simp only [confirmPayment, commits_steps, commits_ite] at hc
  obtain ⟨order, _, hord, payment, _, hpay, hc⟩ := hc
  obtain ⟨ho, rfl⟩ := findOrder_commits hord
  obtain ⟨_, _, rfl⟩ := firstPayment_commits hpay
  obtain ⟨_, _, rfl⟩ | ⟨_, hstatus, _, _, _, hpre⟩ := hc
  · exact .refl _
  · exact postPrepayment_fulfils ho hstatus hpre

lemma confirmProviderPayment_fulfils {input : ProviderPayment} {res : Payment × Order}
    (hc : Commits (confirmProviderPayment input) db res db') : Fulfils db db' := by
  simp only [confirmProviderPayment, commits_steps, commits_ite] at hc
  obtain ⟨_, ⟨payment, order⟩, hfind, _, _, hc⟩ := hc
  obtain ⟨_, ho, _, _⟩ := providerPayment_found hfind
  obtain ⟨_, _, _, rfl⟩ | ⟨_, _, hc⟩ := hc
  · exact .refl _
  obtain ⟨_, _, _, hupdate, _, rfl⟩ | ⟨_, _, _, hpaid, _, _, _, _, _, rfl⟩ := hc
  · exact .updatePayment hupdate
  · simp only [acceptPaid, commits_steps] at hpaid
    obtain ⟨_, hstatus, hpre⟩ := hpaid
    exact postPrepayment_fulfils ho hstatus hpre

lemma authorizeInvoice_fulfils (hc : Commits (authorizeInvoice scope id) db u db') : Fulfils db db' := by
  simp only [authorizeInvoice, commits_steps, commits_ite] at hc
  obtain ⟨order, _, hord, ⟨_, _, rfl⟩ | ⟨_, hstatus, payment, _, hpay, _, _, t, hupdate, hflow⟩⟩ := hc
  · exact (findOrder_commits hord).2 ▸ .refl _
  · obtain ⟨ho, rfl⟩ := findOrder_commits hord
    obtain ⟨_, _, rfl⟩ := firstPayment_commits hpay
    exact Fulfils.release hupdate hflow ho hstatus (by simp) rfl rfl fun _ => .inl rfl

lemma Owned.found {t : OrdersDb} (h : Owned db) (hsame : t.shipments = db.shipments) {s : Shipment}
    (hs : Commits (findShipment order.id order.warehouseId) t (some s) db') :
    ∀ x ∈ db.shipments, x.id ∈ [s.id] ↔ x.orderId = some order.id := by
  simp only [findShipment, commits_steps] at hs
  obtain ⟨hhead, _⟩ := hs
  rw [hsame] at hhead
  obtain ⟨hmem, hfound⟩ := mem_findMany.mp (List.mem_of_mem_head? hhead)
  simp only [cond_iff] at hfound
  intro x hx
  rw [mem_singleton]
  constructor
  · intro hid
    rw [eq_of_key_eq hx hmem hid]
    exact hfound.1
  · intro howner
    rw [h.unique x hx s hmem order.id howner hfound.1]

lemma Owned.not_found {t : OrdersDb} (h : Owned db) (hsame : t.shipments = db.shipments)
    (ho : order ∈ db.orders)
    (hs : Commits (findShipment order.id order.warehouseId) t none db') :
    ∀ x ∈ db.shipments, x.id ∈ ([] : List ℕ) ↔ x.orderId = some order.id := by
  simp only [findShipment, commits_steps] at hs
  obtain ⟨hhead, _⟩ := hs
  rw [hsame] at hhead
  intro x hx
  refine iff_of_false not_mem_nil fun howner => ?_
  obtain ⟨o, ho', hid, hwarehouse⟩ := h.order x hx order.id howner
  obtain rfl := eq_of_key_eq ho' ho hid
  have hmem : x ∈ db.shipments.findMany fun s =>
      s.orderId = some o.id && s.warehouseId = o.warehouseId :=
    mem_findMany.mpr ⟨hx, by simp [howner, hwarehouse]⟩
  rw [List.head?_eq_none_iff.mp hhead] at hmem
  cases hmem

lemma Fulfils.move {t : OrdersDb} {g : Order → Order} {ids : List ℕ} {status : ShipmentStatus}
    (hupdate : Commits (OrdersDb.order.update order.id g e) t o db') (ho : order ∈ db.orders)
    (horders : t.orders = db.orders) (hledger : ∀ key, PostsOnce db.ledger t.ledger key)
    (hmarked : Marked ids status db.shipments t.shipments)
    (hids : ∀ s ∈ db.shipments, s.id ∈ ids ↔ s.orderId = some order.id)
    (hid : (g order).id = order.id) (hwarehouse : (g order).warehouseId = order.warehouseId)
    (hto : Agree status (g order).status)
    (hevent : (g order).status ∈ [.shipped, .completed] →
      order.status = .shipped ∧ (g order).accountingEventId = order.accountingEventId ∨
      ∃ companyId, (g order).accountingEventId = some (fulfilledKey companyId order.id) ∧
        ∃ ev, t.ledger.events.find? (fulfilledKey companyId order.id) = some ev) :
    Fulfils db db' := by
  obtain ⟨o₀, hfind, _, rfl⟩ := commits_update.mp hupdate
  change t.orders.find? order.id = some o₀ at hfind
  rw [horders] at hfind
  obtain rfl := mem_unique (find?_of_mem ho) hfind
  constructor
  case ledger => exact hledger
  case effect =>
    refine .moved order (g order) ids status ⟨ho, hid, hwarehouse, ?_, hevent⟩ hto hmarked hids
    rw [order_write, horders]

lemma pack_fulfils (hdb : Owned db) (hc : Commits (pack scope id) db u db') : Fulfils db db' := by
  simp only [pack, commits_bind, commits_get, commits_orThrow, commits_require, commits_ite, commits_pure] at hc
  obtain ⟨order, _, hord, ⟨_, _, rfl⟩ | ⟨_, _, _, ⟨hstatus, rfl⟩, _, _, hship, s, _, ⟨rfl, rfl⟩, _, _,
    ⟨_, rfl⟩, _, _, ⟨rfl, rfl⟩, _, _, ⟨_, rfl⟩, _, _, ⟨_, rfl⟩, _, t, hready, _, t', hconfirm, _, _,
    hupdate, _, rfl⟩⟩ := hc
  · exact (findOrder_commits hord).2 ▸ .refl _
  · obtain ⟨ho, rfl⟩ := findOrder_commits hord
    obtain rfl := findShipment_commits hship
    have hids := hdb.found rfl hship
    obtain ⟨o, hfind, _, rfl⟩ := commits_update.mp hready
    have hconfirmation : operationalConfirmation.Apart
        fun db : OrdersDb => (db.ledger, db.orders, db.shipments) := ⟨fun _ _ => rfl⟩
    have hsame := hconfirmation.updateMany _ _ _ hconfirm
    simp only [Prod.mk.injEq] at hsame
    obtain ⟨hledger, horders, hshipments⟩ := hsame
    have hmarked : Marked [s.id] .ready db.shipments t'.shipments := by
      rw [hshipments]
      exact marked_put .ready (g := fun s => { s with status := .ready }) hfind fun _ => rfl
    refine Fulfils.move hupdate ho horders ?_ hmarked hids rfl rfl ⟨by simp, by simp⟩ ?_
    · intro key
      rw [hledger]
      exact .inl rfl
    · intro hshipped
      simp at hshipped

lemma deliver_fulfils (hdb : Owned db) (hc : Commits (deliver scope id) db u db') : Fulfils db db' := by
  simp only [deliver, commits_steps, commits_ite, Option.filter_eq_some_iff] at hc
  obtain ⟨order, _, hord, ⟨_, _, rfl⟩ | ⟨_, hstatus, _, _, hship, s, ⟨rfl, _⟩, _, t, hready, _, _, hupdate, _,
    rfl⟩⟩ := hc
  · exact (findOrder_commits hord).2 ▸ .refl _
  · obtain ⟨ho, rfl⟩ := findOrder_commits hord
    obtain rfl := findShipment_commits hship
    have hids := hdb.found rfl hship
    obtain ⟨o, hfind, _, rfl⟩ := commits_update.mp hready
    have hmarked := marked_put .delivered (g := fun s => { s with status := .delivered }) hfind fun _ => rfl
    exact Fulfils.move hupdate ho rfl (fun _ => .inl rfl) hmarked hids rfl rfl ⟨by simp, by simp⟩
      fun _ => .inl ⟨hstatus, rfl⟩

lemma stockPart_papers : stockPart.Apart fun db : OrdersDb => (db.ledger, db.orders, db.shipments) :=
  ⟨fun _ _ => rfl⟩

lemma ship_fulfils {dto : DispatchOrder} (hdb : Owned db)
    (hc : Commits (ship scope id dto) db u db') : Fulfils db db' := by
  simp only [ship, commits_bind, commits_orThrow, commits_require, commits_ite, commits_pure] at hc
  obtain ⟨order, _, hord, ⟨_, _, rfl⟩ | ⟨_, _, _, ⟨hstatus, rfl⟩, _, _, hship, s, _, ⟨rfl, rfl⟩, _, _,
    ⟨_, rfl⟩, _, _, hcheck, payment, _, hpay, _, _, ⟨_, rfl⟩, hc⟩⟩ := hc
  · exact (findOrder_commits hord).2 ▸ .refl _
  obtain ⟨ho, rfl⟩ := findOrder_commits hord
  obtain rfl := findShipment_commits hship
  have hids := hdb.found rfl hship
  obtain rfl := checkDispatch_commits hcheck
  obtain ⟨_, _, rfl⟩ := firstPayment_commits hpay
  simp only [dispatchOrder, commits_bind, commits_pure, Part.commits_lift] at hc
  obtain ⟨_, t₁, hlines, _, t₂, hitems, event, _, ⟨ledger, hpost, rfl⟩, _, t₃, hready, _, _, hupdate, _,
    rfl⟩ := hc
  have hlines := Leaves.forM (f := fun db : OrdersDb => (db.ledger, db.orders, db.shipments))
    (fun _ => stockPart_papers.lift) _ _ _ hlines
  have hitems := Leaves.forM (f := fun db : OrdersDb => (db.ledger, db.orders, db.shipments))
    (fun _ => stockPart_papers.lift.bind fun _ => stockPart_papers.lift) _ _ _ hitems
  have hsame := hitems.trans hlines
  simp only [Prod.mk.injEq] at hsame
  obtain ⟨hledger, horders, hshipments⟩ := hsame
  obtain ⟨o, hfind, _, rfl⟩ := commits_update.mp hready
  change t₂.shipments.find? s.id = some o at hfind
  change Commits (postOperationalEvent _) t₂.ledger event ledger at hpost
  have hevent := postOperationalEvent_find hpost
  have hkey : event.key = fulfilledKey scope.companyId order.id := (find?_eq_some.mp hevent).2
  have hsent := marked_put (if order.fulfillmentType = .pickup then .pickedUp else .inTransit)
    (g := fun s => { s with
      status := if order.fulfillmentType = .pickup then .pickedUp else .inTransit,
      gatePassId := if order.fulfillmentType = .pickup then none else dto.gatePassId.or s.gatePassId })
    hfind fun _ => rfl
  have hmarked := (marked_of_same hshipments).trans hsent
  refine Fulfils.move hupdate ho horders ?_ hmarked hids rfl rfl ?_ fun _ => .inr ?_
  · intro key
    rw [← hledger]
    exact postOperationalEvent_postsOnce hpost
  · split
    · exact ⟨by simp, by simp⟩
    · exact ⟨by simp, by simp⟩
  · exact ⟨scope.companyId, congrArg some hkey, event, hevent⟩

lemma cancelShipment_commits (h : Commits (cancelShipment scope s) db u db') :
    db'.ledger = db.ledger ∧ db'.orders = db.orders ∧
      Marked [s.id] .cancelled db.shipments db'.shipments := by
  simp only [cancelShipment, commits_steps] at h
  obtain ⟨_, t₁, hserials, _, t₂, hupdate, _, t₃, hinspections, _, t₄, hconfirmations, _, rfl⟩ := h
  have hinspection : operationalInspection.Apart
      fun db : OrdersDb => (db.ledger, db.orders, db.shipments) := ⟨fun _ _ => rfl⟩
  have hconfirmation : operationalConfirmation.Apart
      fun db : OrdersDb => (db.ledger, db.orders, db.shipments) := ⟨fun _ _ => rfl⟩
  have hbefore := stockPart_papers.lift _ _ _ hserials
  have hafter := (hconfirmation.updateMany _ _ _ hconfirmations).trans
    (hinspection.updateMany _ _ _ hinspections)
  simp only [Prod.mk.injEq] at hbefore hafter
  obtain ⟨hledger, horders, hshipments⟩ := hbefore
  obtain ⟨hledger', horders', hshipments'⟩ := hafter
  obtain ⟨o, hfind, _, rfl⟩ := commits_update.mp hupdate
  change t₁.shipments.find? s.id = some o at hfind
  refine ⟨hledger'.trans hledger, horders'.trans horders, ?_⟩
  rw [hshipments', shipment_write, ← hshipments]
  exact marked_put .cancelled (g := fun s => { s with status := .cancelled }) hfind fun _ => rfl

lemma cancel_fulfils (hdb : Owned db) (hc : Commits (cancel scope id) db u db') : Fulfils db db' := by
  simp only [cancel, commits_bind, commits_get, commits_require, commits_ite, commits_pure] at hc
  obtain ⟨order, _, hord, ⟨_, _, rfl⟩ | ⟨hnot, _, _, ⟨hstatus, rfl⟩, _, _, ⟨rfl, rfl⟩, _, _,
    ⟨hunpaid, rfl⟩, hc⟩⟩ := hc
  · exact (findOrder_commits hord).2 ▸ .refl _
  obtain ⟨ho, rfl⟩ := findOrder_commits hord
  simp only [revokeOrder, commits_bind, commits_pure, commits_updateMany] at hc
  obtain ⟨_, _, hclaim, _, t₁, hlines, found, t₂, hship, _, t₃, hcancel, _, _, ⟨_, rfl⟩, _, rfl⟩ := hc
  obtain ⟨o, hmem, ho', rfl⟩ := updateOne_commits hclaim
  simp only [cond_iff] at ho'
  obtain rfl := eq_of_key_eq ho hmem ho'.1.symm
  have hlines := Leaves.forM (f := fun db : OrdersDb => (db.ledger, db.orders, db.shipments))
    (fun _ => stockPart_papers.lift) _ _ _ hlines
  simp only [Prod.mk.injEq] at hlines
  obtain ⟨hledger, horders, hshipments⟩ := hlines
  obtain rfl := findShipment_commits hship
  -- the shipment of the order, if there is one, is cancelled with it
  have hshipment : ∃ ids, t₃.ledger = t₁.ledger ∧ t₃.orders = t₁.orders ∧
      Marked ids .cancelled db.shipments t₃.shipments ∧
      ∀ s ∈ db.shipments, s.id ∈ ids ↔ s.orderId = some order.id := by
    cases found with
    | none =>
      obtain ⟨_, rfl⟩ := commits_pure.mp hcancel
      refine ⟨[], rfl, rfl, ?_, hdb.not_found hshipments ho hship⟩
      exact marked_of_same hshipments
    | some s =>
      obtain ⟨hledger', horders', hmarked⟩ := cancelShipment_commits hcancel
      refine ⟨[s.id], hledger', horders', ?_, hdb.found hshipments hship⟩
      rw [hshipments] at hmarked
      exact hmarked
  obtain ⟨ids, hledger', horders', hmarked, hids⟩ := hshipment
  constructor
  case ledger =>
    intro key
    change PostsOnce db.ledger t₃.ledger key
    rw [hledger', hledger]
    exact .inl rfl
  case effect =>
    refine .moved order { order with status := .cancelled } ids .cancelled ⟨ho, rfl, rfl, ?_, by simp⟩
      ⟨by simp, by simp⟩ hmarked hids
    exact horders'.trans horders

lemma placeOrder_fulfils {branch : Branch} {dto : CreateOrder}
    (hc : Commits (placeOrder branch dto) db id db') : Fulfils db db' := by
  simp only [placeOrder, commits_bind, commits_get, commits_require, commits_create, commits_pure] at hc
  obtain ⟨warehouse, _, hstore, _, _, hcheck, id, t, hid, _, _, ⟨rfl, rfl⟩, _, _, ⟨_, rfl⟩, _, _,
    ⟨hfresh, rfl⟩, _, _, hlines, paymentId, t', hid', _, _, ⟨rfl, rfl⟩, _, _, ⟨_, rfl⟩, _, _,
    ⟨_, rfl⟩, rfl, rfl⟩ := hc
  obtain rfl := findStoreWarehouse_readOnly.eq hstore
  obtain rfl := checkAvailable_readOnly.eq hcheck
  have hbefore := freshId_shipments _ _ _ hid
  have hlines := Leaves.forM (f := fun db : OrdersDb => (db.ledger, db.orders, db.shipments))
    (fun _ => stockPart_papers.lift) _ _ _ hlines
  have hafter := (freshId_shipments _ _ _ hid').trans hlines
  simp only [order_write, Prod.mk.injEq] at hbefore hafter
  obtain ⟨hledger, horders, hshipments⟩ := hbefore
  obtain ⟨hledger', horders', hshipments'⟩ := hafter
  constructor
  case ledger =>
    intro key
    change PostsOnce db.ledger t'.ledger key
    rw [hledger', hledger]
    exact .inl rfl
  case effect =>
    refine .opened (dto.row id branch.id warehouse.id) (horders ▸ hfresh) rfl ?_ ?_
    · exact horders'.trans (congrArg (Table.put · _) horders)
    · exact congrArg (fun t : Table Shipment.id => t.rows.map _) (hshipments'.trans hshipments)

lemma Fulfils.receipts {r r' : Common.Receipts} (h : Fulfils { db with receipts := r } db') :
    Fulfils db { db' with receipts := r' } := by
  constructor
  case ledger => exact h.ledger
  case effect =>
    cases h.effect with
    | kept horders hmarks => exact .kept horders hmarks
    | opened o hfresh hstatus horders hmarks => exact .opened o hfresh hstatus horders hmarks
    | released o o' added hrewritten hfrom hto hnew hmarks =>
      obtain ⟨hmem, hid, hwarehouse, horders, hevent⟩ := hrewritten
      exact .released o o' added ⟨hmem, hid, hwarehouse, horders, hevent⟩ hfrom hto hnew hmarks
    | moved o o' ids status hrewritten hto hmarked hids =>
      obtain ⟨hmem, hid, hwarehouse, horders, hevent⟩ := hrewritten
      exact .moved o o' ids status ⟨hmem, hid, hwarehouse, horders, hevent⟩ hto hmarked hids

lemma create_fulfils {dto : CreateOrder} {id : Option ℕ} (hc : Commits (create dto) db id db') :
    Fulfils db db' := by
  simp only [create, commits_steps] at hc
  obtain ⟨_, branch, _, hc⟩ := hc
  split at hc
  · obtain ⟨_, hplace, _⟩ := commits_bind_pure.mp hc
    exact placeOrder_fulfils hplace
  · obtain ⟨gate, t, hgate, hc⟩ := commits_bind.mp hc
    obtain ⟨r, _, rfl⟩ := Part.commits_lift.mp hgate
    split at hc
    · obtain ⟨_, rfl⟩ := commits_pure.mp hc
      exact .of_eq rfl rfl rfl
    · obtain ⟨_, t', hplace, hc⟩ := commits_bind.mp hc
      obtain ⟨_, hcomplete, _⟩ := commits_bind_pure.mp hc
      obtain ⟨r', _, rfl⟩ := Part.commits_lift.mp hcomplete
      exact (placeOrder_fulfils hplace).receipts

lemma OrderCall.fulfils {c : OrderCall} (hdb : Owned db)
    (hc : Commits (c.tx cfg) db u db') : Fulfils db db' := by
  cases c with
  | create dto =>
    obtain ⟨_, hcreate, _⟩ := commits_bind_pure.mp hc
    exact create_fulfils hcreate
  | selectPayment number paymentMethod branchCode accessToken => exact selectPayment_fulfils hc
  | confirmPayment scope id dto => exact confirmPayment_fulfils hc
  | confirmProviderPayment input =>
    obtain ⟨_, hconfirm, _⟩ := commits_bind_pure.mp hc
    exact confirmProviderPayment_fulfils hconfirm
  | authorizeInvoice scope id => exact authorizeInvoice_fulfils hc
  | pack scope id => exact pack_fulfils hdb hc
  | ship scope id dto => exact ship_fulfils hdb hc
  | deliver scope id => exact deliver_fulfils hdb hc
  | cancel scope id => exact cancel_fulfils hdb hc

/-! ### The invariants -/

lemma Owned.marked {ids : List ℕ} {status : ShipmentStatus} (h : Owned db)
    (hmarked : Marked ids status db.shipments db'.shipments)
    (horders : ∀ o ∈ db.orders, ∃ o' ∈ db'.orders, o'.id = o.id ∧ o'.warehouseId = o.warehouseId) :
    Owned db' := by
  constructor
  case order =>
    intro s' hs' id howner
    obtain ⟨s, hs, hmark⟩ := hmarked.of_mem hs'
    obtain ⟨_, howns, hwarehouse, _⟩ := mark_eq_markAs.mp hmark
    obtain ⟨o, ho, hid, hfrom⟩ := h.order s hs id (howns ▸ howner)
    obtain ⟨o', ho', hid', hfrom'⟩ := horders o ho
    exact ⟨o', ho', hid'.trans hid, by rw [hfrom', hfrom, hwarehouse]⟩
  case unique =>
    intro s' hs' t' ht' id hs howner
    obtain ⟨s, hsmem, hsmark⟩ := hmarked.of_mem hs'
    obtain ⟨t, htmem, htmark⟩ := hmarked.of_mem ht'
    obtain ⟨hsid, hsowns, _, _⟩ := mark_eq_markAs.mp hsmark
    obtain ⟨htid, htowns, _, _⟩ := mark_eq_markAs.mp htmark
    obtain rfl := h.unique s hsmem t htmem id (hsowns ▸ hs) (htowns ▸ howner)
    exact eq_of_key_eq hs' ht' (hsid.trans htid.symm)

variable {o' : Order}

lemma Rewritten.exists_order (h : Rewritten db db' o o') :
    ∀ x ∈ db.orders, ∃ x' ∈ db'.orders, x'.id = x.id ∧ x'.warehouseId = x.warehouseId := by
  intro x hx
  rw [h.orders]
  by_cases hkey : x.id = o'.id
  · obtain rfl := eq_of_key_eq hx h.mem (hkey.trans h.id)
    exact ⟨o', mem_put_self _ _, h.id, h.warehouse⟩
  · exact ⟨x, mem_put.mpr (Or.inr ⟨hx, hkey⟩), rfl, rfl⟩

variable {added : List (ℕ × Option ℕ × ℕ × ShipmentStatus)}

lemma mem_of_marks
    (hmarks : marks db' = marks db ++ added) {s' : Shipment} (hs' : s' ∈ db'.shipments) :
    (∃ s ∈ db.shipments, s'.mark = s.mark) ∨ s'.mark ∈ added := by
  have hmem : s'.mark ∈ marks db ++ added := hmarks ▸ mem_map_of_mem hs'
  rcases mem_append.mp hmem with hmem | hmem
  · obtain ⟨s, hs, hmark⟩ := mem_map.mp hmem
    exact .inl ⟨s, hs, hmark.symm⟩
  · exact .inr hmem

lemma mark_eq {s' : Shipment} : s'.mark = s.mark ↔ s'.id = s.id ∧ s'.orderId = s.orderId ∧
    s'.warehouseId = s.warehouseId ∧ s'.status = s.status := by
  simp only [Shipment.mark, Prod.mk.injEq]

/-- An order gets its shipment. -/
lemma Owned.released (h : Owned db) (hrewritten : Rewritten db db' o o') (hnew : NewShipment db o added)
    (hmarks : marks db' = marks db ++ added) : Owned db' := by
  rcases hnew with rfl | ⟨hnone, id, rfl⟩
  · rw [append_nil] at hmarks
    exact h.marked (marked_of_eq .draft hmarks) hrewritten.exists_order
  have hcases : ∀ s' ∈ db'.shipments, (∃ s ∈ db.shipments, s'.mark = s.mark) ∨
      s'.id = id ∧ s'.orderId = some o.id ∧ s'.warehouseId = o.warehouseId := by
    intro s' hs'
    rcases mem_of_marks hmarks hs' with hold | hadded
    · exact .inl hold
    · simp only [mem_singleton, Shipment.mark, Prod.mk.injEq] at hadded
      exact .inr ⟨hadded.1, hadded.2.1, hadded.2.2.1⟩
  constructor
  case order =>
    intro s' hs' k howner
    rcases hcases s' hs' with ⟨s, hs, hmark⟩ | ⟨_, howns, hwarehouse⟩
    · obtain ⟨_, howns, hwarehouse, _⟩ := mark_eq.mp hmark
      obtain ⟨x, hx, hid, hfrom⟩ := h.order s hs k (howns ▸ howner)
      obtain ⟨x', hx', hid', hfrom'⟩ := hrewritten.exists_order x hx
      exact ⟨x', hx', hid'.trans hid, by rw [hfrom', hfrom, hwarehouse]⟩
    · obtain rfl := mem_unique howns howner
      exact ⟨o', hrewritten.orders ▸ mem_put_self _ _, hrewritten.id,
        hrewritten.warehouse.trans hwarehouse.symm⟩
  case unique =>
    intro s' hs' t' ht' k hs ht
    rcases hcases s' hs' with ⟨s, hsmem, hsmark⟩ | ⟨hsid, hsowns, _⟩ <;>
      rcases hcases t' ht' with ⟨t, htmem, htmark⟩ | ⟨htid, htowns, _⟩
    · obtain ⟨hsid, hsowns, _⟩ := mark_eq.mp hsmark
      obtain ⟨htid, htowns, _⟩ := mark_eq.mp htmark
      obtain rfl := h.unique s hsmem t htmem k (hsowns ▸ hs) (htowns ▸ ht)
      exact eq_of_key_eq hs' ht' (hsid.trans htid.symm)
    · -- an order that has a shipment gets no other one
      obtain ⟨_, hsowns, _⟩ := mark_eq.mp hsmark
      exact absurd (hsowns.symm.trans (hs.trans (ht.symm.trans htowns))) (hnone s hsmem)
    · obtain ⟨_, htowns, _⟩ := mark_eq.mp htmark
      exact absurd (htowns.symm.trans (ht.trans (hs.symm.trans hsowns))) (hnone t htmem)
    · exact eq_of_key_eq hs' ht' (hsid.trans htid.symm)

lemma Owned.step (h : Owned db) (hstep : Fulfils db db') : Owned db' := by
  cases hstep.effect with
  | kept horders hmarks =>
    exact h.marked (marked_of_eq .draft hmarks) fun o ho => ⟨o, horders ▸ ho, rfl, rfl⟩
  | opened o hfresh _ horders hmarks =>
    refine h.marked (marked_of_eq .draft hmarks) fun x hx => ⟨x, ?_, rfl, rfl⟩
    rw [horders]
    exact mem_put.mpr (Or.inr ⟨hx, find?_eq_none.mp hfresh x hx⟩)
  | released o o' added hrewritten _ _ hnew hmarks => exact h.released hrewritten hnew hmarks
  | moved o o' ids status hrewritten _ hmarked _ => exact h.marked hmarked hrewritten.exists_order

lemma Agree.release {s : ShipmentStatus} {o : OrderStatus} (h : Agree s .pendingPayment)
    (ho : o ∈ [.paid, .processing]) : Agree s o := by
  constructor
  case left =>
    intro hleft
    have habsurd := h.left hleft
    simp at habsurd
  case underWay =>
    rintro rfl
    simp at ho

lemma Agreed.step (h : Agreed db) (hdb : Owned db) (hstep : Fulfils db db') : Agreed db' := by
  intro s' hs' x hx howner
  cases hstep.effect with
  | kept horders hmarks =>
    obtain ⟨s, hs, hmark⟩ | hadded := mem_of_marks (hmarks.trans (append_nil _).symm) hs'
    · obtain ⟨_, howns, _, hstatus⟩ := mark_eq.mp hmark
      exact hstatus ▸ h s hs x (horders ▸ hx) (howns ▸ howner)
    · cases hadded
  | opened o hfresh _ horders hmarks =>
    obtain ⟨s, hs, hmark⟩ | hadded := mem_of_marks (hmarks.trans (append_nil _).symm) hs'
    · obtain ⟨_, howns, _, hstatus⟩ := mark_eq.mp hmark
      obtain ⟨y, hy, hyid, _⟩ := hdb.order s hs x.id (howns ▸ howner)
      rw [horders] at hx
      rcases mem_put.mp hx with rfl | ⟨hx, _⟩
      · exact absurd hyid (find?_eq_none.mp hfresh y hy)
      · exact hstatus ▸ h s hs x hx (howns ▸ howner)
    · cases hadded
  | released o o' added hrewritten hfrom hto hnew hmarks =>
    rw [hrewritten.orders] at hx
    obtain ⟨s, hs, hmark⟩ | hadded := mem_of_marks hmarks hs'
    · obtain ⟨_, howns, _, hstatus⟩ := mark_eq.mp hmark
      rw [hstatus]
      rcases mem_put.mp hx with rfl | ⟨hx, _⟩
      · have hagree := h s hs o hrewritten.mem (howns ▸ hrewritten.id ▸ howner)
        rw [hfrom] at hagree
        exact hagree.release hto
      · exact h s hs x hx (howns ▸ howner)
    · rcases hnew with rfl | ⟨_, id, rfl⟩
      · cases hadded
      · simp only [mem_singleton, Shipment.mark, Prod.mk.injEq] at hadded
        obtain ⟨_, howns, _, hstatus⟩ := hadded
        rw [hstatus]
        rcases mem_put.mp hx with rfl | ⟨_, hne⟩
        · have hagree : Agree .draft .pendingPayment := ⟨by simp, by simp⟩
          exact hagree.release hto
        · exact absurd (mem_unique howner howns) (hrewritten.id ▸ hne)
  | moved o o' ids status hrewritten hto hmarked hids =>
    rw [hrewritten.orders] at hx
    obtain ⟨s, hs, hmark⟩ := hmarked.of_mem hs'
    obtain ⟨_, howns, _, hstatus⟩ := mark_eq_markAs.mp hmark
    have howner' : s.orderId = some x.id := howns ▸ howner
    rw [hstatus]
    rcases mem_put.mp hx with rfl | ⟨hx, hne⟩
    · rw [if_pos ((hids s hs).mpr (hrewritten.id ▸ howner'))]
      exact hto
    · rw [if_neg]
      · exact h s hs x hx howner'
      · intro hmem
        exact hne ((mem_unique howner' ((hids s hs).mp hmem)).trans hrewritten.id.symm)

lemma RevenuePosted.step (h : RevenuePosted db o) (hid : o'.id = o.id)
    (hevent : o'.accountingEventId = o.accountingEventId)
    (hledger : ∀ key, PostsOnce db.ledger db'.ledger key) : RevenuePosted db' o' := by
  obtain ⟨companyId, hkey, hposted⟩ := h
  refine ⟨companyId, hevent.trans (hid ▸ hkey), ?_⟩
  rw [hid]
  exact hposted.step (hledger _)

lemma RevenueRight.rewritten (h : RevenueRight db) (hrewritten : Rewritten db db' o o')
    (hledger : ∀ key, PostsOnce db.ledger db'.ledger key) :
    ∀ x ∈ db'.orders, x.status ∈ [.shipped, .completed] → RevenuePosted db' x := by
  intro x hx hshipped
  rw [hrewritten.orders] at hx
  rcases mem_put.mp hx with rfl | ⟨hx, _⟩
  · obtain ⟨hfrom, hevent⟩ | ⟨companyId, hevent, ev, hfind⟩ := hrewritten.event hshipped
    · exact (h.orders o hrewritten.mem (by simp [hfrom])).step hrewritten.id hevent hledger
    · refine ⟨companyId, hrewritten.id ▸ hevent, ?_⟩
      rw [hrewritten.id]
      exact ((h.posted companyId o.id).step (hledger _)).posted hfind
  · exact (h.orders x hx hshipped).step rfl rfl hledger

lemma RevenueRight.step (h : RevenueRight db) (hstep : Fulfils db db') : RevenueRight db' := by
  constructor
  case posted => exact fun companyId orderId => (h.posted companyId orderId).step (hstep.ledger _)
  case orders =>
    cases hstep.effect with
    | kept horders _ =>
      intro x hx hshipped
      exact (h.orders x (horders ▸ hx) hshipped).step rfl rfl hstep.ledger
    | opened o _ hstatus horders _ =>
      intro x hx hshipped
      rw [horders] at hx
      rcases mem_put.mp hx with rfl | ⟨hx, _⟩
      · rw [hstatus] at hshipped
        simp at hshipped
      · exact (h.orders x hx hshipped).step rfl rfl hstep.ledger
    | released o o' added hrewritten _ _ _ _ => exact h.rewritten hrewritten hstep.ledger
    | moved o o' ids status hrewritten _ _ _ => exact h.rewritten hrewritten hstep.ledger

end Mayatoko.Orders
