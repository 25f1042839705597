import Mayatoko.Orders.Lifecycle
import Mayatoko.Stock.ReservationRows

/-!
# Orders and their reservations

The reservations of an order follow its status: they are `ACTIVE` and add up to the ordered quantities
until the order is shipped or cancelled, and then all `CONSUMED` or all `RELEASED`. A cancelled order
has no `PAID` payment. Every committed transaction of the orders preserves this, for all orders at
once; so do the other services, as far as they leave orders, payments and reservations alone.
-/

namespace Mayatoko.Orders

open Core TableOf Accounting Common OrdersDb
open Stock (OrderStatus ReservationStatus InventoryReservation orderSource heldOf activeOn NewRows)
open Finance (PaymentStatus)
open Transit (TenantScope)

variable {db db' : OrdersDb} {u : Unit}

/-! ### The coupling -/

def Order.ordered (o : Order) (p : ℕ) : ℤ :=
  totalOf (fun i : OrderItem => i.productId) (fun i => (i.quantity : ℤ)) o.items p

def holdsStock : OrderStatus → Bool
  | .pendingPayment | .paid | .processing | .packed => true
  | .shipped | .completed | .cancelled | .refunded => false

def OrdersDb.reservationsOf (db : OrdersDb) (o : Order) : List InventoryReservation :=
  db.stock.reservations.findMany (InventoryReservation.isFor (orderSource o.id))

structure OrderCoupled (db : OrdersDb) (o : Order) : Prop where
  held : holdsStock o.status = true →
    ∀ p, heldOf ((db.reservationsOf o).filter fun r => r.status = .active) p = o.ordered p
  free : holdsStock o.status = false → ∀ r ∈ db.reservationsOf o, r.status ≠ .active
  released : o.status = .cancelled → ∀ r ∈ db.reservationsOf o, r.status = .released
  consumed : o.status = .shipped ∨ o.status = .completed →
    ∀ r ∈ db.reservationsOf o, r.status = .consumed
  unpaid : o.status = .cancelled → ∀ p ∈ db.paymentsOf o.id, p.status ≠ .paid

def reservationStatus : OrderStatus → ReservationStatus
  | .pendingPayment | .paid | .processing | .packed => .active
  | .shipped | .completed => .consumed
  | .cancelled | .refunded => .released

/-- The invariant of one order: its rows have one status, are on ordered products and hold what was
ordered, whatever their status. -/
structure Settled (db : OrdersDb) (o : Order) : Prop where
  status : ∀ r ∈ db.reservationsOf o, r.status = reservationStatus o.status
  products : ∀ r ∈ db.reservationsOf o, r.productId ∈ o.items.map fun i => i.productId
  total : ∀ p, heldOf (db.reservationsOf o) p = o.ordered p
  unpaid : o.status = .cancelled → ∀ p ∈ db.paymentsOf o.id, p.status ≠ .paid

structure Coupled (db : OrdersDb) : Prop where
  settled : ∀ o ∈ db.orders, Settled db o
  sourced : ∀ r ∈ db.stock.reservations, r.sourceType = "Order" → ∃ o ∈ db.orders, o.id = r.sourceId

variable {o : Order}

lemma Settled.coupled (h : Settled db o) : OrderCoupled db o := by
  have hstatus := h.status
  constructor
  case held =>
    intro hholds p
    rw [List.filter_eq_self.mpr, h.total]
    intro r hr
    rw [hstatus r hr]
    cases ho : o.status <;> simp_all [holdsStock, reservationStatus]
  case free =>
    intro hholds r hr
    rw [hstatus r hr]
    cases ho : o.status <;> simp_all [holdsStock, reservationStatus]
  case released =>
    intro ho r hr
    rw [hstatus r hr, ho]
    rfl
  case consumed =>
    rintro (ho | ho) r hr <;>
    · rw [hstatus r hr, ho]
      rfl
  case unpaid => exact h.unpaid

/-! ### What keeps the coupling -/

variable {r : InventoryReservation}

lemma mem_reservationsOf :
    r ∈ db.reservationsOf o ↔ r ∈ db.stock.reservations ∧ r.isFor (orderSource o.id) = true :=
  mem_findMany

variable {p : Payment}

lemma mem_paymentsOf {id : ℕ} : p ∈ db.paymentsOf id ↔ p ∈ db.payments ∧ p.orderId = some id := by
  rw [paymentsOf, mem_findMany, decide_eq_true_eq]

def OrdersDb.coupling (db : OrdersDb) : Table Order.id × Table Payment.id ×
    Table InventoryReservation.key :=
  (db.orders, db.payments, db.stock.reservations)

lemma Settled.congr (h : Settled db o) (hrows : db'.reservationsOf o = db.reservationsOf o)
    (hpay : ∀ p ∈ db'.payments, p.status = .paid → p.orderId = some o.id → o.status = .cancelled →
      ∃ p₀ ∈ db.payments, p₀.status = .paid ∧ p₀.orderId = some o.id) : Settled db' o := by
  constructor
  case status => exact hrows ▸ h.status
  case products => exact hrows ▸ h.products
  case total => exact hrows ▸ h.total
  case unpaid =>
    intro ho p hp hpaid
    obtain ⟨hmem, hid⟩ := mem_paymentsOf.mp hp
    obtain ⟨p₀, hmem₀, hpaid₀, hid₀⟩ := hpay p hmem hpaid hid ho
    exact h.unpaid ho p₀ (mem_paymentsOf.mpr ⟨hmem₀, hid₀⟩) hpaid₀

lemma reservationsOf_congr (h : db'.stock.reservations = db.stock.reservations) :
    db'.reservationsOf o = db.reservationsOf o := by
  rw [OrdersDb.reservationsOf, h, OrdersDb.reservationsOf]

lemma Coupled.of_payments (h : Coupled db) (horders : db'.orders = db.orders)
    (hrows : db'.stock.reservations = db.stock.reservations)
    (hpay : ∀ p ∈ db'.payments, p.status = .paid → p ∈ db.payments) : Coupled db' := by
  constructor
  case settled =>
    intro o ho
    rw [horders] at ho
    refine (h.settled o ho).congr (reservationsOf_congr hrows) fun p hp hpaid hid _ => ?_
    exact ⟨p, hpay p hp hpaid, hpaid, hid⟩
  case sourced =>
    rw [hrows, horders]
    exact h.sourced

lemma Coupled.congr (h : Coupled db) (heq : db'.coupling = db.coupling) : Coupled db' := by
  obtain ⟨horders, hrest⟩ := Prod.mk.inj heq
  obtain ⟨hpay, hrows⟩ := Prod.mk.inj hrest
  exact h.of_payments horders hrows fun p hp _ => hpay ▸ hp

/-- A step that gives an order another status, rewrites reservation rows of that order only and makes
no payment of another order `PAID`. -/
structure Moved (db : OrdersDb) (o : Order) (status : OrderStatus)
    (g : InventoryReservation → InventoryReservation) (db' : OrdersDb) : Prop where
  mem : o ∈ db.orders
  orders : ∃ o', o'.id = o.id ∧ o'.items = o.items ∧ o'.status = status ∧
    db'.orders = db.orders.put o'
  rows : db'.stock.reservations.rows = db.stock.reservations.rows.map g
  payments : ∀ p ∈ db'.payments, p.status = .paid →
    p ∈ db.payments ∨ p.orderId = some o.id ∧ status ≠ .cancelled

variable {g : InventoryReservation → InventoryReservation}

lemma reservationsOf_map
    (hrows : db'.stock.reservations.rows = db.stock.reservations.rows.map g)
    (hfor : ∀ source r, (g r).isFor source = r.isFor source) :
    db'.reservationsOf o = (db.reservationsOf o).map g := by
  rw [OrdersDb.reservationsOf, Table.findMany, hrows, List.filter_map, OrdersDb.reservationsOf, Table.findMany]
  congr 2
  funext r
  exact hfor _ r

variable {status : OrderStatus}

lemma Coupled.moved (h : Coupled db)
    (hm : Moved db o status g db') (hfor : ∀ source r, (g r).isFor source = r.isFor source)
    (hsame : ∀ r, (g r).productId = r.productId ∧ (g r).quantity = r.quantity)
    (hself : ∀ r ∈ db.reservationsOf o, (g r).status = reservationStatus status)
    (hother : ∀ r, r.isFor (orderSource o.id) = false → g r = r)
    (hunpaid : status = .cancelled → ∀ p ∈ db.paymentsOf o.id, p.status ≠ .paid) : Coupled db' := by
  obtain ⟨o', hid, hitems, hstatus, horders⟩ := hm.orders
  have hmap (x : Order) := @reservationsOf_map db db' x g hm.rows hfor
  constructor
  case settled =>
    intro x hx
    rw [horders, mem_put] at hx
    rcases hx with rfl | ⟨hx, hne⟩
    · have hx := hmap x
      have hsettled := h.settled o hm.mem
      have hsource : db.reservationsOf x = db.reservationsOf o := by
        rw [OrdersDb.reservationsOf, hid, OrdersDb.reservationsOf]
      rw [hsource] at hx
      constructor
      case status =>
        intro r hr
        obtain ⟨r₀, hr₀, rfl⟩ := mem_map.mp (hx ▸ hr)
        rw [hself r₀ hr₀, hstatus]
      case products =>
        intro r hr
        obtain ⟨r₀, hr₀, rfl⟩ := mem_map.mp (hx ▸ hr)
        rw [(hsame r₀).1, hitems]
        exact hsettled.products r₀ hr₀
      case total =>
        intro p
        rw [hx, Order.ordered, hitems]
        refine Eq.trans ?_ (hsettled.total p)
        rw [heldOf, totalOf, map_map, heldOf, totalOf]
        congr 1
        refine map_congr_left fun r _ => ?_
        simp only [Function.comp_apply, hsame]
      case unpaid =>
        intro hcancelled p hp hpaid
        obtain ⟨hmem, horder⟩ := mem_paymentsOf.mp hp
        rw [hstatus] at hcancelled
        rcases hm.payments p hmem hpaid with hmem₀ | ⟨_, hne⟩
        · exact hunpaid hcancelled p (mem_paymentsOf.mpr ⟨hmem₀, hid ▸ horder⟩) hpaid
        · exact hne hcancelled
    · have hxo : x.id ≠ o.id := hid ▸ hne
      refine (h.settled x hx).congr ?_ fun p hp hpaid horder _ => ?_
      · rw [hmap x]
        conv_rhs => rw [← List.map_id (db.reservationsOf x)]
        refine map_congr_left fun r hr => hother r ?_
        obtain ⟨_, hrx⟩ := Stock.isFor_order_iff.mp (mem_reservationsOf.mp hr).2
        rw [Bool.eq_false_iff, ne_eq, Stock.isFor_order_iff]
        rintro ⟨_, hro⟩
        exact hxo (hrx.symm.trans hro)
      · rcases hm.payments p hp hpaid with hmem₀ | ⟨horder', _⟩
        · exact ⟨p, hmem₀, hpaid, horder⟩
        · exact absurd (mem_unique horder horder') hxo
  case sourced =>
    intro r hr htype
    rw [mem_rows, hm.rows] at hr
    obtain ⟨r₀, hr₀, rfl⟩ := mem_map.mp hr
    have hfor₀ : r₀.isFor (orderSource (g r₀).sourceId) = true := by
      rw [← hfor]
      exact Stock.isFor_order_iff.mpr ⟨htype, rfl⟩
    obtain ⟨htype₀, hid₀⟩ := Stock.isFor_order_iff.mp hfor₀
    obtain ⟨x, hx, hxid⟩ := h.sourced r₀ hr₀ htype₀
    rw [horders]
    by_cases hxo : x.id = o.id
    · exact ⟨o', mem_put_self _ _, by rw [hid, ← hxo, hxid, hid₀]⟩
    · exact ⟨x, mem_put.mpr (Or.inr ⟨hx, hid ▸ hxo⟩), hxid.trans hid₀⟩

lemma Coupled.advanced (h : Coupled db) (hm : Moved db o status id db')
    (hstatus : reservationStatus status = reservationStatus o.status)
    (hactive : status ≠ .cancelled) : Coupled db' := by
  refine h.moved hm (fun _ _ => rfl) (fun _ => ⟨rfl, rfl⟩) (fun r hr => ?_) (fun _ _ => rfl)
    fun hcancelled => absurd hcancelled hactive
  rw [hstatus]
  exact (h.settled o hm.mem).status r hr

/-! ### What the transactions write -/

variable {τ : Type} {f : OrdersDb → τ} {scope : TenantScope} {order : Order} {payment : Payment}

lemma findOrder_commits {id : ℕ} (h : Commits (findOrder scope id) db order db') :
    order ∈ db.orders ∧ db = db' := by
  simp only [findOrder, commits_steps] at h
  obtain ⟨hfind, rfl⟩ := h
  obtain ⟨hfind, _⟩ := Option.filter_eq_some_iff.mp hfind
  exact ⟨(find?_eq_some.mp hfind).1, rfl⟩

variable {e : Failure}

lemma firstPayment_commits (h : Commits (firstPayment order e) db payment db') :
    payment ∈ db.payments ∧ payment.orderId = some order.id ∧ db = db' := by
  simp only [firstPayment, commits_steps] at h
  obtain ⟨hfind, rfl⟩ := h
  obtain ⟨hmem, hid⟩ := mem_paymentsOf.mp (List.mem_of_mem_head? hfind)
  exact ⟨hmem, hid, rfl⟩

lemma findShipment_commits {id warehouseId : ℕ} {s : Option Shipment}
    (h : Commits (findShipment id warehouseId) db s db') : db = db' := by
  simp only [findShipment, commits_steps] at h
  obtain ⟨_, rfl⟩ := h
  rfl

/-- `f` does not look at the workflow of a fulfilment. -/
structure OffWorkflow (f : OrdersDb → τ) : Prop where
  frame : ∀ db n s i c, f { db with
    nextId := n, shipments := s, inspections := i, confirmations := c } = f db

namespace OffWorkflow

variable (hf : OffWorkflow f)

include hf

lemma freshId : Leaves f freshId := by
  intro db id db' h
  simp only [Orders.freshId, commits_steps, commits_set] at h
  obtain ⟨_, _, rfl, rfl, rfl⟩ := h
  exact hf.frame _ _ _ _ _

lemma shipment : OrdersDb.shipment.Apart f := ⟨fun _ _ => hf.frame _ _ _ _ _⟩

lemma inspection : operationalInspection.Apart f := ⟨fun _ _ => hf.frame _ _ _ _ _⟩

lemma confirmation : operationalConfirmation.Apart f := ⟨fun _ _ => hf.frame _ _ _ _ _⟩

lemma ensureShipment : Leaves f (ensureShipment order) := by
  refine leaves_get.bind fun _ => ?_
  split
  · exact leaves_pure
  · exact hf.freshId.bind fun _ => hf.shipment.create.bind fun _ => leaves_pure

lemma ensureInspection {companyId branchId : ℕ} {s : Shipment} :
    Leaves f (ensureInspection companyId branchId s) := by
  refine leaves_get.bind fun _ => Leaves.bind ?_ fun _ => ?_
  · split
    · exact leaves_pure
    · exact hf.freshId.bind fun _ => hf.inspection.create.bind fun _ => leaves_pure
  · exact (hf.shipment.update.bind fun _ => leaves_pure).ite leaves_pure

lemma ensureConfirmation {companyId branchId shipmentId : ℕ} :
    Leaves f (ensureConfirmation companyId branchId shipmentId) :=
  leaves_get.bind fun _ => (hf.freshId.bind fun _ => hf.confirmation.create).ite leaves_pure

lemma ensureOutboundWorkflow {id : ℕ} : Leaves f (ensureOutboundWorkflow id) :=
  leaves_get.bind fun _ => leaves_orThrow.bind fun _ => leaves_orThrow.bind fun _ =>
    hf.ensureShipment.bind fun _ => hf.ensureInspection.bind fun _ => hf.ensureConfirmation

end OffWorkflow

lemma offWorkflow_coupling : OffWorkflow coupling := ⟨fun _ _ _ _ _ => rfl⟩

structure Prepaid (order : Order) (payment : Payment) (method : String)
    (provider externalRef : Option String) (db db' : OrdersDb) : Prop where
  posted : ∃ branch event, db.branchOfWarehouse order.warehouseId = some branch ∧
    Commits (ensurePrepayment (prepaymentEvent branch.companyId order payment)) db.ledger event
      db'.ledger ∧
    ∃ p, db.payments.find? payment.id = some p ∧ db'.payments = db.payments.put
      { p with method, provider, externalRef, status := .paid, paidAt := some db.now,
               accountingEventId := some event.key }
  orders : ∃ o, db.orders.find? order.id = some o ∧
    db'.orders = db.orders.put { o with status := .paid }
  stock : db'.stock = db.stock

variable {method : String} {provider externalRef : Option String}

lemma postPrepayment_commits
    (h : Commits (postPrepayment order payment method provider externalRef) db u db') :
    Prepaid order payment method provider externalRef db db' := by
  simp only [postPrepayment, commits_steps, Part.commits_lift, commits_update] at h
  obtain ⟨branch, hbranch, event, _, ⟨ledger, hpost, rfl⟩, _, _, ⟨p, hp, _, rfl⟩, _, _, ⟨o, ho, _, rfl⟩,
    hflow⟩ := h
  have hleaves := @OffWorkflow.ensureOutboundWorkflow _
    (fun db : OrdersDb => (db.ledger, db.payments, db.orders, db.stock)) ⟨fun _ _ _ _ _ => rfl⟩
    order.id _ _ _ hflow
  simp only [Prod.mk.injEq] at hleaves
  obtain ⟨hledger, hpayments, horders, hstock⟩ := hleaves
  exact ⟨⟨branch, event, hbranch, hledger ▸ hpost, p, hp, hpayments⟩, ⟨o, ho, horders⟩, hstock⟩

lemma Prepaid.moved
    (h : Prepaid order payment method provider externalRef db db') (ho : order ∈ db.orders)
    (hp : payment ∈ db.payments) (horder : payment.orderId = some order.id) :
    Moved db order .paid id db' := by
  obtain ⟨_, event, _, _, p, hfind, hpayments⟩ := h.posted
  obtain ⟨o, hfindOrder, horders⟩ := h.orders
  obtain rfl := mem_unique (find?_of_mem hp) hfind
  obtain rfl := mem_unique (find?_of_mem ho) hfindOrder
  refine ⟨ho, ⟨{ order with status := .paid }, rfl, rfl, rfl, horders⟩, ?_, fun x hx _ => ?_⟩
  · rw [h.stock, List.map_id]
  rw [hpayments, mem_put] at hx
  rcases hx with rfl | ⟨hx, _⟩
  · exact .inr ⟨horder, by simp⟩
  · exact .inl hx

lemma Coupled.prepaid (h : Coupled db)
    (hpre : Prepaid order payment method provider externalRef db db') (ho : order ∈ db.orders)
    (hp : payment ∈ db.payments) (horder : payment.orderId = some order.id)
    (hstatus : order.status = .pendingPayment) : Coupled db' :=
  h.advanced (hpre.moved ho hp horder) (by rw [hstatus]; rfl) (by simp)

lemma Coupled.updatePayment {k : ℕ} {g : Payment → Payment} (h : Coupled db) (hg : ∀ p, (g p).status ≠ .paid)
    (hc : Commits (OrdersDb.payment.update k g e) db p db') : Coupled db' := by
  obtain ⟨p₀, _, _, rfl⟩ := commits_update.mp hc
  refine h.of_payments rfl rfl fun x hx hpaid => ?_
  rcases mem_put.mp hx with rfl | ⟨hx, _⟩
  · exact absurd hpaid (hg p₀)
  · exact hx

lemma Coupled.updateOrder (h : Coupled db)
    (ho : order ∈ db.orders) (hstatus : reservationStatus status = reservationStatus order.status)
    (hactive : status ≠ .cancelled)
    (hc : Commits (OrdersDb.order.update order.id (fun o => { o with status }) e) db o db') :
    Coupled db' := by
  obtain ⟨o₀, ho₀, _, rfl⟩ := commits_update.mp hc
  obtain rfl := mem_unique (find?_of_mem ho) ho₀
  exact h.advanced ⟨ho, ⟨{ order with status }, rfl, rfl, rfl, rfl⟩, (List.map_id _).symm,
    fun p hp _ => .inl hp⟩ hstatus hactive

/-! ### The transactions preserve the coupling -/

variable {cfg : OrdersConfig}

lemma applyMethod_coupled (h : Coupled db) (ho : order ∈ db.orders) (hp : payment ∈ db.payments)
    (horder : payment.orderId = some order.id) (hstatus : order.status = .pendingPayment)
    (hc : Commits (applyMethod cfg order payment method) db u db') : Coupled db' := by
  simp only [applyMethod, commits_ite, commits_steps, commits_throw, and_false, or_false] at hc
  obtain ⟨_, _, hpre⟩ | ⟨_, ⟨_, _, t, hpay, _, t', hord, hflow⟩ | ⟨_, ⟨_, _, _, hpay, _, rfl⟩ | ⟨_, _, _, _,
    hpay, _, rfl⟩⟩⟩ := hc
  · exact h.prepaid (postPrepayment_commits hpre) ho hp horder hstatus
  · have ht := h.updatePayment (fun _ => by simp) hpay
    have horders : t.orders = db.orders := by
      obtain ⟨_, _, _, rfl⟩ := commits_update.mp hpay
      rfl
    have ht' := ht.updateOrder (horders ▸ ho) (by rw [hstatus]; rfl) (by simp) hord
    exact ht'.congr (offWorkflow_coupling.ensureOutboundWorkflow _ _ _ hflow)
  · exact h.updatePayment (fun _ => by simp) hpay
  · exact h.updatePayment (fun _ => by simp) hpay

lemma selectPayment_coupled {number branchCode : String}
    {paymentMethod accessToken : Option String} (h : Coupled db)
    (hc : Commits (selectPayment cfg number paymentMethod branchCode accessToken) db u db') :
    Coupled db' := by
  simp only [selectPayment, commits_steps, commits_ite] at hc
  obtain ⟨order, hfind, _, payment, _, hpay, ⟨_, _, rfl⟩ | ⟨hstatus, hmethod⟩⟩ := hc
  · exact (firstPayment_commits hpay).2.2 ▸ h
  · obtain ⟨hp, horder, rfl⟩ := firstPayment_commits hpay
    have ho : order ∈ db.orders := List.mem_of_find?_eq_some hfind
    exact applyMethod_coupled h ho hp horder (not_not.mp hstatus) hmethod

lemma confirmPayment_coupled {id : ℕ} {dto : ConfirmOrderPayment} (h : Coupled db)
    (hc : Commits (confirmPayment scope id dto) db u db') : Coupled db' := by
  simp only [confirmPayment, commits_steps, commits_ite] at hc
  obtain ⟨order, _, hord, payment, _, hpay, hc⟩ := hc
  obtain ⟨ho, rfl⟩ := findOrder_commits hord
  obtain ⟨hp, horder, rfl⟩ := firstPayment_commits hpay
  obtain ⟨_, _, rfl⟩ | ⟨_, hstatus, _, _, _, hpre⟩ := hc
  · exact h
  · exact h.prepaid (postPrepayment_commits hpre) ho hp horder hstatus

variable {input : ProviderPayment}

lemma providerPayment_found
    (h : db.providerPayment input = some (p, o)) :
    p ∈ db.payments ∧ o ∈ db.orders ∧ p.orderId = some o.id ∧ input.isAbout db p o = true := by
  obtain ⟨x, hx, hmap⟩ := List.exists_of_findSome?_eq_some h
  obtain ⟨y, hy, heq⟩ := Option.map_eq_some_iff.mp hmap
  obtain ⟨rfl, rfl⟩ := Prod.mk.inj heq
  obtain ⟨hy, habout⟩ := Option.filter_eq_some_iff.mp hy
  obtain ⟨id, hid, hfind⟩ := Option.bind_eq_some_iff.mp hy
  obtain ⟨hmem, rfl⟩ := find?_eq_some.mp hfind
  exact ⟨hx, hmem, hid, habout⟩

lemma confirmProviderPayment_coupled {res : Payment × Order}
    (h : Coupled db) (hc : Commits (confirmProviderPayment input) db res db') : Coupled db' := by
  simp only [confirmProviderPayment, commits_steps, commits_ite] at hc
  obtain ⟨_, ⟨payment, order⟩, hfind, _, _, hc⟩ := hc
  obtain ⟨hp, ho, horder, _⟩ := providerPayment_found hfind
  obtain ⟨_, _, _, rfl⟩ | ⟨_, _, hc⟩ := hc
  · exact h
  obtain ⟨hnot, _, _, hupdate, _, rfl⟩ | ⟨_, _, _, hpaid, _, _, _, _, _, rfl⟩ := hc
  · refine h.updatePayment (fun p => ?_) hupdate
    cases hstatus : input.status with
    | paid => exact absurd hstatus hnot
    | failed => simp [CallbackStatus.payment]
    | cancelled => simp [CallbackStatus.payment]
  · simp only [acceptPaid, commits_steps] at hpaid
    obtain ⟨_, hstatus, hpre⟩ := hpaid
    exact h.prepaid (postPrepayment_commits hpre) ho hp horder hstatus

lemma authorizeInvoice_coupled {id : ℕ} (h : Coupled db)
    (hc : Commits (authorizeInvoice scope id) db u db') : Coupled db' := by
  simp only [authorizeInvoice, commits_steps, commits_ite] at hc
  obtain ⟨order, _, hord, ⟨_, _, rfl⟩ | ⟨_, hstatus, payment, _, hpay, _, _, t, hupdate, hflow⟩⟩ := hc
  · exact (findOrder_commits hord).2 ▸ h
  · obtain ⟨ho, rfl⟩ := findOrder_commits hord
    obtain ⟨_, _, rfl⟩ := firstPayment_commits hpay
    have ht := h.updateOrder ho (by rw [hstatus]; rfl) (by simp) hupdate
    exact ht.congr (offWorkflow_coupling.ensureOutboundWorkflow _ _ _ hflow)

lemma pack_coupled {id : ℕ} (h : Coupled db) (hc : Commits (pack scope id) db u db') : Coupled db' := by
  simp only [pack, commits_steps, commits_ite] at hc
  obtain ⟨order, _, hord, ⟨_, _, rfl⟩ | ⟨_, hstatus, _, _, hship, s, _, _, _, _, _, _, _, t, hready, _, t',
    hconfirm, _, _, hupdate, _, rfl⟩⟩ := hc
  · exact (findOrder_commits hord).2 ▸ h
  · obtain ⟨ho, rfl⟩ := findOrder_commits hord
    obtain rfl := findShipment_commits hship
    have hsame : t'.coupling = db.coupling :=
      (offWorkflow_coupling.confirmation.updateMany _ _ _ hconfirm).trans
        (offWorkflow_coupling.shipment.update _ _ _ hready)
    have ho' : order ∈ t'.orders := by
      rw [show t'.orders = db.orders from congrArg Prod.fst hsame]
      exact ho
    refine (h.congr hsame).updateOrder ho' ?_ (by simp) hupdate
    rcases hstatus with hstatus | hstatus <;>
    · rw [hstatus]
      rfl

lemma deliver_coupled {id : ℕ} (h : Coupled db) (hc : Commits (deliver scope id) db u db') : Coupled db' := by
  simp only [deliver, commits_steps, commits_ite] at hc
  obtain ⟨order, _, hord, ⟨_, _, rfl⟩ | ⟨_, hstatus, _, _, hship, s, _, _, t, hready, _, _, hupdate, _,
    rfl⟩⟩ := hc
  · exact (findOrder_commits hord).2 ▸ h
  · obtain ⟨ho, rfl⟩ := findOrder_commits hord
    obtain rfl := findShipment_commits hship
    have hsame : t.coupling = db.coupling := offWorkflow_coupling.shipment.update _ _ _ hready
    have ho' : order ∈ t.orders := by
      rw [show t.orders = db.orders from congrArg Prod.fst hsame]
      exact ho
    exact (h.congr hsame).updateOrder ho' (by rw [hstatus]; rfl) (by simp) hupdate

lemma forM_lines {g : ℕ × ℕ → Stock.StockTx Unit} {lines : List (ℕ × ℕ)}
    (h : Commits (lines.forM fun line => stockPart.lift (g line)) db u db') :
    ∃ stock, Commits (lines.forM g) db.stock () stock ∧ db' = { db with stock } := by
  obtain ⟨stock, hstock, rfl⟩ := (Part.commits_forM_lift (fun _ => rfl) (fun _ _ _ => rfl)).mp h
  exact ⟨stock, hstock, rfl⟩

lemma mem_lines {p : ℕ} : p ∈ order.lines.map Prod.fst ↔ p ∈ order.items.map fun i => i.productId := by
  rw [Order.lines, Stock.mem_quantitiesByProduct, map_map]
  simp only [Function.comp_def]

lemma close_orderRows (h : Coupled db) (ho : order ∈ db.orders)
    (hactive : reservationStatus order.status = .active) (status : ReservationStatus) :
    ∀ r ∈ db.reservationsOf order, (r.close (activeOn (orderSource order.id)
      (order.lines.map Prod.fst)) status).status = status := by
  intro r hr
  have hsettled := h.settled order ho
  have hon : activeOn (orderSource order.id) (order.lines.map Prod.fst) r = true := by
    have hp := mem_lines.mpr (hsettled.products r hr)
    simp [activeOn, (mem_reservationsOf.mp hr).2, hp, hsettled.status r hr, hactive]
  rw [InventoryReservation.close, if_pos hon]

lemma close_otherRow {products : List ℕ} {status : ReservationStatus}
    (hr : r.isFor (orderSource order.id) = false) :
    r.close (activeOn (orderSource order.id) products) status = r := by
  rw [InventoryReservation.close, activeOn, hr]
  rfl

lemma Coupled.closed (h : Coupled db) (status : OrderStatus)
    (hactive : reservationStatus order.status = .active)
    (hm : Moved db order status (InventoryReservation.close (activeOn (orderSource order.id)
      (order.lines.map Prod.fst)) (reservationStatus status)) db')
    (hunpaid : status = .cancelled → ∀ p ∈ db.paymentsOf order.id, p.status ≠ .paid) :
    Coupled db' :=
  h.moved hm (fun _ _ => Stock.close_isFor) (fun _ => ⟨Stock.close_productId, Stock.close_quantity⟩)
    (close_orderRows h hm.mem hactive _) (fun _ hr => close_otherRow hr) hunpaid

lemma leaves_stock {α : Type} {x : Stock.StockTx α} (hx : Leaves Stock.Db.reservations x) :
    Leaves coupling (stockPart.lift x) :=
  Part.leaves_lift (fun s t ht => by simp [coupling, stockPart, ht]) hx

lemma serial_apart : Stock.Db.inventorySerial.Apart Stock.Db.reservations := ⟨fun _ _ => rfl⟩

lemma batch_apart : Stock.Db.inventoryBatch.Apart Stock.Db.reservations := ⟨fun _ _ => rfl⟩

lemma shipItems_coupling {items : List Stock.OrderItem} {shipmentId : ℕ} :
    Leaves coupling (items.forM fun item => do
      stockPart.lift (Stock.shipOrderBatches order.stockOrder item)
      stockPart.lift (shipSerials shipmentId order.warehouseId item)) := by
  refine Leaves.forM fun item => Leaves.bind (leaves_stock ?_) fun _ => leaves_stock ?_
  · refine leaves_get.bind fun _ => Leaves.ite ?_ leaves_pure
    refine leaves_get.bind fun _ => (Leaves.allocate fun _ _ => ?_).bind fun _ => leaves_require
    exact leaves_pure.ite (batch_apart.updateOne.bind fun _ => leaves_pure)
  · refine leaves_get.bind fun _ => Leaves.ite ?_ leaves_pure
    exact leaves_require.bind fun _ => serial_apart.updateMany.bind fun _ => leaves_require

lemma checkDispatch_commits {s : Shipment} {dto : DispatchOrder}
    (h : Commits (checkDispatch scope order s dto) db u db') : db = db' := by
  refine ReadOnly.eq (Leaves.ite leaves_require (Leaves.ite ?_ leaves_require)) h
  exact leaves_orThrow.bind fun _ => leaves_get.bind fun _ => leaves_orThrow.bind fun _ =>
    leaves_require

lemma ship_coupled {id : ℕ} {dto : DispatchOrder} (h : Coupled db)
    (hc : Commits (ship scope id dto) db u db') : Coupled db' := by
  simp only [ship, commits_steps, commits_ite] at hc
  obtain ⟨order, _, hord, ⟨_, _, rfl⟩ | ⟨_, hstatus, _, _, hship, s, _, _, _, _, hcheck, payment, _, hpay, _,
    hc⟩⟩ := hc
  · exact (findOrder_commits hord).2 ▸ h
  obtain ⟨ho, rfl⟩ := findOrder_commits hord
  obtain rfl := findShipment_commits hship
  obtain rfl := checkDispatch_commits hcheck
  obtain ⟨_, _, rfl⟩ := firstPayment_commits hpay
  simp only [dispatchOrder, commits_steps, Part.commits_lift] at hc
  obtain ⟨_, _, hlines, _, t, hitems, event, _, ⟨ledger, _, rfl⟩, _, t', hready, _, _, hupdate, _, rfl⟩ := hc
  obtain ⟨stock, hstock, rfl⟩ := forM_lines hlines
  have hrows := Stock.closeProducts (by simp) (fun _ _ _ => Stock.shipOrderProduct_rows) hstock
  have hsame : t'.coupling = (db.orders, db.payments, stock.reservations) :=
    (offWorkflow_coupling.shipment.update _ _ _ hready).trans (shipItems_coupling _ _ _ hitems)
  simp only [coupling, Prod.mk.injEq] at hsame
  obtain ⟨horders, hpayments, hreservations⟩ := hsame
  obtain ⟨o, hfind, _, rfl⟩ := commits_update.mp hupdate
  change t'.orders.find? order.id = some o at hfind
  rw [horders] at hfind
  obtain rfl := mem_unique (find?_of_mem ho) hfind
  refine h.closed .shipped (by rw [hstatus]; rfl) ⟨ho, ?_, ?_, ?_⟩ (by simp)
  · refine ⟨{ order with status := .shipped, accountingEventId := some event.key }, rfl, rfl, rfl, ?_⟩
    exact congrArg (Table.put · _) horders
  · exact (congrArg Table.rows hreservations).trans hrows
  · intro p hp _
    exact .inl (hpayments ▸ hp)

lemma cancelShipment_coupling {found : Option Shipment} :
    Leaves coupling (found.elim (pure ()) (cancelShipment scope) : OrdersTx Unit) := by
  cases found with
  | none => exact leaves_pure
  | some s =>
    refine (leaves_stock serial_apart.updateMany).bind fun _ => ?_
    refine offWorkflow_coupling.shipment.update.bind fun _ => ?_
    refine offWorkflow_coupling.inspection.updateMany.bind fun _ => ?_
    exact offWorkflow_coupling.confirmation.updateMany.bind fun _ => leaves_pure

lemma cancel_coupled {id : ℕ} (h : Coupled db) (hc : Commits (cancel scope id) db u db') : Coupled db' := by
  simp only [cancel, commits_bind, commits_get, commits_require, commits_ite, commits_pure] at hc
  obtain ⟨order, _, hord, ⟨_, _, rfl⟩ | ⟨hnot, _, _, ⟨hstatus, rfl⟩, _, _, ⟨rfl, rfl⟩, _, _,
    ⟨hunpaid, rfl⟩, hc⟩⟩ := hc
  · exact (findOrder_commits hord).2 ▸ h
  obtain ⟨ho, rfl⟩ := findOrder_commits hord
  simp only [revokeOrder, commits_bind, commits_pure, commits_updateMany] at hc
  obtain ⟨_, _, hclaim, _, _, hlines, found, _, hship, _, t, hcancel, _, _, ⟨_, rfl⟩, _, rfl⟩ := hc
  obtain ⟨o, hmem, ho', rfl⟩ := updateOne_commits hclaim
  simp only [cond_iff] at ho'
  obtain rfl := eq_of_key_eq ho hmem ho'.1.symm
  obtain ⟨stock, hstock, rfl⟩ := forM_lines hlines
  obtain rfl := findShipment_commits hship
  have hsame := cancelShipment_coupling _ _ _ hcancel
  simp only [coupling, order_write, Prod.mk.injEq] at hsame
  obtain ⟨horders, hpayments, hreservations⟩ := hsame
  have hunpaid : ∀ p ∈ db.paymentsOf order.id, p.status ≠ .paid := by
    simpa using hunpaid
  refine h.closed .cancelled ?_ ⟨ho, ?_, ?_, ?_⟩ fun _ => hunpaid
  · cases hs : order.status <;> simp_all [reservationStatus]
  · exact ⟨{ order with status := .cancelled }, rfl, rfl, rfl, horders⟩
  · refine (congrArg Table.rows hreservations).trans ?_
    exact Stock.closeProducts (by simp) (fun _ _ _ => Stock.releaseOrderProduct_rows) hstock
  · intro p hp hpaid
    obtain ⟨p₀, hp₀, hput⟩ := (Table.mem_updateMany
      (g := fun p : Payment => { p with status := .cancelled }) fun _ => rfl).mp hp
    split at hput
    · subst hput
      cases hpaid
    · subst hput
      exact .inl (hpayments ▸ hp₀)

/-! ### Creation -/

lemma Coupled.not_isFor {id : ℕ} (h : Coupled db) (hfresh : db.orders.find? id = none)
    {r : InventoryReservation} (hr : r ∈ db.stock.reservations) :
    ¬ r.isFor (orderSource id) = true := by
  intro hfor
  obtain ⟨htype, hid⟩ := Stock.isFor_order_iff.mp hfor
  obtain ⟨o, ho, hoid⟩ := h.sourced r hr htype
  exact find?_eq_none.mp hfresh o ho (hoid.trans hid)

/-- A new order whose rows hold what it asks for. -/
lemma Coupled.created {added : List InventoryReservation} (h : Coupled db)
    (hfresh : db.orders.find? o.id = none) (horders : db'.orders = db.orders.put o)
    (hstatus : o.status = .pendingPayment)
    (hrows : db'.stock.reservations.rows = db.stock.reservations.rows ++ added)
    (hnew : NewRows (orderSource o.id) (o.lines.map Prod.fst) added)
    (hheld : ∀ p, heldOf added p = o.ordered p)
    (hpay : ∀ p ∈ db'.payments, p.status = .paid → p ∈ db.payments) : Coupled db' := by
  have hrowsOf (x : Order) : db'.reservationsOf x = db.reservationsOf x ++
      added.filter (InventoryReservation.isFor (orderSource x.id)) := by
    rw [OrdersDb.reservationsOf, Table.findMany, hrows, filter_append]
    rfl
  constructor
  case settled =>
    intro x hx
    rw [horders, mem_put] at hx
    rcases hx with rfl | ⟨hx, hne⟩
    · have hnone : db.reservationsOf x = [] := by
        refine List.eq_nil_iff_forall_not_mem.mpr fun r hr => ?_
        obtain ⟨hmem, hfor⟩ := mem_reservationsOf.mp hr
        exact h.not_isFor hfresh hmem hfor
      have hall : added.filter (InventoryReservation.isFor (orderSource x.id)) = added :=
        List.filter_eq_self.mpr fun r hr => (hnew r hr).1
      have hself := hrowsOf x
      rw [hnone, hall, nil_append] at hself
      constructor
      case status =>
        intro r hr
        rw [(hnew r (hself ▸ hr)).2.1, hstatus]
        rfl
      case products =>
        intro r hr
        exact mem_lines.mp (hnew r (hself ▸ hr)).2.2
      case total =>
        rw [hself]
        exact hheld
      case unpaid =>
        intro hcancelled
        rw [hstatus] at hcancelled
        cases hcancelled
    · refine (h.settled x hx).congr ?_ fun p hp hpaid hid _ => ⟨p, hpay p hp hpaid, hpaid, hid⟩
      have hnone : added.filter (InventoryReservation.isFor (orderSource x.id)) = [] := by
        refine filter_eq_nil_iff.mpr fun r hr hfor => hne ?_
        obtain ⟨_, hid⟩ := Stock.isFor_order_iff.mp hfor
        obtain ⟨_, hid'⟩ := Stock.isFor_order_iff.mp (hnew r hr).1
        exact hid.symm.trans hid'
      rw [hrowsOf x, hnone, append_nil]
  case sourced =>
    intro r hr htype
    rw [horders]
    rw [mem_rows, hrows, mem_append] at hr
    rcases hr with hr | hr
    · obtain ⟨x, hx, hid⟩ := h.sourced r hr htype
      refine ⟨x, mem_put.mpr (Or.inr ⟨hx, ?_⟩), hid⟩
      exact find?_eq_none.mp hfresh x hx
    · obtain ⟨_, hid⟩ := Stock.isFor_order_iff.mp (hnew r hr).1
      exact ⟨o, mem_put_self _ _, hid.symm⟩

lemma totalOf_lines (p : ℕ) :
    totalOf Prod.fst (fun l : ℕ × ℕ => (l.2 : ℤ)) order.lines p = order.ordered p := by
  have hcast := Stock.totalOf_quantitiesByProduct (order.items.map OrderItem.toOrderItem) p
  have hlines : totalOf Prod.fst (fun l : ℕ × ℕ => (l.2 : ℤ)) order.lines p =
      (totalOf Prod.fst Prod.snd order.lines p : ℕ) := totalOf_natCast _ _ _ _
  have hitems : order.ordered p =
      (totalOf (fun i : OrderItem => i.productId) (fun i => i.quantity) order.items p : ℕ) :=
    totalOf_natCast _ _ _ _
  rw [hlines, hitems, Order.lines, hcast, totalOf, map_map]
  rfl

lemma order_lines_nodup : (order.lines.map Prod.fst).Nodup := (Stock.quantitiesByProduct _).nodup

lemma findStoreWarehouse_readOnly {branchId : ℕ} {warehouseId : Option ℕ} :
    ReadOnly (findStoreWarehouse branchId warehouseId) :=
  leaves_get.bind fun _ => leaves_orThrow

lemma checkAvailable_readOnly {warehouseId : ℕ} {items : List PricedItem} :
    ReadOnly (items.forM (checkAvailable warehouseId)) :=
  Leaves.forM fun _ => leaves_get.bind fun _ => leaves_orThrow.bind fun _ => leaves_require

lemma placeOrder_coupled {branch : Branch} {dto : CreateOrder} {id : ℕ} (h : Coupled db)
    (hc : Commits (placeOrder branch dto) db id db') : Coupled db' := by
  simp only [placeOrder, commits_bind, commits_get, commits_require, commits_create, commits_pure] at hc
  obtain ⟨warehouse, _, hstore, _, _, hcheck, id, t, hid, _, _, ⟨rfl, rfl⟩, _, _, ⟨_, rfl⟩, _, _,
    ⟨hfresh, rfl⟩, _, _, hlines, paymentId, t', hid', _, _, ⟨rfl, rfl⟩, _, _, ⟨_, rfl⟩, _, _,
    ⟨_, rfl⟩, rfl, rfl⟩ := hc
  obtain rfl := findStoreWarehouse_readOnly.eq hstore
  obtain rfl := checkAvailable_readOnly.eq hcheck
  obtain ⟨stock, hstock, rfl⟩ := forM_lines hlines
  have hbefore : t.coupling = db.coupling := offWorkflow_coupling.freshId _ _ _ hid
  have hafter := offWorkflow_coupling.freshId _ _ _ hid'
  simp only [coupling, order_write, Prod.mk.injEq] at hbefore hafter
  obtain ⟨horders, hpayments, hreservations⟩ := hbefore
  obtain ⟨horders', hpayments', hreservations'⟩ := hafter
  set o := dto.row id branch.id warehouse.id with hrow
  have hfresh : db.orders.find? o.id = none := horders ▸ hfresh
  obtain ⟨added, hrows, hnew, hsum⟩ := Stock.reserveOrderProducts_rows order_lines_nodup
    (fun r hr hfor => absurd hfor (h.not_isFor hfresh (hreservations ▸ hr))) hstock
  refine h.created (o := o) hfresh ?_ rfl ?_ hnew ?_ ?_
  · exact horders'.trans (congrArg (Table.put · o) horders)
  · refine (congrArg Table.rows hreservations').trans (hrows.trans ?_)
    exact congrArg (Table.rows · ++ added) hreservations
  · intro p
    rw [hsum, totalOf_lines]
  · intro p hp hpaid
    rcases mem_put.mp hp with rfl | ⟨hp, _⟩
    · cases hpaid
    · have hmem : p ∈ t'.payments := hp
      rwa [hpayments', hpayments] at hmem

lemma leaves_receipt {α : Type} {x : IdempotencyTx α} : Leaves coupling (receiptPart.lift x) :=
  Part.Apart.lift ⟨fun _ _ => rfl⟩

lemma create_coupled {dto : CreateOrder} {id : Option ℕ} (h : Coupled db)
    (hc : Commits (create dto) db id db') : Coupled db' := by
  simp only [create, commits_steps] at hc
  obtain ⟨_, branch, _, hc⟩ := hc
  split at hc
  · obtain ⟨_, hplace, _⟩ := commits_bind_pure.mp hc
    exact placeOrder_coupled h hplace
  · obtain ⟨gate, t, hgate, hc⟩ := commits_bind.mp hc
    have ht := h.congr (leaves_receipt _ _ _ hgate)
    split at hc
    · obtain ⟨_, rfl⟩ := commits_pure.mp hc
      exact ht
    · obtain ⟨_, t', hplace, hc⟩ := commits_bind.mp hc
      obtain ⟨_, hcomplete, _⟩ := commits_bind_pure.mp hc
      exact (placeOrder_coupled ht hplace).congr (leaves_receipt _ _ _ hcomplete)

/-! ### Histories -/

inductive OrderCall
  | create (dto : CreateOrder)
  | selectPayment (number : String) (paymentMethod : Option String) (branchCode : String)
      (accessToken : Option String)
  | confirmPayment (scope : TenantScope) (id : ℕ) (dto : ConfirmOrderPayment)
  | confirmProviderPayment (input : ProviderPayment)
  | authorizeInvoice (scope : TenantScope) (id : ℕ)
  | pack (scope : TenantScope) (id : ℕ)
  | ship (scope : TenantScope) (id : ℕ) (dto : DispatchOrder)
  | deliver (scope : TenantScope) (id : ℕ)
  | cancel (scope : TenantScope) (id : ℕ)

/-- The transaction of a call, without what it returns. -/
def OrderCall.tx (cfg : OrdersConfig) : OrderCall → OrdersTx Unit
  | create dto => do
    let _ ← Orders.create dto
  | selectPayment number paymentMethod branchCode accessToken =>
    Orders.selectPayment cfg number paymentMethod branchCode accessToken
  | confirmPayment scope id dto => Orders.confirmPayment scope id dto
  | confirmProviderPayment input => do
    let _ ← Orders.confirmProviderPayment input
  | authorizeInvoice scope id => Orders.authorizeInvoice scope id
  | pack scope id => Orders.pack scope id
  | ship scope id dto => Orders.ship scope id dto
  | deliver scope id => Orders.deliver scope id
  | cancel scope id => Orders.cancel scope id

inductive OrderStep (cfg : OrdersConfig) (db : OrdersDb) : Option OrderCall → OrdersDb → Prop
  | call {c : OrderCall} {db' : OrdersDb} (h : Commits (c.tx cfg) db () db') :
      OrderStep cfg db (some c) db'
  | elsewhere {db' : OrdersDb} (h : db'.coupling = db.coupling) : OrderStep cfg db none db'

lemma coupled_step {c : Option OrderCall} (h : Coupled db) (hs : OrderStep cfg db c db') : Coupled db' := by
  cases hs with
  | elsewhere heq => exact h.congr heq
  | @call c _ hc =>
    cases c with
    | create dto =>
      obtain ⟨_, hcreate, _⟩ := commits_bind_pure.mp hc
      exact create_coupled h hcreate
    | selectPayment number paymentMethod branchCode accessToken => exact selectPayment_coupled h hc
    | confirmPayment scope id dto => exact confirmPayment_coupled h hc
    | confirmProviderPayment input =>
      obtain ⟨_, hconfirm, _⟩ := commits_bind_pure.mp hc
      exact confirmProviderPayment_coupled h hconfirm
    | authorizeInvoice scope id => exact authorizeInvoice_coupled h hc
    | pack scope id => exact pack_coupled h hc
    | ship scope id dto => exact ship_coupled h hc
    | deliver scope id => exact deliver_coupled h hc
    | cancel scope id => exact cancel_coupled h hc

/-- A shop before its first order. -/
structure NoOrders (db : OrdersDb) : Prop where
  orders : db.orders = .empty
  reservations : ∀ r ∈ db.stock.reservations, r.sourceType ≠ "Order"

lemma NoOrders.coupled (h : NoOrders db) : Coupled db := by
  constructor
  case settled =>
    intro o ho
    rw [h.orders] at ho
    cases ho
  case sourced =>
    intro r hr htype
    exact absurd htype (h.reservations r hr)

/-- In every history that starts before the first order, reservations and payments of every order agree
with its status. -/
theorem orders_coupled {cfg : OrdersConfig} {db₀ : OrdersDb} {calls : List (Option OrderCall)}
    (h₀ : NoOrders db₀) (h : Run (OrderStep cfg) db₀ calls db) :
    ∀ o ∈ db.orders, OrderCoupled db o := by
  have hcoupled := h.invariant (fun _ _ _ hs hstep => coupled_step hs hstep) h₀.coupled
  intro o ho
  exact (hcoupled.settled o ho).coupled

def newShop : OrdersDb :=
  { OrdersDb.empty with
    stock := { Stock.Db.empty with
      products := Table.empty.put { id := 7, name := "Beras" }
      inventory := Table.empty.put
        { warehouseId := 1, productId := 7, quantity := 10, available := 10 } }
    branches := Table.empty.put { id := 1, companyId := 1, code := "PUSAT" }
    warehouses := Table.empty.put { id := 1, branchId := 1 } }

def localConfig : OrdersConfig where
  allowMock := false
  accessToken := fun _ number _ => number

def orderAndCancel : List OrderCall :=
  [.create { branchCode := "PUSAT", number := "ORD-1", paymentNumber := "PAY-1",
             items := [⟨⟨⟨7, 2⟩, 0, 0, 0, 0, none⟩, ""⟩, ⟨⟨⟨7, 1⟩, 0, 0, 0, 0, none⟩, ""⟩] },
    .selectPayment "ORD-1" (some "COD") "PUSAT" (some "ORD-1"), .cancel ⟨1, 1⟩ 0]

lemma newShop_noOrders : NoOrders newShop := by
  constructor
  case orders => rfl
  case reservations =>
    intro r hr
    cases hr

lemma orderRun_of_execute {calls : List OrderCall}
    (h : (execute (calls.forM (OrderCall.tx cfg)) db).1 = .ok ()) :
    Run (OrderStep cfg) db (calls.map some) (execute (calls.forM (OrderCall.tx cfg)) db).2 :=
  (commits_forM_iff_run.mp (commits_of_execute h)).map fun _ _ _ hs => OrderStep.call hs

theorem orders_coupled_cancelled : ∃ db, Run (OrderStep localConfig) newShop (orderAndCancel.map some) db ∧
      db.orders.rows.map Order.status = [.cancelled] ∧
      db.stock.reservations.rows.map InventoryReservation.quantity = [3] ∧
      ∀ o ∈ db.orders, OrderCoupled db o := by
  have hrun := @orderRun_of_execute newShop localConfig orderAndCancel (by decide +kernel)
  exact ⟨_, hrun, by decide +kernel, by decide +kernel, orders_coupled newShop_noOrders hrun⟩

end Mayatoko.Orders
