import Mayatoko.Accounting.PostedOnce
import Mayatoko.Orders.Coupling

/-!
# Prepaid orders

A payment that a provider confirmed stays `PAID`, and its prepayment stays posted once, whatever the
orders service does afterwards: no transaction writes a `PAID` payment of an order that does not wait for
its payment any more, and no order returns to waiting.
-/

namespace Mayatoko.Orders

open Core TableOf Accounting OrdersDb
open Stock (OrderStatus)
open Transit (TenantScope)

variable {db db' db'' : OrdersDb} {u : Unit} {scope : TenantScope} {order : Order} {payment : Payment}

def prepaymentKey (companyId orderId : ℕ) : ℕ × String := (companyId, s!"order-prepayment:{orderId}")

structure PrepaidBy (db : OrdersDb) (o : Order) (p : Payment) : Prop where
  mem : o ∈ db.orders
  owns : p.orderId = some o.id
  decided : o.status ≠ .pendingPayment
  posted : ∃ companyId, p.accountingEventId = some (prepaymentKey companyId o.id) ∧
    PostedOnce db.ledger (prepaymentKey companyId o.id)

/-- Every electronic payment of an order that is `PAID` was prepaid, and no prepayment was posted
twice. -/
structure PrepaymentsRight (db : OrdersDb) : Prop where
  posted : ∀ companyId orderId, NeverTwice db.ledger (prepaymentKey companyId orderId)
  paid : ∀ p ∈ db.payments, p.status = .paid → p.orderId.isSome → isElectronic p.method.toUpper = true →
    ∃ o, PrepaidBy db o p

structure KeepsPrepaid (db db' : OrdersDb) : Prop where
  ledger : ∀ companyId orderId, PostsOnce db.ledger db'.ledger (prepaymentKey companyId orderId)
  orders : ∀ o ∈ db.orders, ∃ o' ∈ db'.orders, o'.id = o.id ∧ o'.number = o.number ∧
    (o.status ≠ .pendingPayment → o'.status ≠ .pendingPayment)
  paid : ∀ p ∈ db.payments, p.status = .paid → ∀ o ∈ db.orders, p.orderId = some o.id →
    o.status ≠ .pendingPayment → p ∈ db'.payments
  payments : PrepaymentsRight db → ∀ p ∈ db'.payments, p.status = .paid → p.orderId.isSome →
    isElectronic p.method.toUpper = true → p ∈ db.payments ∨ ∃ o, PrepaidBy db' o p

/-! ### Steps that keep what has been prepaid -/

def OrdersDb.prepayments (db : OrdersDb) : AccountingDb × Table Order.id × Table Payment.id :=
  (db.ledger, db.orders, db.payments)

variable {p : Payment}

lemma PrepaidBy.step {o : Order} (h : PrepaidBy db o p) (hstep : KeepsPrepaid db db') :
    ∃ o', o'.id = o.id ∧ o'.number = o.number ∧ PrepaidBy db' o' p := by
  obtain ⟨o', hmem, hid, hnumber, hover⟩ := hstep.orders o h.mem
  obtain ⟨companyId, hevent, hposted⟩ := h.posted
  refine ⟨o', hid, hnumber, hmem, hid ▸ h.owns, hover h.decided, companyId, ?_, ?_⟩
  · rw [hid]
    exact hevent
  · rw [hid]
    exact hposted.step (hstep.ledger companyId o.id)

lemma PrepaymentsRight.step (h : PrepaymentsRight db) (hstep : KeepsPrepaid db db') : PrepaymentsRight db' := by
  constructor
  case posted => exact fun companyId orderId => (h.posted companyId orderId).step (hstep.ledger _ _)
  case paid =>
    intro p hp hpaid howner helectronic
    rcases hstep.payments h p hp hpaid howner helectronic with hp | hprepaid
    · obtain ⟨o, ho⟩ := h.paid p hp hpaid howner helectronic
      obtain ⟨o', _, _, ho'⟩ := ho.step hstep
      exact ⟨o', ho'⟩
    · exact hprepaid

namespace KeepsPrepaid

lemma of_eq (h : db'.prepayments = db.prepayments) : KeepsPrepaid db db' := by
  obtain ⟨hledger, hrest⟩ := Prod.mk.inj h
  obtain ⟨horders, hpayments⟩ := Prod.mk.inj hrest
  constructor
  case ledger =>
    intro companyId orderId
    rw [hledger]
    exact .inl rfl
  case orders =>
    intro o ho
    exact ⟨o, horders ▸ ho, rfl, rfl, fun hstatus => hstatus⟩
  case paid =>
    intro p hp _ _ _ _ _
    exact hpayments ▸ hp
  case payments =>
    intro _ p hp _ _ _
    exact .inl (hpayments ▸ hp)

lemma refl (db : OrdersDb) : KeepsPrepaid db db := of_eq rfl

lemma trans (h : KeepsPrepaid db db') (h' : KeepsPrepaid db' db'') : KeepsPrepaid db db'' := by
  constructor
  case ledger =>
    exact fun companyId orderId => (h.ledger companyId orderId).trans (h'.ledger companyId orderId)
  case orders =>
    intro o ho
    obtain ⟨o', ho', hid, hnumber, hover⟩ := h.orders o ho
    obtain ⟨o'', ho'', hid', hnumber', hover'⟩ := h'.orders o' ho'
    exact ⟨o'', ho'', hid'.trans hid, hnumber'.trans hnumber, fun hstatus => hover' (hover hstatus)⟩
  case paid =>
    intro p hp hpaid o ho howns hover
    obtain ⟨o', ho', hid, _, hover'⟩ := h.orders o ho
    exact h'.paid p (h.paid p hp hpaid o ho howns hover) hpaid o' ho' (hid ▸ howns) (hover' hover)
  case payments =>
    intro hright p hp hpaid howner helectronic
    rcases h'.payments (hright.step h) p hp hpaid howner helectronic with hp | hprepaid
    · rcases h.payments hright p hp hpaid howner helectronic with hp | ⟨o, ho⟩
      · exact .inl hp
      · obtain ⟨o', _, _, ho'⟩ := ho.step h'
        exact .inr ⟨o', ho'⟩
    · exact .inr hprepaid

lemma putPayment {p p' : Payment} (hp : p ∈ db.payments) (hid : p'.id = p.id)
    (hunpaid : p'.status ≠ .paid) (hfree : p.status = .paid → ∀ o ∈ db.orders, p.orderId = some o.id →
      o.status = .pendingPayment) :
    KeepsPrepaid db { db with payments := db.payments.put p' } := by
  constructor
  case ledger => exact fun _ _ => .inl rfl
  case orders => exact fun o ho => ⟨o, ho, rfl, rfl, fun hstatus => hstatus⟩
  case paid =>
    intro x hx hpaid o ho howns hover
    refine mem_put.mpr (Or.inr ⟨hx, fun hkey => ?_⟩)
    obtain rfl := eq_of_key_eq hx hp (hkey.trans hid)
    exact hover (hfree hpaid o ho howns)
  case payments =>
    intro _ x hx hpaid _ _
    rcases mem_put.mp hx with rfl | ⟨hx, _⟩
    · exact absurd hpaid hunpaid
    · exact .inl hx

lemma putOrder {o o' : Order} (ho : o ∈ db.orders) (hid : o'.id = o.id) (hnumber : o'.number = o.number)
    (hover : o'.status ≠ .pendingPayment) :
    KeepsPrepaid db { db with orders := db.orders.put o' } := by
  constructor
  case ledger => exact fun _ _ => .inl rfl
  case orders =>
    intro x hx
    by_cases hkey : x.id = o'.id
    · obtain rfl := eq_of_key_eq hx ho (hkey.trans hid)
      exact ⟨o', mem_put_self _ _, hid, hnumber, fun _ => hover⟩
    · exact ⟨x, mem_put.mpr (Or.inr ⟨hx, hkey⟩), rfl, rfl, fun hstatus => hstatus⟩
  case paid => exact fun p hp _ _ _ _ _ => hp
  case payments => exact fun _ p hp _ _ _ => .inl hp

lemma updateOrder {k : ℕ} {g : Order → Order} {e : Failure} {o : Order}
    (h : Commits (OrdersDb.order.update k g e) db o db') (hid : ∀ o, (g o).id = o.id)
    (hnumber : ∀ o, (g o).number = o.number) (hover : ∀ o, (g o).status ≠ .pendingPayment) :
    KeepsPrepaid db db' := by
  obtain ⟨o₀, hfind, _, rfl⟩ := commits_update.mp h
  exact putOrder (find?_eq_some.mp hfind).1 (hid o₀) (hnumber o₀) (hover o₀)

end KeepsPrepaid

/-! ### The transactions keep what has been prepaid -/

lemma ensurePrepayment_commits {input : PostOperationalEventInput} {ledger ledger' : AccountingDb}
    {event : AccountingEvent} (h : Commits (ensurePrepayment input) ledger event ledger') :
    (∀ key, PostsOnce ledger ledger' key) ∧ ledger'.events.find? input.key = some event := by
  simp only [ensurePrepayment, commits_steps] at h
  obtain h := h
  cases hfind : ledger.events.find? input.key with
  | some existing =>
    rw [hfind] at h
    obtain ⟨rfl, rfl⟩ := commits_pure.mp h
    exact ⟨fun _ => .inl rfl, hfind⟩
  | none =>
    rw [hfind] at h
    exact ⟨fun _ => postOperationalEvent_postsOnce h, postOperationalEvent_find h⟩

variable {method : String} {provider externalRef : Option String}

lemma Prepaid.prepaidBy
    (h : Prepaid order payment method provider externalRef db db') (ho : order ∈ db.orders)
    (hp : payment ∈ db.payments) (howns : payment.orderId = some order.id) :
    ∃ event, db'.payments = db.payments.put
        { payment with method, provider, externalRef, status := .paid, paidAt := some db.now,
                       accountingEventId := event } ∧
      (PrepaymentsRight db → PrepaidBy db' { order with status := .paid }
        { payment with method, provider, externalRef, status := .paid, paidAt := some db.now,
                       accountingEventId := event }) := by
  obtain ⟨branch, event, _, hpost, p, hfind, hpayments⟩ := h.posted
  obtain ⟨o, hfindOrder, horders⟩ := h.orders
  obtain rfl := mem_unique (find?_of_mem hp) hfind
  obtain rfl := mem_unique (find?_of_mem ho) hfindOrder
  obtain ⟨hsteps, hevent⟩ := ensurePrepayment_commits hpost
  have hkey : event.key = prepaymentKey branch.companyId order.id := (find?_eq_some.mp hevent).2
  refine ⟨some event.key, hpayments, fun hright => ?_⟩
  constructor
  case mem => exact horders ▸ mem_put_self _ _
  case owns => exact howns
  case decided => simp
  case posted =>
    refine ⟨branch.companyId, congrArg some hkey, ?_⟩
    exact ((hright.posted branch.companyId order.id).step (hsteps _)).posted hevent

lemma Prepaid.keeps
    (h : Prepaid order payment method provider externalRef db db') (ho : order ∈ db.orders)
    (hp : payment ∈ db.payments) (howns : payment.orderId = some order.id)
    (hstatus : order.status = .pendingPayment) : KeepsPrepaid db db' := by
  obtain ⟨_, hpayments, hprepaid⟩ := h.prepaidBy ho hp howns
  obtain ⟨_, _, _, hpost, _⟩ := h.posted
  obtain ⟨o, hfindOrder, horders⟩ := h.orders
  obtain rfl := mem_unique (find?_of_mem ho) hfindOrder
  have hput := @KeepsPrepaid.putOrder db order { order with status := .paid } ho rfl rfl (by simp)
  constructor
  case ledger => exact fun _ _ => (ensurePrepayment_commits hpost).1 _
  case orders =>
    rw [horders]
    exact hput.orders
  case paid =>
    intro x hx _ o₁ ho₁ hx₁ hover
    rw [hpayments]
    refine mem_put.mpr (Or.inr ⟨hx, fun hkey => hover ?_⟩)
    obtain rfl := eq_of_key_eq hx hp hkey
    obtain rfl := eq_of_key_eq ho₁ ho (mem_unique hx₁ howns)
    exact hstatus
  case payments =>
    intro hright x hx _ _ _
    rw [hpayments] at hx
    rcases mem_put.mp hx with rfl | ⟨hx, _⟩
    · exact .inr ⟨_, hprepaid hright⟩
    · exact .inl hx

lemma offWorkflow_prepayments : OffWorkflow prepayments := ⟨fun _ _ _ _ _ => rfl⟩

lemma KeepsPrepaid.updatePayment {g : Payment → Payment} {e : Failure}
    (h : Commits (OrdersDb.payment.update payment.id g e) db p db') (ho : order ∈ db.orders)
    (hp : payment ∈ db.payments) (howns : payment.orderId = some order.id)
    (hfree : payment.status = .paid → order.status = .pendingPayment) (hid : ∀ p, (g p).id = p.id)
    (hunpaid : (g payment).status ≠ .paid) : KeepsPrepaid db db' := by
  obtain ⟨p₀, hfind, _, rfl⟩ := commits_update.mp h
  obtain rfl := mem_unique (find?_of_mem hp) hfind
  refine KeepsPrepaid.putPayment hp (hid _) hunpaid fun hpaid o₁ ho₁ howns₁ => ?_
  obtain rfl := eq_of_key_eq ho₁ ho (mem_unique howns₁ howns)
  exact hfree hpaid

variable {cfg : OrdersConfig}

lemma applyMethod_keeps (ho : order ∈ db.orders)
    (hp : payment ∈ db.payments) (howns : payment.orderId = some order.id)
    (hstatus : order.status = .pendingPayment)
    (hc : Commits (applyMethod cfg order payment method) db u db') : KeepsPrepaid db db' := by
  simp only [applyMethod, commits_ite, commits_steps, commits_throw, and_false, or_false] at hc
  obtain ⟨_, _, hpre⟩ | ⟨_, ⟨_, _, t, hpay, _, t', hord, hflow⟩ | ⟨_, ⟨_, _, _, hpay, _, rfl⟩ | ⟨_, _, _, _,
    hpay, _, rfl⟩⟩⟩ := hc
  · exact (postPrepayment_commits hpre).keeps ho hp howns hstatus
  · have ht := KeepsPrepaid.updatePayment hpay ho hp howns (fun _ => hstatus) (fun _ => rfl) (by simp)
    have ht' := KeepsPrepaid.updateOrder hord (fun _ => rfl) (fun _ => rfl) (fun _ => by simp)
    have hflow := offWorkflow_prepayments.ensureOutboundWorkflow _ _ _ hflow
    exact (ht.trans ht').trans (.of_eq hflow)
  · exact .updatePayment hpay ho hp howns (fun _ => hstatus) (fun _ => rfl) (by simp)
  · exact .updatePayment hpay ho hp howns (fun _ => hstatus) (fun _ => rfl) (by simp)

lemma selectPayment_keeps {number branchCode : String} {paymentMethod accessToken : Option String}
    (hc : Commits (selectPayment cfg number paymentMethod branchCode accessToken) db u db') :
    KeepsPrepaid db db' := by
  simp only [selectPayment, commits_steps, commits_ite] at hc
  obtain ⟨order, hfind, _, payment, _, hpay, ⟨_, _, rfl⟩ | ⟨hstatus, hmethod⟩⟩ := hc
  · exact (firstPayment_commits hpay).2.2 ▸ .refl _
  · obtain ⟨hp, howns, rfl⟩ := firstPayment_commits hpay
    exact applyMethod_keeps (List.mem_of_find?_eq_some hfind) hp howns (not_not.mp hstatus) hmethod

variable {id : ℕ}

lemma confirmPayment_keeps {dto : ConfirmOrderPayment}
    (hc : Commits (confirmPayment scope id dto) db u db') : KeepsPrepaid db db' := by
  simp only [confirmPayment, commits_steps, commits_ite] at hc
  obtain ⟨order, _, hord, payment, _, hpay, hc⟩ := hc
  obtain ⟨ho, rfl⟩ := findOrder_commits hord
  obtain ⟨hp, howns, rfl⟩ := firstPayment_commits hpay
  obtain ⟨_, _, rfl⟩ | ⟨_, hstatus, _, _, _, hpre⟩ := hc
  · exact .refl _
  · exact (postPrepayment_commits hpre).keeps ho hp howns hstatus

structure ConfirmedFor (input : ProviderPayment) (p : Payment) (o : Order) : Prop where
  paymentNumber : ∀ n, input.paymentNumber = some n → n ≠ "" → p.number = n
  orderNumber : ∀ n, input.orderNumber = some n → n ≠ "" → o.number = n
  amount : p.amount = input.amount
  status : p.status = .paid
  externalRef : p.externalRef = some input.externalRef

variable {input : ProviderPayment}

lemma acceptPaid_commits (h : Commits (acceptPaid input payment order) db u db') :
    order.status = .pendingPayment ∧ Prepaid order payment payment.method.toUpper
      (some input.provider) (some input.externalRef) db db' := by
  simp only [acceptPaid, commits_steps] at h
  obtain ⟨_, hstatus, hpre⟩ := h
  exact ⟨hstatus, postPrepayment_commits hpre⟩

variable {res : Payment × Order}

lemma confirmProviderPayment_keeps
    (hc : Commits (confirmProviderPayment input) db res db') : KeepsPrepaid db db' := by
  simp only [confirmProviderPayment, commits_steps, commits_ite] at hc
  obtain ⟨_, ⟨payment, order⟩, hfind, _, _, hc⟩ := hc
  obtain ⟨hp, ho, howns, _⟩ := providerPayment_found hfind
  obtain ⟨_, _, _, rfl⟩ | ⟨hunpaid, _, hc⟩ := hc
  · exact .refl _
  obtain ⟨hnot, _, _, hupdate, _, rfl⟩ | ⟨_, _, _, hpaid, _, _, _, _, _, rfl⟩ := hc
  · refine .updatePayment hupdate ho hp howns (fun hpaid => absurd hpaid hunpaid) (fun _ => rfl) ?_
    cases hstatus : input.status with
    | paid => exact absurd hstatus hnot
    | failed => simp [CallbackStatus.payment]
    | cancelled => simp [CallbackStatus.payment]
  · obtain ⟨hstatus, hpre⟩ := acceptPaid_commits hpaid
    exact hpre.keeps ho hp howns hstatus

/-- A callback that a payment was made leaves it `PAID` and prepaid. -/
lemma confirmProviderPayment_paid
    (hright : PrepaymentsRight db) (hstatus : input.status = .paid)
    (hc : Commits (confirmProviderPayment input) db res db') :
    ∃ p ∈ db'.payments, ∃ o, ConfirmedFor input p o ∧ PrepaidBy db' o p := by
  simp only [confirmProviderPayment, commits_steps, commits_ite] at hc
  obtain ⟨_, ⟨payment, order⟩, hfind, helectronic, hamount, hc⟩ := hc
  obtain ⟨hp, ho, howns, habout⟩ := providerPayment_found hfind
  simp only [ProviderPayment.isAbout, cond_iff, Option.all_eq_true, Option.filter_eq_some_iff] at habout
  obtain ⟨⟨⟨hnumber, horderNumber⟩, _⟩, _⟩ := habout
  obtain ⟨hpaid, hsame, _, rfl⟩ | ⟨_, _, hc⟩ := hc
  · obtain ⟨_, href, _⟩ := hsame
    have howner : payment.orderId.isSome := howns ▸ rfl
    obtain ⟨o, hprepaid⟩ := hright.paid payment hp hpaid howner helectronic
    obtain rfl := eq_of_key_eq hprepaid.mem ho (mem_unique hprepaid.owns howns)
    exact ⟨payment, hp, o, ⟨fun n hn hne => hnumber n ⟨hn, by simpa using hne⟩,
      fun n hn hne => horderNumber n ⟨hn, by simpa using hne⟩, hamount, hpaid, href⟩, hprepaid⟩
  · obtain ⟨hnot, _⟩ | ⟨_, _, _, hpaid, _, _, _, _, _, rfl⟩ := hc
    · exact absurd hstatus hnot
    obtain ⟨_, hpre⟩ := acceptPaid_commits hpaid
    obtain ⟨event, hpayments, hprepaid⟩ := hpre.prepaidBy ho hp howns
    refine ⟨_, hpayments ▸ mem_put_self _ _, _, ?_, hprepaid hright⟩
    exact ⟨fun n hn hne => hnumber n ⟨hn, by simpa using hne⟩,
      fun n hn hne => horderNumber n ⟨hn, by simpa using hne⟩, hamount, rfl, rfl⟩

lemma authorizeInvoice_keeps (hc : Commits (authorizeInvoice scope id) db u db') : KeepsPrepaid db db' := by
  simp only [authorizeInvoice, commits_steps, commits_ite] at hc
  obtain ⟨order, _, hord, ⟨_, _, rfl⟩ | ⟨_, hstatus, payment, _, hpay, _, _, t, hupdate, hflow⟩⟩ := hc
  · exact (findOrder_commits hord).2 ▸ .refl _
  · obtain ⟨ho, rfl⟩ := findOrder_commits hord
    obtain ⟨_, _, rfl⟩ := firstPayment_commits hpay
    have ht := KeepsPrepaid.updateOrder hupdate (fun _ => rfl) (fun _ => rfl) (fun _ => by simp)
    exact ht.trans (.of_eq (offWorkflow_prepayments.ensureOutboundWorkflow _ _ _ hflow))

lemma pack_keeps (hc : Commits (pack scope id) db u db') : KeepsPrepaid db db' := by
  simp only [pack, commits_steps, commits_ite] at hc
  obtain ⟨order, _, hord, ⟨_, _, rfl⟩ | ⟨_, hstatus, _, _, hship, s, _, _, _, _, _, _, _, t, hready, _, t',
    hconfirm, _, _, hupdate, _, rfl⟩⟩ := hc
  · exact (findOrder_commits hord).2 ▸ .refl _
  · obtain ⟨_, rfl⟩ := findOrder_commits hord
    obtain rfl := findShipment_commits hship
    have hsame : t'.prepayments = db.prepayments :=
      (offWorkflow_prepayments.confirmation.updateMany _ _ _ hconfirm).trans
        (offWorkflow_prepayments.shipment.update _ _ _ hready)
    exact (KeepsPrepaid.of_eq hsame).trans
      (.updateOrder hupdate (fun _ => rfl) (fun _ => rfl) (fun _ => by simp))

lemma deliver_keeps (hc : Commits (deliver scope id) db u db') : KeepsPrepaid db db' := by
  simp only [deliver, commits_steps, commits_ite] at hc
  obtain ⟨order, _, hord, ⟨_, _, rfl⟩ | ⟨_, hstatus, _, _, hship, s, _, _, t, hready, _, _, hupdate, _,
    rfl⟩⟩ := hc
  · exact (findOrder_commits hord).2 ▸ .refl _
  · obtain ⟨_, rfl⟩ := findOrder_commits hord
    obtain rfl := findShipment_commits hship
    have hsame := offWorkflow_prepayments.shipment.update _ _ _ hready
    exact (KeepsPrepaid.of_eq hsame).trans
      (.updateOrder hupdate (fun _ => rfl) (fun _ => rfl) (fun _ => by simp))

lemma stock_apart : stockPart.Apart prepayments := ⟨fun _ _ => rfl⟩

lemma shipItems_prepayments {items : List Stock.OrderItem} {shipmentId : ℕ} :
    Leaves prepayments (items.forM fun item => do
      stockPart.lift (Stock.shipOrderBatches order.stockOrder item)
      stockPart.lift (shipSerials shipmentId order.warehouseId item)) :=
  Leaves.forM fun _ => stock_apart.lift.bind fun _ => stock_apart.lift

lemma ship_keeps {dto : DispatchOrder} (hc : Commits (ship scope id dto) db u db') : KeepsPrepaid db db' := by
  simp only [ship, commits_steps, commits_ite] at hc
  obtain ⟨order, _, hord, ⟨_, _, rfl⟩ | ⟨_, hstatus, _, _, hship, s, _, _, _, _, hcheck, payment, _, hpay, _,
    hc⟩⟩ := hc
  · exact (findOrder_commits hord).2 ▸ .refl _
  obtain ⟨_, rfl⟩ := findOrder_commits hord
  obtain rfl := findShipment_commits hship
  obtain rfl := checkDispatch_commits hcheck
  obtain ⟨_, _, rfl⟩ := firstPayment_commits hpay
  simp only [dispatchOrder, commits_steps, Part.commits_lift] at hc
  obtain ⟨_, t₁, hlines, _, t₂, hitems, event, _, ⟨ledger, hpost, rfl⟩, _, t₃, hready, _, _, hupdate, _,
    rfl⟩ := hc
  have hlines : t₁.prepayments = db.prepayments :=
    Leaves.forM (f := prepayments) (fun _ => stock_apart.lift) _ _ _ hlines
  have hitems := (shipItems_prepayments _ _ _ hitems).trans hlines
  have hposts : KeepsPrepaid t₂ { t₂ with ledger } := by
    constructor
    case ledger => exact fun _ _ => postOperationalEvent_postsOnce hpost
    case orders => exact fun o ho => ⟨o, ho, rfl, rfl, fun hstatus => hstatus⟩
    case paid => exact fun p hp _ _ _ _ _ => hp
    case payments => exact fun _ p hp _ _ _ => .inl hp
  have hready := offWorkflow_prepayments.shipment.update _ _ _ hready
  exact (KeepsPrepaid.of_eq hitems).trans (hposts.trans ((KeepsPrepaid.of_eq hready).trans
    (.updateOrder hupdate (fun _ => rfl) (fun _ => rfl) (fun _ => by simp))))

lemma cancelShipment_prepayments {found : Option Shipment} :
    Leaves prepayments (found.elim (pure ()) (cancelShipment scope) : OrdersTx Unit) := by
  cases found with
  | none => exact leaves_pure
  | some s =>
    refine stock_apart.lift.bind fun _ => ?_
    refine offWorkflow_prepayments.shipment.update.bind fun _ => ?_
    refine offWorkflow_prepayments.inspection.updateMany.bind fun _ => ?_
    exact offWorkflow_prepayments.confirmation.updateMany.bind fun _ => leaves_pure

lemma KeepsPrepaid.cancelPayments : KeepsPrepaid db { db with
    payments := (db.payments.updateMany (fun p => p.orderId = some id && p.status = .pending)
      (fun p => { p with status := .cancelled }) fun _ => rfl).1 } := by
  constructor
  case ledger => exact fun _ _ => .inl rfl
  case orders => exact fun o ho => ⟨o, ho, rfl, rfl, fun hstatus => hstatus⟩
  case paid =>
    intro p hp hpaid _ _ _ _
    refine (Table.mem_updateMany (g := fun p : Payment => { p with status := .cancelled })
      fun _ => rfl).mpr ⟨p, hp, ?_⟩
    rw [if_neg]
    simp [hpaid]
  case payments =>
    intro _ p hp hpaid _ _
    obtain ⟨p₀, hp₀, hput⟩ := (Table.mem_updateMany
      (g := fun p : Payment => { p with status := .cancelled }) fun _ => rfl).mp hp
    split at hput
    · subst hput
      cases hpaid
    · subst hput
      exact .inl hp₀

lemma cancel_keeps (hc : Commits (cancel scope id) db u db') : KeepsPrepaid db db' := by
  simp only [cancel, commits_bind, commits_get, commits_require, commits_ite, commits_pure] at hc
  obtain ⟨order, _, hord, ⟨_, _, rfl⟩ | ⟨hnot, _, _, ⟨hstatus, rfl⟩, _, _, ⟨rfl, rfl⟩, _, _,
    ⟨hunpaid, rfl⟩, hc⟩⟩ := hc
  · exact (findOrder_commits hord).2 ▸ .refl _
  obtain ⟨ho, rfl⟩ := findOrder_commits hord
  simp only [revokeOrder, commits_bind, commits_pure, commits_updateMany] at hc
  obtain ⟨_, _, hclaim, _, t₁, hlines, found, _, hship, _, t₂, hcancel, _, _, ⟨_, rfl⟩, _, rfl⟩ := hc
  obtain ⟨o, hmem, ho', rfl⟩ := updateOne_commits hclaim
  have hput := @KeepsPrepaid.putOrder _ o { o with status := .cancelled } hmem rfl rfl (by simp)
  have hlines := Leaves.forM (f := prepayments) (fun _ => stock_apart.lift) _ _ _ hlines
  obtain rfl := findShipment_commits hship
  have hcancel := (cancelShipment_prepayments _ _ _ hcancel).trans hlines
  exact hput.trans ((KeepsPrepaid.of_eq hcancel).trans .cancelPayments)

lemma KeepsPrepaid.createOrder {o : Order} (hfresh : db.orders.find? o.id = none) :
    KeepsPrepaid db { db with orders := db.orders.put o } := by
  constructor
  case ledger => exact fun _ _ => .inl rfl
  case orders =>
    intro x hx
    have hne : x.id ≠ o.id := find?_eq_none.mp hfresh x hx
    exact ⟨x, mem_put.mpr (Or.inr ⟨hx, hne⟩), rfl, rfl, fun hstatus => hstatus⟩
  case paid => exact fun p hp _ _ _ _ _ => hp
  case payments => exact fun _ p hp _ _ _ => .inl hp

lemma KeepsPrepaid.createPayment (hfresh : db.payments.find? p.id = none)
    (hunpaid : p.status ≠ .paid) : KeepsPrepaid db { db with payments := db.payments.put p } := by
  constructor
  case ledger => exact fun _ _ => .inl rfl
  case orders => exact fun o ho => ⟨o, ho, rfl, rfl, fun hstatus => hstatus⟩
  case paid =>
    intro x hx _ _ _ _ _
    exact mem_put.mpr (Or.inr ⟨hx, find?_eq_none.mp hfresh x hx⟩)
  case payments =>
    intro _ x hx hpaid _ _
    rcases mem_put.mp hx with rfl | ⟨hx, _⟩
    · exact absurd hpaid hunpaid
    · exact .inl hx

lemma placeOrder_keeps {branch : Branch} {dto : CreateOrder}
    (hc : Commits (placeOrder branch dto) db id db') : KeepsPrepaid db db' := by
  simp only [placeOrder, commits_bind, commits_get, commits_require, commits_create, commits_pure] at hc
  obtain ⟨warehouse, _, hstore, _, _, hcheck, id, t, hid, _, _, ⟨rfl, rfl⟩, _, _, ⟨_, rfl⟩, _, _,
    ⟨hfresh, rfl⟩, _, _, hlines, paymentId, t', hid', _, _, ⟨rfl, rfl⟩, _, _, ⟨_, rfl⟩, _, _,
    ⟨hfresh', rfl⟩, rfl, rfl⟩ := hc
  obtain rfl := findStoreWarehouse_readOnly.eq hstore
  obtain rfl := checkAvailable_readOnly.eq hcheck
  have hbefore := offWorkflow_prepayments.freshId _ _ _ hid
  have hlines := Leaves.forM (f := prepayments) (fun _ => stock_apart.lift) _ _ _ hlines
  have hafter := (offWorkflow_prepayments.freshId _ _ _ hid').trans hlines
  exact (KeepsPrepaid.of_eq hbefore).trans ((KeepsPrepaid.createOrder hfresh).trans
    ((KeepsPrepaid.of_eq hafter).trans (.createPayment hfresh' (by simp))))

lemma create_keeps {dto : CreateOrder} {id : Option ℕ} (hc : Commits (create dto) db id db') :
    KeepsPrepaid db db' := by
  have hreceipts : receiptPart.Apart prepayments := ⟨fun _ _ => rfl⟩
  simp only [create, commits_steps] at hc
  obtain ⟨_, branch, _, hc⟩ := hc
  split at hc
  · obtain ⟨_, hplace, _⟩ := commits_bind_pure.mp hc
    exact placeOrder_keeps hplace
  · obtain ⟨gate, t, hgate, hc⟩ := commits_bind.mp hc
    have ht := KeepsPrepaid.of_eq (hreceipts.lift _ _ _ hgate)
    split at hc
    · obtain ⟨_, rfl⟩ := commits_pure.mp hc
      exact ht
    · obtain ⟨_, t', hplace, hc⟩ := commits_bind.mp hc
      obtain ⟨_, hcomplete, _⟩ := commits_bind_pure.mp hc
      exact ht.trans ((placeOrder_keeps hplace).trans (.of_eq (hreceipts.lift _ _ _ hcomplete)))

lemma OrderCall.keeps {c : OrderCall} (hc : Commits (c.tx cfg) db u db') : KeepsPrepaid db db' := by
  cases c with
  | create dto =>
    obtain ⟨_, hcreate, _⟩ := commits_bind_pure.mp hc
    exact create_keeps hcreate
  | selectPayment number paymentMethod branchCode accessToken => exact selectPayment_keeps hc
  | confirmPayment scope id dto => exact confirmPayment_keeps hc
  | confirmProviderPayment input =>
    obtain ⟨_, hconfirm, _⟩ := commits_bind_pure.mp hc
    exact confirmProviderPayment_keeps hconfirm
  | authorizeInvoice scope id => exact authorizeInvoice_keeps hc
  | pack scope id => exact pack_keeps hc
  | ship scope id dto => exact ship_keeps hc
  | deliver scope id => exact deliver_keeps hc
  | cancel scope id => exact cancel_keeps hc

end Mayatoko.Orders
