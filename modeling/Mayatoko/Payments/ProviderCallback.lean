import Mayatoko.Orders.Prepayments

/-!
# Callbacks of payment providers

`PaymentsService.providerCallback`. A delivery of an event is looked up, recorded as `RECEIVED`, confirmed
in a transaction of the orders service, and recorded as `PROCESSED` or `FAILED`; each is a step of its own,
and between two of them other deliveries are handled, the orders change, or the server crashes. The texts
of a callback are taken as already trimmed and its amount as parsed; what only the listing of the events
shows is left out.
-/

namespace Mayatoko.Payments

open Core Orders
open Accounting (AccountingDb)
open Finance (PaymentStatus)

/-! ### Callbacks -/

inductive IntegrationType
  | payment
  | shipping
  | marketplace
  | notification
  | accounting
  | storage
  | analytics
  | identity
  | device
  | custom
  deriving DecidableEq

inductive IntegrationStatus
  | disconnected
  | connected
  | degraded
  | disabled
  deriving DecidableEq

structure IntegrationConnection where
  (id companyId : ℕ)
  branchId : Option ℕ := none
  type : IntegrationType
  provider : String
  status : IntegrationStatus := .disconnected
  encryptedSecrets : Option String := none
  deriving DecidableEq

structure PaymentProviderCallbackDto where
  eventId : String
  orderNumber : Option String := none
  paymentNumber : Option String := none
  externalRef : String
  status : CallbackStatus
  amount : ℚ
  currency : Option String := none
  eventType : Option String := none
  deriving DecidableEq

structure Canonical where
  (eventId paymentNumber orderNumber externalRef : String)
  status : CallbackStatus
  amount : ℚ
  (currency eventType : String)
  deriving DecidableEq

def PaymentProviderCallbackDto.canonical (dto : PaymentProviderCallbackDto) : Canonical where
  eventId := dto.eventId
  paymentNumber := dto.paymentNumber.getD ""
  orderNumber := dto.orderNumber.getD ""
  externalRef := dto.externalRef
  status := dto.status
  amount := toDecimalPlaces dto.amount 2
  currency := (dto.currency.getD "IDR").toUpper
  eventType := dto.eventType.getD ""

inductive EventStatus
  | received
  | processed
  | failed
  deriving DecidableEq

/-- An event as it was first delivered. The hash of the request is taken to tell requests apart, so that
it is kept as what it is the hash of. -/
structure PaymentProviderEvent where
  companyId : ℕ
  branchId : Option ℕ
  integrationId : ℕ
  (provider eventId eventType externalRef : String)
  amount : ℚ
  requestHash : Canonical
  status : EventStatus := .received
  paymentId : Option ℕ := none
  orderId : Option ℕ := none

def PaymentProviderEvent.key (e : PaymentProviderEvent) : ℕ × String := (e.integrationId, e.eventId)

structure PaymentsDb where
  orders : OrdersDb
  integrations : Table IntegrationConnection.id
  events : Table PaymentProviderEvent.key

structure PaymentsConfig where
  decryptText : String → String
  hmac : String → Canonical → String

/-- A header without its prefix. -/
def rawSignature (header : String) : String :=
  let lower := header.toLower
  if lower.startsWith "sha256=" then String.ofList (lower.toList.drop 7) else lower

def isDigest (raw : String) : Bool :=
  raw.length = 64 && raw.toList.all fun c => c.isDigit || 'a' ≤ c && c ≤ 'f'

def verifySignature (cfg : PaymentsConfig) (secret : String) (canonical : Canonical)
    (header : Option String) : Except Failure Unit :=
  match header.filter (· ≠ "") with
  | none => .error (.forbidden "Signature callback provider wajib diisi.")
  | some header =>
    if !isDigest (rawSignature header) then
      .error (.forbidden "Format signature callback provider tidak valid.")
    else if rawSignature header ≠ cfg.hmac secret canonical then
      .error (.forbidden "Signature callback provider tidak valid.")
    else .ok ()

structure Delivery where
  integration : IntegrationConnection
  dto : PaymentProviderCallbackDto
  deriving DecidableEq

def authenticate (cfg : PaymentsConfig) (integrations : Table IntegrationConnection.id)
    (integrationId : ℕ) (dto : PaymentProviderCallbackDto) (signature : Option String) :
    Except Failure Delivery := do
  match (integrations.find? integrationId).filter fun i => i.type = .payment with
  | none => throw (.notFound "Integrasi payment provider tidak ditemukan.")
  | some integration =>
    if integration.status ≠ .connected then
      throw (.forbidden "Integrasi payment provider belum CONNECTED.")
    match integration.encryptedSecrets.filter (· ≠ "") with
    | none => throw (.forbidden "Webhook secret integrasi payment belum dikonfigurasi.")
    | some encrypted =>
      let secret := cfg.decryptText encrypted
      if secret.length < 24 then throw (.forbidden "Webhook secret integrasi terlalu lemah.")
      verifySignature cfg secret dto.canonical signature
      pure { integration, dto }

namespace Delivery

variable (d : Delivery)

def key : ℕ × String := (d.integration.id, d.dto.eventId)

def provider : String := d.integration.provider.toLower

/-- The row of an event that is delivered for the first time. -/
def row : PaymentProviderEvent where
  companyId := d.integration.companyId
  branchId := d.integration.branchId
  integrationId := d.integration.id
  provider := d.provider
  eventId := d.dto.eventId
  eventType := (d.dto.eventType.filter (· ≠ "")).getD
    ("PAYMENT_" ++ PaymentStatus.text d.dto.status.payment)
  externalRef := d.dto.externalRef
  amount := toDecimalPlaces d.dto.amount 2
  requestHash := d.dto.canonical

def input : ProviderPayment where
  companyId := d.integration.companyId
  branchId := d.integration.branchId
  provider := d.provider
  paymentNumber := d.dto.paymentNumber
  orderNumber := d.dto.orderNumber
  externalRef := d.dto.externalRef
  amount := toDecimalPlaces d.dto.amount 2
  status := d.dto.status

end Delivery

/-! ### The steps of a delivery -/

structure CallbackAnswer where
  replay : Bool
  eventId : String
  (paymentId orderId : Option ℕ)
  status : Option EventStatus := none
  paymentStatus : Option PaymentStatus := none
  deriving DecidableEq

inductive Phase
  | looking
  | creating
  | raced
  | confirming
  | confirmed (payment : Payment) (order : Order)
  | failing (e : Failure)
  deriving DecidableEq

inductive Outcome
  | goesOn (phase : Phase)
  | accepts (answer : CallbackAnswer)
  | rejects (e : Failure)
  deriving DecidableEq

def Delivery.replay (d : Delivery) (existing : PaymentProviderEvent) : Outcome :=
  if existing.requestHash ≠ d.dto.canonical then
    .rejects (.badRequest "eventId callback sudah pernah dipakai dengan payload berbeda.")
  else .accepts
    { replay := true, eventId := existing.eventId, paymentId := existing.paymentId,
      orderId := existing.orderId, status := some existing.status }

def advance (d : Delivery) (db : PaymentsDb) : Phase → PaymentsDb × Outcome
  | .looking =>
    match db.events.find? d.key with
    | some existing => (db, d.replay existing)
    | none => (db, .goesOn .creating)
  | .creating =>
    match db.events.find? d.key with
    | some _ => (db, .goesOn .raced)
    | none => ({ db with events := db.events.put d.row }, .goesOn .confirming)
  | .raced =>
    match db.events.find? d.key with
    | some raced => (db, d.replay raced)
    | none => (db, .rejects .uniqueViolation)
  | .confirming =>
    match execute (confirmProviderPayment d.input) db.orders with
    | (.ok (payment, order), orders) => ({ db with orders }, .goesOn (.confirmed payment order))
    | (.error e, _) => (db, .goesOn (.failing e))
  | .confirmed payment order =>
    match db.events.find? d.key with
    | some row =>
      ({ db with events := db.events.put { row with
          status := .processed, paymentId := some payment.id, orderId := some order.id } },
        .accepts { replay := false, eventId := row.eventId, paymentId := some payment.id,
                   orderId := some order.id, paymentStatus := some payment.status })
    | none => (db, .goesOn (.failing .recordNotFound))
  | .failing e =>
    match db.events.find? d.key with
    | some row => ({ db with events := db.events.put { row with status := .failed } }, .rejects e)
    | none => (db, .rejects .recordNotFound)

def disturb (e : Failure) : Phase → Outcome
  | .confirming | .confirmed _ _ => .goesOn (.failing e)
  | .looking | .creating | .raced | .failing _ => .rejects e

structure Handler where
  delivery : Delivery
  phase : Phase

def Outcome.handler (d : Delivery) : Outcome → Option Handler
  | goesOn phase => some ⟨d, phase⟩
  | accepts _ | rejects _ => none

structure CallbackState where
  db : PaymentsDb
  handlers : ℕ → Option Handler

inductive CallbackAction
  | received (i : ℕ) (d : Delivery)
  | advanced (i : ℕ) (d : Delivery) (phase : Phase) (outcome : Outcome)
  | disturbed (i : ℕ) (d : Delivery) (e : Failure)
  | crashed (i : ℕ)
  | shop (c : Option OrderCall)
  | configured

inductive ShopStep (cfg : OrdersConfig) (db : OrdersDb) : Option OrderCall → OrdersDb → Prop
  | call {c : OrderCall} {db' : OrdersDb} (h : Commits (c.tx cfg) db () db') :
      ShopStep cfg db (some c) db'
  | elsewhere {db' : OrdersDb} (h : KeepsPrepaid db db') : ShopStep cfg db none db'

inductive CallbackStep (cfg : PaymentsConfig) (shopCfg : OrdersConfig) (s : CallbackState) :
    CallbackAction → CallbackState → Prop
  | received {i integrationId : ℕ} {dto : PaymentProviderCallbackDto} {signature : Option String}
      {d : Delivery} (hfree : s.handlers i = none)
      (h : authenticate cfg s.db.integrations integrationId dto signature = .ok d) :
      CallbackStep cfg shopCfg s (.received i d)
        { s with handlers := Function.update s.handlers i (some ⟨d, .looking⟩) }
  | advanced {i : ℕ} {d : Delivery} {phase : Phase} (h : s.handlers i = some ⟨d, phase⟩) :
      CallbackStep cfg shopCfg s (.advanced i d phase (advance d s.db phase).2)
        { db := (advance d s.db phase).1
          handlers := Function.update s.handlers i ((advance d s.db phase).2.handler d) }
  | disturbed {i : ℕ} {d : Delivery} {phase : Phase} {e : Failure}
      (h : s.handlers i = some ⟨d, phase⟩) :
      CallbackStep cfg shopCfg s (.disturbed i d e)
        { s with handlers := Function.update s.handlers i ((disturb e phase).handler d) }
  | crashed {i : ℕ} :
      CallbackStep cfg shopCfg s (.crashed i) { s with handlers := Function.update s.handlers i none }
  | shop {c : Option OrderCall} {orders : OrdersDb} (h : ShopStep shopCfg s.db.orders c orders) :
      CallbackStep cfg shopCfg s (.shop c) { s with db.orders := orders }
  | configured {integrations : Table IntegrationConnection.id} :
      CallbackStep cfg shopCfg s .configured { s with db.integrations := integrations }

/-! ### What a delivery brings about -/

variable {cfg : PaymentsConfig} {shopCfg : OrdersConfig} {db db' : PaymentsDb} {s s' : CallbackState}
  {d d' : Delivery} {phase : Phase} {past : List CallbackAction} {c : CallbackAction}

/-- The payment that the event is about is `PAID`, and its prepayment is posted once. -/
def Settled (db : OrdersDb) (d : Delivery) : Prop :=
  ∃ p ∈ db.payments, ∃ o, ConfirmedFor d.input p o ∧ PrepaidBy db o p

def Recorded (db : PaymentsDb) (d : Delivery) : Prop :=
  ∃ row, db.events.find? d.key = some row ∧ row.requestHash = d.dto.canonical

def Confirmed (past : List CallbackAction) (d : Delivery) : Prop :=
  ∃ i payment order,
    CallbackAction.advanced i d .confirming (.goesOn (.confirmed payment order)) ∈ past

def CallbackAction.Redelivers (d : Delivery) : CallbackAction → Prop
  | received _ d' => d' = d
  | advanced _ _ _ _ | disturbed _ _ _ | crashed _ => True
  | shop _ | configured => False

def Recoverable (cfg : PaymentsConfig) (shopCfg : OrdersConfig) (s : CallbackState) (d : Delivery) : Prop :=
  ∃ calls s', (∀ c ∈ calls, c.Redelivers d) ∧ Run (CallbackStep cfg shopCfg) s calls s' ∧
    Settled s'.db.orders d

lemma Settled.step {orders orders' : OrdersDb} (h : Settled orders d)
    (hstep : KeepsPrepaid orders orders') : Settled orders' d := by
  obtain ⟨p, hp, o, hfor, hprepaid⟩ := h
  obtain ⟨o', hid, hnumber, hprepaid'⟩ := hprepaid.step hstep
  refine ⟨p, hstep.paid p hp hfor.status o hprepaid.mem hprepaid.owns hprepaid.decided, o', ?_, hprepaid'⟩
  exact { hfor with orderNumber := fun n hn hne => hnumber.trans (hfor.orderNumber n hn hne) }

lemma some_of_getD_eq {a b : Option String} {n : String} (h : a.getD "" = b.getD "") (hb : b = some n)
    (hn : n ≠ "") : a = some n := by
  rw [hb, Option.getD_some] at h
  cases a with
  | none => exact absurd h.symm hn
  | some m => exact congrArg some h

lemma Settled.of_canonical {orders : OrdersDb} (h : Settled orders d)
    (heq : d.dto.canonical = d'.dto.canonical) : Settled orders d' := by
  obtain ⟨p, hp, o, hfor, hprepaid⟩ := h
  simp only [PaymentProviderCallbackDto.canonical, Canonical.mk.injEq] at heq
  obtain ⟨_, hpayment, horder, href, _, hamount, _, _⟩ := heq
  refine ⟨p, hp, o, ?_, hprepaid⟩
  constructor
  case paymentNumber =>
    exact fun n hn hne => hfor.paymentNumber n (some_of_getD_eq hpayment hn hne) hne
  case orderNumber =>
    exact fun n hn hne => hfor.orderNumber n (some_of_getD_eq horder hn hne) hne
  case amount => exact hfor.amount.trans hamount
  case status => exact hfor.status
  case externalRef => exact hfor.externalRef.trans (congrArg some href)

/-! ### One step -/

def KeepsEvents (db db' : PaymentsDb) : Prop :=
  ∀ key row, db.events.find? key = some row →
    ∃ row', db'.events.find? key = some row' ∧ row'.requestHash = row.requestHash

lemma Recorded.step (h : Recorded db d) (hstep : KeepsEvents db db') : Recorded db' d := by
  obtain ⟨row, hrow, hhash⟩ := h
  obtain ⟨row', hrow', heq⟩ := hstep _ _ hrow
  exact ⟨row', hrow', heq.trans hhash⟩

lemma keepsEvents_of_eq (h : db'.events = db.events) : KeepsEvents db db' := by
  intro key row hrow
  exact ⟨row, h ▸ hrow, rfl⟩

lemma keepsEvents_put (row : PaymentProviderEvent) {row' : PaymentProviderEvent} {orders : OrdersDb}
    {integrations : Table IntegrationConnection.id}
    (hfind : ∀ r, db.events.find? row'.key = some r → r = row)
    (hhash : row'.requestHash = row.requestHash) :
    KeepsEvents db ⟨orders, integrations, db.events.put row'⟩ := by
  intro key r hr
  by_cases hkey : key = row'.key
  · subst hkey
    obtain rfl := hfind r hr
    exact ⟨row', find?_put_self _ _, hhash⟩
  · exact ⟨r, (find?_put_of_ne _ hkey).trans hr, rfl⟩

lemma advance_orders (h : phase ≠ .confirming) : (advance d db phase).1.orders = db.orders := by
  cases phase with
  | confirming => exact absurd rfl h
  | looking | creating | raced | confirmed _ _ | failing _ =>
    rw [advance]
    split <;> rfl

lemma advance_confirming : (∃ payment order orders, advance d db .confirming =
        ({ db with orders }, .goesOn (.confirmed payment order)) ∧
      Commits (confirmProviderPayment d.input) db.orders (payment, order) orders) ∨
    ∃ e, advance d db .confirming = (db, .goesOn (.failing e)) := by
  rcases hex : execute (confirmProviderPayment d.input) db.orders with ⟨res, orders⟩
  cases res with
  | ok res =>
    obtain ⟨payment, order⟩ := res
    have hc := commits_of_execute (congrArg Prod.fst hex)
    rw [hex] at hc
    refine .inl ⟨payment, order, orders, ?_, hc⟩
    rw [advance, hex]
  | error e =>
    refine .inr ⟨e, ?_⟩
    rw [advance, hex]

lemma find?_key {row : PaymentProviderEvent} (h : db.events.find? d.key = some row) : row.key = d.key :=
  (find?_eq_some.mp h).2

lemma advance_keepsEvents : KeepsEvents db (advance d db phase).1 := by
  cases phase with
  | looking =>
    rw [advance]
    split <;> exact keepsEvents_of_eq rfl
  | raced =>
    rw [advance]
    split <;> exact keepsEvents_of_eq rfl
  | confirming =>
    rw [advance]
    split <;> exact keepsEvents_of_eq rfl
  | creating =>
    rw [advance]
    split
    · exact keepsEvents_of_eq rfl
    next hnone =>
      refine keepsEvents_put d.row (fun r hr => ?_) rfl
      cases hnone.symm.trans hr
  | confirmed payment order =>
    rw [advance]
    split
    next row hrow =>
      refine keepsEvents_put row (fun r hr => ?_) rfl
      change db.events.find? row.key = some r at hr
      rw [find?_key hrow] at hr
      exact mem_unique hr hrow
    · exact keepsEvents_of_eq rfl
  | failing e =>
    rw [advance]
    split
    next row hrow =>
      refine keepsEvents_put row (fun r hr => ?_) rfl
      change db.events.find? row.key = some r at hr
      rw [find?_key hrow] at hr
      exact mem_unique hr hrow
    · exact keepsEvents_of_eq rfl

/-! ### Runs -/

def HandlerRight (db : PaymentsDb) (h : Handler) : Prop :=
  match h.phase with
  | .looking | .creating | .raced => True
  | .confirming | .failing _ => Recorded db h.delivery
  | .confirmed _ _ =>
    Recorded db h.delivery ∧ (h.delivery.dto.status = .paid → Settled db.orders h.delivery)

structure CallbacksRight (past : List CallbackAction) (s : CallbackState) : Prop where
  prepaid : PrepaymentsRight s.db.orders
  handlers : ∀ i h, s.handlers i = some h → HandlerRight s.db h
  confirmed : ∀ d, Confirmed past d → Recorded s.db d ∧ (d.dto.status = .paid → Settled s.db.orders d)

lemma HandlerRight.step {h : Handler} (hh : HandlerRight db h) (hevents : KeepsEvents db db')
    (horders : KeepsPrepaid db.orders db'.orders) : HandlerRight db' h := by
  obtain ⟨d, phase⟩ := h
  cases phase with
  | looking | creating | raced => trivial
  | confirming | failing _ => exact Recorded.step hh hevents
  | confirmed _ _ => exact ⟨Recorded.step hh.1 hevents, fun hpaid => (hh.2 hpaid).step horders⟩

lemma advance_keepsPrepaid : KeepsPrepaid db.orders (advance d db phase).1.orders := by
  by_cases hphase : phase = .confirming
  · subst hphase
    rcases @advance_confirming db d with ⟨payment, order, orders, hstep, hc⟩ | ⟨e, hstep⟩
    · rw [hstep]
      exact confirmProviderPayment_keeps hc
    · rw [hstep]
      exact .refl _
  · rw [advance_orders hphase]
    exact .refl _

lemma advance_handlerRight {h : Handler} (hprepaid : PrepaymentsRight db.orders)
    (hh : HandlerRight db ⟨d, phase⟩) (hnext : (advance d db phase).2.handler d = some h) :
    HandlerRight (advance d db phase).1 h := by
  have hkeep := @advance_keepsEvents db d phase
  cases phase with
  | looking =>
    rw [advance] at hnext ⊢
    split at hnext
    · rw [Delivery.replay] at hnext
      split at hnext <;> cases hnext
    · cases hnext
      trivial
  | creating =>
    rw [advance] at hnext ⊢
    split at hnext
    · cases hnext
      trivial
    · cases hnext
      exact ⟨d.row, find?_put_self _ _, rfl⟩
  | raced =>
    rw [advance] at hnext
    split at hnext
    · rw [Delivery.replay] at hnext
      split at hnext <;> cases hnext
    · cases hnext
  | confirming =>
    rcases @advance_confirming db d with ⟨payment, order, orders, hstep, hc⟩ | ⟨e, hstep⟩
    · rw [hstep] at hnext hkeep ⊢
      cases hnext
      exact ⟨Recorded.step hh hkeep, fun hpaid => confirmProviderPayment_paid hprepaid hpaid hc⟩
    · rw [hstep] at hnext ⊢
      cases hnext
      exact hh
  | confirmed payment order =>
    rw [advance] at hnext ⊢
    split at hnext
    · cases hnext
    · cases hnext
      exact hh.1
  | failing e =>
    rw [advance] at hnext
    split at hnext <;> cases hnext

lemma disturb_handlerRight {h : Handler} {e : Failure} (hh : HandlerRight db ⟨d, phase⟩)
    (hnext : (disturb e phase).handler d = some h) : HandlerRight db h := by
  cases phase with
  | looking | creating | raced | failing _ => cases hnext
  | confirming =>
    cases hnext
    exact hh
  | confirmed payment order =>
    cases hnext
    exact hh.1

lemma handlers_update {P : Handler → Prop} {i : ℕ} {x : Option Handler} {handlers : ℕ → Option Handler}
    (hx : ∀ h, x = some h → P h) (hother : ∀ j h, handlers j = some h → P h) :
    ∀ j h, Function.update handlers i x j = some h → P h := by
  intro j h hj
  by_cases hij : j = i
  · subst hij
    rw [Function.update_self] at hj
    exact hx h hj
  · rw [Function.update_of_ne hij] at hj
    exact hother j h hj

lemma confirmed_append : Confirmed (past ++ [c]) d ↔ Confirmed past d ∨ ∃ i payment order,
      c = .advanced i d .confirming (.goesOn (.confirmed payment order)) := by
  simp only [Confirmed, mem_append, mem_singleton]
  constructor
  · rintro ⟨i, payment, order, hmem | rfl⟩
    · exact .inl ⟨i, payment, order, hmem⟩
    · exact .inr ⟨i, payment, order, rfl⟩
  · rintro (⟨i, payment, order, hmem⟩ | ⟨i, payment, order, rfl⟩)
    · exact ⟨i, payment, order, .inl hmem⟩
    · exact ⟨i, payment, order, .inr rfl⟩

lemma CallbacksRight.move (h : CallbacksRight past s) (hevents : KeepsEvents s.db s'.db)
    (horders : KeepsPrepaid s.db.orders s'.db.orders)
    (hhandlers : ∀ i h, s'.handlers i = some h → HandlerRight s'.db h)
    (hc : ∀ d i payment order, c = .advanced i d .confirming (.goesOn (.confirmed payment order)) →
      HandlerRight s'.db ⟨d, .confirmed payment order⟩) : CallbacksRight (past ++ [c]) s' := by
  constructor
  case prepaid => exact h.prepaid.step horders
  case handlers => exact hhandlers
  case confirmed =>
    intro d hd
    rcases confirmed_append.mp hd with hd | ⟨i, payment, order, rfl⟩
    · obtain ⟨hrecorded, hsettled⟩ := h.confirmed d hd
      exact ⟨hrecorded.step hevents, fun hpaid => (hsettled hpaid).step horders⟩
    · exact hc d i payment order rfl

lemma callbacksRight_step (h : CallbacksRight past s) (hstep : CallbackStep cfg shopCfg s c s') :
    CallbacksRight (past ++ [c]) s' := by
  have hsame : KeepsEvents s.db s.db := keepsEvents_of_eq rfl
  cases hstep with
  | received hfree _ =>
    refine h.move hsame (.refl _) (handlers_update (fun x hx => ?_) h.handlers) (by simp)
    cases hx
    trivial
  | @advanced i d phase hi =>
    have hright := fun x => @advance_handlerRight s.db d phase x h.prepaid (h.handlers i _ hi)
    refine h.move advance_keepsEvents advance_keepsPrepaid (handlers_update hright ?_) ?_
    · exact fun j x hj => (h.handlers j x hj).step advance_keepsEvents advance_keepsPrepaid
    · intro d' j payment order heq
      simp only [CallbackAction.advanced.injEq] at heq
      obtain ⟨_, rfl, rfl, houtcome⟩ := heq
      exact hright _ (by rw [houtcome]; rfl)
  | @disturbed i d phase e hi =>
    refine h.move hsame (.refl _) (handlers_update (fun x hx => ?_) h.handlers) (by simp)
    exact disturb_handlerRight (h.handlers i _ hi) hx
  | crashed => exact h.move hsame (.refl _) (handlers_update (by simp) h.handlers) (by simp)
  | @shop call orders hshop =>
    have horders : KeepsPrepaid s.db.orders orders := by
      cases hshop with
      | call hc => exact OrderCall.keeps hc
      | elsewhere hkeeps => exact hkeeps
    have hevents : KeepsEvents s.db { s.db with orders } := keepsEvents_of_eq rfl
    exact h.move hevents horders (fun j x hj => (h.handlers j x hj).step hevents horders) (by simp)
  | @configured integrations =>
    have hevents : KeepsEvents s.db { s.db with integrations } := keepsEvents_of_eq rfl
    exact h.move hevents (.refl _) (fun j x hj => (h.handlers j x hj).step hevents (.refl _)) (by simp)

/-- Before the first order, with no delivery in progress. -/
structure Opening (s : CallbackState) : Prop where
  payments : ∀ p ∈ s.db.orders.payments, p.orderId = none
  posted : ∀ companyId orderId,
    s.db.orders.ledger.rowsOf (prepaymentKey companyId orderId) = (none, [])
  idle : ∀ i, s.handlers i = none

lemma Opening.right (h : Opening s) : CallbacksRight [] s := by
  constructor
  case prepaid =>
    constructor
    case posted => exact fun companyId orderId => .inl (h.posted companyId orderId)
    case paid =>
      intro p hp _ howner _
      rw [h.payments p hp] at howner
      cases howner
  case handlers =>
    intro i x hi
    cases (h.idle i).symm.trans hi
  case confirmed =>
    rintro d ⟨_, _, _, hmem⟩
    cases hmem

lemma replay_accepts {row : PaymentProviderEvent} {answer : CallbackAnswer}
    (h : d.replay row = .accepts answer) :
    row.requestHash = d.dto.canonical ∧ answer.replay = true := by
  rw [Delivery.replay] at h
  split at h
  next => cases h
  next hhash =>
    obtain rfl := Outcome.accepts.inj h
    exact ⟨not_not.mp hhash, rfl⟩

lemma advance_accepts {answer : CallbackAnswer} (h : (advance d db phase).2 = .accepts answer) :
    (∃ payment order, phase = .confirmed payment order) ∨
      Recorded db d ∧ answer.replay = true ∧ phase ≠ .confirming := by
  cases phase with
  | confirmed payment order => exact .inl ⟨payment, order, rfl⟩
  | looking | raced =>
    rw [advance] at h
    split at h
    next row hrow =>
      obtain ⟨hhash, hreplay⟩ := replay_accepts h
      exact .inr ⟨⟨row, hrow, hhash⟩, hreplay, by simp⟩
    next => cases h
  | creating =>
    rw [advance] at h
    split at h <;> cases h
  | confirming =>
    rcases @advance_confirming db d with ⟨_, _, _, hstep, _⟩ | ⟨_, hstep⟩
    · rw [hstep] at h
      cases h
    · rw [hstep] at h
      cases h
  | failing e =>
    rw [advance] at h
    split at h <;> cases h

/-- When a delivery of a `PAID` event is accepted, the payment of its order is `PAID` and the prepayment
posted once, if the transaction of the orders service for the event has been committed whenever the answer
is given from the row of the event. -/
theorem accepted_settled {s₀ : CallbackState} {i : ℕ} {answer : CallbackAnswer} (h₀ : Opening s₀)
    (hrun : Run (CallbackStep cfg shopCfg) s₀ (past ++ [.advanced i d phase (.accepts answer)]) s)
    (hpaid : d.dto.status = .paid)
    (hreplay : answer.replay = true → ∃ d', d'.key = d.key ∧ Confirmed past d') :
    Settled s.db.orders d := by
  obtain ⟨t, hpast, hlast⟩ := Run.append_iff.mp hrun
  obtain ⟨u, hstep, hnil⟩ := Run.cons_iff.mp hlast
  obtain rfl := Run.nil_iff.mp hnil
  have hright := hpast.invariant_past (I := CallbacksRight)
    (fun _ _ _ _ h hs => callbacksRight_step h hs) h₀.right
  rw [nil_append] at hright
  generalize haction : CallbackAction.advanced i d phase (.accepts answer) = action at hstep
  cases hstep with
  | received | disturbed | crashed | shop | configured => cases haction
  | advanced hi =>
    simp only [CallbackAction.advanced.injEq] at haction
    obtain ⟨rfl, rfl, rfl, haccepts⟩ := haction
    rcases advance_accepts haccepts.symm with ⟨payment, order, rfl⟩ | ⟨hrow, hagain, hphase⟩
    · exact ((hright.handlers _ _ hi).2 hpaid).step advance_keepsPrepaid
    · obtain ⟨d', hkey, hconfirmed⟩ := hreplay hagain
      obtain ⟨⟨row', hrow', hhash'⟩, hsettled⟩ := hright.confirmed d' hconfirmed
      obtain ⟨row, hrow, hhash⟩ := hrow
      -- both requests have the hash that the row has kept
      rw [hkey, hrow] at hrow'
      obtain rfl := Option.some.inj hrow'
      have hsame : d'.dto.canonical = d.dto.canonical := hhash'.symm.trans hhash
      have hstatus : d'.dto.status = .paid := (congrArg Canonical.status hsame).trans hpaid
      exact ((hsettled hstatus).of_canonical hsame).step advance_keepsPrepaid

structure Lost (d : Delivery) (orders : OrdersDb) (s : CallbackState) : Prop where
  known : ∃ row, s.db.events.find? d.key = some row
  orders : s.db.orders = orders
  handlers : ∀ i h, s.handlers i = some h →
    h.delivery = d ∧ (h.phase = .looking ∨ h.phase = .creating ∨ h.phase = .raced)

lemma Lost.step {orders : OrdersDb} (h : Lost d orders s) (hc : c.Redelivers d)
    (hstep : CallbackStep cfg shopCfg s c s') : Lost d orders s' := by
  obtain ⟨row, hrow⟩ := h.known
  cases hstep with
  | received hfree _ =>
    refine ⟨h.known, h.orders, handlers_update (fun x hx => ?_) h.handlers⟩
    cases hx
    exact ⟨hc, .inl rfl⟩
  | @advanced i d' phase hi =>
    obtain ⟨rfl, hphase⟩ := h.handlers i _ hi
    rcases hphase with rfl | rfl | rfl
    · have hadvance : advance d' s.db .looking = (s.db, d'.replay row) := by rw [advance, hrow]
      rw [hadvance]
      refine ⟨h.known, h.orders, handlers_update (fun x hx => ?_) h.handlers⟩
      rw [Delivery.replay] at hx
      split at hx <;> cases hx
    · have hadvance : advance d' s.db .creating = (s.db, .goesOn .raced) := by rw [advance, hrow]
      rw [hadvance]
      refine ⟨h.known, h.orders, handlers_update (fun x hx => ?_) h.handlers⟩
      cases hx
      exact ⟨rfl, .inr (Or.inr rfl)⟩
    · have hadvance : advance d' s.db .raced = (s.db, d'.replay row) := by rw [advance, hrow]
      rw [hadvance]
      refine ⟨h.known, h.orders, handlers_update (fun x hx => ?_) h.handlers⟩
      rw [Delivery.replay] at hx
      split at hx <;> cases hx
  | @disturbed i d' phase e hi =>
    obtain ⟨rfl, hphase⟩ := h.handlers i _ hi
    refine ⟨h.known, h.orders, handlers_update (fun x hx => ?_) h.handlers⟩
    rcases hphase with rfl | rfl | rfl <;> cases hx
  | crashed => exact ⟨h.known, h.orders, handlers_update (by simp) h.handlers⟩
  | shop | configured => cases hc

lemma Lost.run {orders : OrdersDb} {calls : List CallbackAction} (h : Lost d orders s)
    (hcalls : ∀ c ∈ calls, c.Redelivers d) (hrun : Run (CallbackStep cfg shopCfg) s calls s') :
    Lost d orders s' := by
  induction hrun with
  | nil => exact h
  | cons hstep _ ih =>
    obtain ⟨hfirst, hrest⟩ := forall_mem_cons.mp hcalls
    exact ih (h.step hfirst hstep) hrest

lemma Lost.not_recoverable {orders : OrdersDb} (h : Lost d orders s) (hnot : ¬ Settled orders d) :
    ¬ Recoverable cfg shopCfg s d := by
  rintro ⟨calls, s', hcalls, hrun, hsettled⟩
  exact hnot ((h.run hcalls hrun).orders ▸ hsettled)

/-! ### Examples -/

lemma run_shop {calls : List OrderCall} {orders : OrdersDb}
    (h : Run (fun db c db' => Commits (OrderCall.tx shopCfg c) db () db') s.db.orders calls orders) :
    Run (CallbackStep cfg shopCfg) s (calls.map fun c => .shop (some c)) { s with db.orders := orders } := by
  generalize hstart : s.db.orders = start at h
  induction h generalizing s with
  | nil =>
    subst hstart
    exact .nil s
  | cons hc _ ih =>
    subst hstart
    exact .cons (.shop (.call hc)) (@ih { s with db.orders := _ } rfl)

def prepaidShop : OrdersDb :=
  { newShop with
    ledger := { AccountingDb.empty with
      postingRules := Table.empty.put
        { id := 1, companyId := 1, code := "ONLINE-ORDER-PREPAYMENT", status := .active,
          eventType := "ONLINE_ORDER_PREPAYMENT",
          journalLines := [{ accountCodeKey := "settlement", side := "DEBIT", amountKey := "settlement" },
            { accountCodeKey := "customerAdvance", side := "CREDIT", amountKey := "customerAdvance" }] }
      accounts := (Table.empty.put { id := 1, branchId := 1, code := "1102" }).put
        { id := 2, branchId := 1, code := "2105" } } }

def testConfig : PaymentsConfig where
  decryptText := fun encrypted => encrypted
  hmac := fun _ _ => "".pushn '0' 64

def qris : IntegrationConnection where
  id := 9
  companyId := 1
  type := .payment
  provider := "qris"
  status := .connected
  encryptedSecrets := some ("".pushn 's' 24)

def opened : CallbackState where
  db := { orders := prepaidShop, integrations := Table.empty.put qris, events := Table.empty }
  handlers := fun _ => none

def orderByQris : List OrderCall :=
  [.create { branchCode := "PUSAT", number := "ORD-1", paymentNumber := "PAY-1",
             items := [⟨⟨⟨7, 2⟩, 0, 100, 0, 100, none⟩, ""⟩] },
    .selectPayment "ORD-1" (some "QRIS") "PUSAT" (some "ORD-1")]

def ordered : OrdersDb := (execute (orderByQris.forM (OrderCall.tx localConfig)) prepaidShop).2

def paidEvent : Delivery where
  integration := qris
  dto := { eventId := "evt-1", paymentNumber := some "PAY-1", externalRef := "ref-1", status := .paid,
           amount := 100 }

def recorded : PaymentsDb :=
  { opened.db with orders := ordered, events := Table.empty.put paidEvent.row }

lemma opening_opened : Opening opened := by
  constructor
  case payments =>
    intro p hp
    cases hp
  case posted => exact fun _ _ => rfl
  case idle => exact fun _ => rfl

lemma run_ordered : Run (CallbackStep testConfig localConfig) opened
    (orderByQris.map fun c => .shop (some c)) { opened with db.orders := ordered } := by
  have hcommits : Commits (orderByQris.forM (OrderCall.tx localConfig)) prepaidShop () ordered :=
    commits_of_execute (by decide +kernel)
  exact run_shop (commits_forM_iff_run.mp hcommits)

lemma paidEvent_authentic : authenticate testConfig opened.db.integrations 9 paidEvent.dto
    (some ("".pushn '0' 64)) = .ok paidEvent := by decide +kernel

lemma run_recorded : ∃ past handlers, Run (CallbackStep testConfig localConfig) opened past
    ⟨recorded, Function.update handlers 0 (some ⟨paidEvent, .confirming⟩)⟩ ∧
      ∀ i, i ≠ 0 → handlers i = none := by
  have hlooks : advance paidEvent { opened.db with orders := ordered } .looking =
      ({ opened.db with orders := ordered }, .goesOn .creating) := rfl
  have hcreates : advance paidEvent { opened.db with orders := ordered } .creating =
      (recorded, .goesOn .confirming) := rfl
  have hreceived : Run (CallbackStep testConfig localConfig) { opened with db.orders := ordered } _ _ :=
    .cons (.received rfl paidEvent_authentic) (.cons (.advanced (Function.update_self 0 _ _))
      (.cons (.advanced (Function.update_self 0 _ _)) (.nil _)))
  rw [hlooks, hcreates] at hreceived
  refine ⟨_, _, Run.append_iff.mpr ⟨_, run_ordered, hreceived⟩, fun i hi => ?_⟩
  dsimp only
  rw [Function.update_of_ne hi, Function.update_of_ne hi]
  rfl

lemma run_replayed {i integrationId : ℕ} {dto : PaymentProviderCallbackDto} {signature : Option String}
    {row : PaymentProviderEvent} {answer : CallbackAnswer} (hfree : s.handlers i = none)
    (hauth : authenticate cfg s.db.integrations integrationId dto signature = .ok d)
    (hrow : s.db.events.find? d.key = some row) (hreplay : d.replay row = .accepts answer) :
    Run (CallbackStep cfg shopCfg) s [.received i d, .advanced i d .looking (.accepts answer)] s := by
  have hadvance : advance d s.db .looking = (s.db, .accepts answer) := by
    rw [advance, hrow, ← hreplay]
  have hstep := @CallbackStep.advanced cfg shopCfg
    { s with handlers := Function.update s.handlers i (some ⟨d, .looking⟩) } i d .looking
    (Function.update_self i _ _)
  have hnone : Function.update s.handlers i none = s.handlers := by
    rw [← hfree, Function.update_eq_self]
  dsimp only at hstep
  rw [hadvance, Function.update_idem] at hstep
  simp only [Outcome.handler, hnone] at hstep
  exact .cons (.received hfree hauth) (.cons hstep (.nil _))

lemma paidEvent_replay : paidEvent.replay paidEvent.row = .accepts
    { replay := true, eventId := "evt-1", paymentId := none, orderId := none,
      status := some .received } := by decide +kernel

lemma run_crashed : ∃ past handlers, Run (CallbackStep testConfig localConfig) opened past
    ⟨recorded, handlers⟩ ∧ ∀ i, handlers i = none := by
  obtain ⟨past, handlers, hrun, hidle⟩ := run_recorded
  have hcrash := @CallbackStep.crashed testConfig localConfig
    ⟨recorded, Function.update handlers 0 (some ⟨paidEvent, .confirming⟩)⟩ 0
  refine ⟨_, _, Run.append_iff.mpr ⟨_, hrun, .cons hcrash (.nil _)⟩, fun i => ?_⟩
  dsimp only
  rw [Function.update_idem]
  by_cases hi : i = 0
  · rw [hi, Function.update_self]
  · rw [Function.update_of_ne hi, hidle i hi]

/-- Then a redelivery is accepted from the row of the event, the payment is not `PAID`, and no redelivery
will make it so. -/
theorem paidEvent_lost : ∃ past answer s, Opening opened ∧ Run (CallbackStep testConfig localConfig) opened
      (past ++ [.advanced 1 paidEvent .looking (.accepts answer)]) s ∧
    ¬ Settled s.db.orders paidEvent ∧ ¬ Recoverable testConfig localConfig s paidEvent := by
  obtain ⟨past, handlers, hrun, hidle⟩ := run_crashed
  have hunpaid : ¬ Settled ordered paidEvent := by
    rintro ⟨p, hp, _, hfor, _⟩
    have hall : ∀ p ∈ ordered.payments, p.status ≠ .paid := by decide +kernel
    exact hall p hp hfor.status
  have hrow : recorded.events.find? paidEvent.key = some paidEvent.row := rfl
  have hreplay := @run_replayed testConfig localConfig ⟨recorded, handlers⟩ paidEvent 1 _ _ _ _ _
    (hidle 1) paidEvent_authentic hrow paidEvent_replay
  have hlost : Lost paidEvent ordered ⟨recorded, handlers⟩ :=
    ⟨⟨_, hrow⟩, rfl, fun i h hi => by cases (hidle i).symm.trans hi⟩
  have hall := Run.append_iff.mpr ⟨_, hrun, hreplay⟩
  rw [List.append_cons] at hall
  exact ⟨_, _, _, opening_opened, hall, hunpaid, hlost.not_recoverable hunpaid⟩

theorem paidEvent_settled : ∃ past answer s, Run (CallbackStep testConfig localConfig) opened
    (past ++ [.advanced 1 paidEvent .looking (.accepts answer)]) s ∧ Settled s.db.orders paidEvent := by
  obtain ⟨past, handlers, hrun, hidle⟩ := run_recorded
  have hcommits := commits_of_execute (x := confirmProviderPayment paidEvent.input) (s := ordered)
    (a := ((execute (confirmProviderPayment paidEvent.input) ordered).1.toOption.get (by decide +kernel)))
    (by decide +kernel)
  generalize (execute (confirmProviderPayment paidEvent.input) ordered).1.toOption.get _ = res at hcommits
  generalize (execute (confirmProviderPayment paidEvent.input) ordered).2 = orders at hcommits
  obtain ⟨payment, order⟩ := res
  have hadvance : advance paidEvent recorded .confirming =
      ({ recorded with orders }, .goesOn (.confirmed payment order)) := by
    rw [advance, show recorded.orders = ordered from rfl, execute_of_commits hcommits]
  have hself : Function.update handlers 0 (some (⟨paidEvent, .confirming⟩ : Handler)) 0 =
      some ⟨paidEvent, .confirming⟩ := Function.update_self _ _ _
  have hconfirm := @CallbackStep.advanced testConfig localConfig
    ⟨recorded, Function.update handlers 0 (some ⟨paidEvent, .confirming⟩)⟩ 0 paidEvent .confirming hself
  dsimp only at hconfirm
  rw [hadvance, Function.update_idem] at hconfirm
  have hconfirmed := Run.append_iff.mpr ⟨_, hrun, .cons hconfirm (.nil _)⟩
  have hrow : recorded.events.find? paidEvent.key = some paidEvent.row := rfl
  have hfree : Function.update handlers 0 (some (⟨paidEvent, .confirmed payment order⟩ : Handler)) 1 =
      none := (Function.update_of_ne one_ne_zero _ _).trans (hidle 1 one_ne_zero)
  have hreplay := @run_replayed testConfig localConfig
    ⟨{ recorded with orders },
      Function.update handlers 0 (some ⟨paidEvent, .confirmed payment order⟩)⟩ paidEvent 1 _ _ _ _ _
    hfree paidEvent_authentic hrow paidEvent_replay
  have hall := Run.append_iff.mpr ⟨_, hconfirmed, hreplay⟩
  rw [List.append_cons] at hall
  refine ⟨_, _, _, hall, accepted_settled opening_opened hall rfl fun _ => ⟨paidEvent, rfl, 0, payment,
    order, ?_⟩⟩
  simp

end Mayatoko.Payments
