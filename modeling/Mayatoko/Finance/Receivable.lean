import Mathlib.Algebra.Group.Pi.Lemmas
import Mayatoko.Finance.OrderReturns
import Mayatoko.Finance.PurchaseReturnFacts

/-!
# What customers owe for shipped orders

Receipts and returns reduce the receivable of an order. A receipt is compared with the order total and
the other receipts, not with the returns that were credited; a return is credited whatever has been
received. The receivable stays right in all states of a run exactly if every posted receipt of an
order with credited returns, and every return that is credited, fits into what is left.
-/

namespace Mayatoko.Finance

open Core Accounting Transit Procurement FinanceDb

def receives (orderId : ℕ) (t : FinanceTransaction) : Bool :=
  t.settles .customerReceipt "Order" orderId

structure CreditOrder where
  scope : TenantScope
  total : ℚ
  deriving DecidableEq

namespace FinanceDb

variable (db : FinanceDb)

def onCredit (order : Order) : Bool :=
  order.accountingEventId.isSome && (db.methodOf order.id).any fun m => m = "COD" || m = "INVOICE"

def creditOrder (orderId : ℕ) : Option CreditOrder :=
  ((db.orders.find? orderId).filter db.onCredit).map fun o => ⟨⟨o.companyId, o.branchId⟩, o.total⟩

def received (orderId : ℕ) : ℚ := db.settledSum (receives orderId)

def receivableCredit (id : ℕ) (dto : ConfirmOrderReturn) : ℕ → ℚ :=
  match db.orderReturns.find? id with
  | none => 0
  | some row =>
    if row.status = .completed then 0
    else Pi.single row.orderId (row.receivableAmount dto (db.paymentOf row.orderId))

end FinanceDb

structure ReceivableSystem where
  db : FinanceDb
  credited : ℕ → ℚ := 0

/-- Of no order shipped on credit more has been received and credited than its total. -/
def ReceivableRight (s : ReceivableSystem) : Prop :=
  ∀ k c, s.db.creditOrder k = some c → 0 ≤ c.total - s.db.received k - s.credited k

/-- Whatever else happens: receipts stay as they are, and orders shipped on credit keep their total;
an order is shipped before anything is credited on it. -/
structure ReceivableElsewhere (s : ReceivableSystem) (db : FinanceDb) : Prop where
  transactions : db.transactions = s.db.transactions
  kept : ∀ k c, s.db.creditOrder k = some c → db.creditOrder k = some c
  shipped : ∀ k c, db.creditOrder k = some c →
    s.db.creditOrder k = some c ∨ s.credited k = 0 ∧ 0 ≤ c.total

inductive ReceivableEvent
  | finance (call : FinanceCall)
  | confirmReturn (scope : TenantScope) (id : ℕ) (dto : ConfirmOrderReturn)
  | elsewhere

inductive ReceivableStep : ReceivableSystem → ReceivableEvent → ReceivableSystem → Prop
  | finance {s : ReceivableSystem} {call : FinanceCall} {t : FinanceTransaction} {db : FinanceDb} :
      Commits call.tx s.db t db → ReceivableStep s (.finance call) { s with db }
  | confirmReturn {s : ReceivableSystem} {scope : TenantScope} {id : ℕ} {dto : ConfirmOrderReturn}
      {r : OrderReturn} {db : FinanceDb} :
      Commits (confirmOrderReturn scope id dto) s.db r db →
      ReceivableStep s (.confirmReturn scope id dto)
        { db, credited := s.credited + s.db.receivableCredit id dto }
  | elsewhere {s : ReceivableSystem} {db : FinanceDb} :
      ReceivableElsewhere s db → ReceivableStep s .elsewhere { s with db }

/-- A receipt that is posted fits into what is left of its order, if returns were credited on it. -/
def ReceiptFits (s : ReceivableSystem) (id : ℕ) : Prop :=
  ∀ t k c, s.db.transactions.find? id = some t → receives k t = true →
    s.db.creditOrder k = some c →
    s.credited k = 0 ∨ s.db.received k + s.credited k + t.grossAmount ≤ c.total

def CreditFits (s : ReceivableSystem) (id : ℕ) (dto : ConfirmOrderReturn) : Prop :=
  ∀ row c, s.db.orderReturns.find? id = some row → row.status ≠ .completed →
    row.reducesReceivable dto (s.db.paymentOf row.orderId) = true →
    s.db.creditOrder row.orderId = some c →
    s.db.received row.orderId + s.credited row.orderId + row.gross ≤ c.total

def ReceivableFits (s : ReceivableSystem) : ReceivableEvent → Prop
  | .finance call => ∀ id, call.posts = some id → ReceiptFits s id
  | .confirmReturn _ id dto => CreditFits s id dto
  | .elsewhere => True

def ReceiptsBooked (db : FinanceDb) : Prop :=
  ∀ t ∈ db.transactions, ∀ k, receives k t = true → 0 < t.grossAmount ∧
    ∃ c, db.creditOrder k = some c ∧ c.scope = ⟨t.companyId, t.branchId⟩

variable {db db' : FinanceDb} {scope : TenantScope} {id k : ℕ} {t : FinanceTransaction}
  {dto : CreateFinanceTransaction} {tax : TaxedAmount} {exclude posts : Option ℕ} {c : CreditOrder}
  {s s' : ReceivableSystem} {e : ReceivableEvent}

/-! ### Receipts -/

lemma customerReceivableSnapshot_commits {q : CustomerReceivable}
    (h : Commits (customerReceivableSnapshot scope id exclude) db q db') :
    ∃ c, db.creditOrder id = some c ∧ c.scope = scope ∧
      q.position = position c.total (db.settlements scope (receives id) exclude) := by
  simp only [customerReceivableSnapshot, commits_steps] at h
  obtain ⟨order, horder, payment, hpayment, hshipped, rfl, rfl⟩ := h
  obtain ⟨hfind, hscope⟩ := Option.filter_eq_some_iff.mp horder
  obtain ⟨hpay, hmethod⟩ := Option.filter_eq_some_iff.mp hpayment
  obtain ⟨_, rfl⟩ := find?_eq_some.mp hfind
  simp only [cond_iff] at hscope
  have hcredit : db.onCredit order = true := by
    rw [onCredit, methodOf, hpay, hshipped]
    exact hmethod
  refine ⟨⟨⟨order.companyId, order.branchId⟩, order.total⟩, ?_, ?_, rfl⟩
  · rw [creditOrder, hfind, Option.filter_some_pos hcredit]
    rfl
  · rw [hscope.1.1, hscope.1.2]

lemma Created.receives (h : Created scope dto db tax t db') (hp : receives k t = true) : 0 < t.grossAmount ∧
      ∃ c, db.creditOrder k = some c ∧ c.scope = ⟨t.companyId, t.branchId⟩ := by
  obtain ⟨htype, hreference, hid⟩ := FinanceTransaction.settles_iff.mp hp
  obtain ⟨_, _, rfl⟩ := h.row
  have hchecked := h.checked
  dsimp only [CreateFinanceTransaction.row] at htype hreference hid
  simp only [CreateFinanceTransaction.checkNew, htype, CreateFinanceTransaction.checkCustomerReceipt, hid,
    CreateFinanceTransaction.requireAvailable, commits_steps, Option.some.injEq] at hchecked
  obtain ⟨_, _, _, htax, q, _, hsnapshot, _, _, _, hasset, hpos, _⟩ := hchecked
  obtain rfl := ReadOnly.eq leaves_require htax
  obtain ⟨c, hc, hscope, _⟩ := customerReceivableSnapshot_commits hsnapshot
  exact ⟨hpos, c, hc, hscope⟩

lemma PostedTransaction.receives (h : PostedTransaction scope db t db') (hp : receives k t = true) :
    ∃ c, db.creditOrder k = some c ∧ c.scope = scope ∧ t.grossAmount ≤
      (position c.total (db.settlements scope (Finance.receives k) (some t.id))).available := by
  obtain ⟨htype, hreference, hid⟩ := FinanceTransaction.settles_iff.mp hp
  obtain ⟨r, hr⟩ := h.receivable
  simp only [FinanceTransaction.customerReceivable, htype, if_true, hid, FinanceTransaction.requireAvailable,
    commits_steps, Option.some.injEq] at hr
  obtain ⟨_, q, _, hsnapshot, _, hle, _⟩ := hr
  obtain ⟨c, hc, hscope, hq⟩ := customerReceivableSnapshot_commits hsnapshot
  rw [hq] at hle
  exact ⟨c, hc, hscope, hle⟩

lemma creditOrder_congr (horders : db'.orders = db.orders) (hmethods : db'.methodOf = db.methodOf) :
    db'.creditOrder = db.creditOrder := by
  have hcredit : db'.onCredit = db.onCredit := by
    funext o
    rw [onCredit, hmethods, onCredit]
  funext k
  rw [creditOrder, hcredit, horders]
  rfl

lemma Wrote.creditOrder (h : Wrote scope posts db db') : db'.creditOrder = db.creditOrder := by
  obtain ⟨_, _, _, _, heq⟩ := h.exists_eq
  exact creditOrder_congr (by rw [heq]) h.methodOf

lemma ReceiptsBooked.wrote (hb : ReceiptsBooked db) (h : Wrote scope posts db db') : ReceiptsBooked db' := by
  have hrows := h.forall_rows (P := fun t => ∀ k, receives k t = true → 0 < t.grossAmount ∧
    ∃ c, db.creditOrder k = some c ∧ c.scope = ⟨t.companyId, t.branchId⟩) (fun _ _ _ ht => ht)
    (fun _ _ _ hc k hp => hc.receives hp) hb
  rwa [ReceiptsBooked, h.creditOrder]

lemma ReceiptsBooked.fits (hb : ReceiptsBooked db) (h : PostedTransaction scope db t db')
    (hp : receives k t = true) (hc : db.creditOrder k = some c) :
    db.received k + t.grossAmount ≤ c.total := by
  obtain ⟨c', hc', hscope, hle⟩ := h.receives hp
  obtain rfl := mem_unique hc hc'
  have hpos := (hb t h.found k hp).1
  have htenant : ∀ x ∈ db.transactions, receives k x = true →
      x.companyId = scope.companyId ∧ x.branchId = scope.branchId := by
    intro x hx hpx
    obtain ⟨_, c', hc', hscope'⟩ := hb x hx k hpx
    obtain rfl := mem_unique hc hc'
    rw [hscope] at hscope'
    rw [hscope']
    exact ⟨rfl, rfl⟩
  exact add_le_of_le_rest hpos (h.fits htenant (fun x hx hpx => (hb x hx k hpx).1.le) hpos hle)

/-! ### Confirmed returns -/

lemma leaves_confirmReturnItem {α : Type} {f : FinanceDb → α} (hf : stockPart.Apart f)
    {row : OrderReturn} {item : OrderReturnItem} : Leaves f (confirmReturnItem row id item) :=
  leaves_get.bind fun _ => leaves_orThrow.bind fun _ => leaves_require.bind fun _ =>
    hf.lift.ite leaves_pure

lemma readOnly_checkReturnInspection {row : OrderReturn} : ReadOnly (checkReturnInspection scope row) :=
  leaves_orThrow.bind fun _ => leaves_get.bind fun _ => leaves_orThrow.bind fun _ => leaves_pure

lemma creditOrder_put {o : Order} {status : Stock.OrderStatus} (ho : o ∈ db.orders)
    (horders : db'.orders = db.orders.put { o with status }) (hmethods : db'.methodOf = db.methodOf) :
    db'.creditOrder = db.creditOrder := by
  have hcredit (x : Order) : db'.onCredit x = db.onCredit x := by rw [onCredit, hmethods, onCredit]
  funext k
  rw [creditOrder, creditOrder, horders, Table.find?_put]
  by_cases hk : k = o.id
  · subst hk
    rw [find?_of_mem ho]
    simp only [if_true]
    by_cases hon : db.onCredit o = true
    · rw [Option.filter_some_pos (by rw [hcredit]; exact hon), Option.filter_some_pos hon]
      rfl
    · have hoff : db.onCredit o = false := by simpa using hon
      rw [Option.filter_some_neg (by rw [hcredit]; exact hoff), Option.filter_some_neg hoff]
  · rw [if_neg hk]
    cases db.orders.find? k with
    | none => rfl
    | some x => simp only [Option.filter_some, hcredit]

lemma refundOrder_commits {row : OrderReturn} {payment : Option Payment} {u : Unit}
    (h : Commits (refundOrder row payment) db u db') :
    db'.transactions = db.transactions ∧ db'.orderReturns = db.orderReturns ∧
      db'.creditOrder = db.creditOrder := by
  simp only [refundOrder, commits_steps, commits_ite, TableOf.commits_update] at h
  obtain ⟨_, _, _, ⟨o, ho, _, rfl⟩, h⟩ | ⟨_, _, rfl⟩ := h
  · have hmem := (find?_eq_some.mp ho).1
    cases payment with
    | none =>
      obtain ⟨_, rfl⟩ := commits_pure.mp h
      exact ⟨rfl, rfl, creditOrder_put hmem rfl rfl⟩
    | some p =>
      simp only [commits_steps, TableOf.commits_update] at h
      obtain ⟨_, _, ⟨x, hx, _, rfl⟩, _, rfl⟩ := h
      exact ⟨rfl, rfl, creditOrder_put hmem rfl (methodOf_put (find?_eq_some.mp hx).1 rfl)⟩
  · exact ⟨rfl, rfl, rfl⟩

/-- The return `row` has been confirmed, and its refund posted. -/
structure OrderReturnConfirmed (scope : TenantScope) (dto : ConfirmOrderReturn) (db : FinanceDb)
    (row : OrderReturn) (db' : FinanceDb) : Prop where
  open_ : row.status ≠ .completed
  posted : ∃ cogs event ledger, Commits (postOperationalEvent
    (row.eventInput scope dto (db.paymentOf row.orderId) cogs)) db.procurement.ledger event ledger
  transactions : db'.transactions = db.transactions
  creditOrder : db'.creditOrder = db.creditOrder

lemma confirmOrderReturn_commits {dto : ConfirmOrderReturn} {r : OrderReturn}
    (h : Commits (confirmOrderReturn scope id dto) db r db') :
    ∃ row, db.orderReturns.find? id = some row ∧
      (row.status = .completed ∧ db = db' ∨ OrderReturnConfirmed scope dto db row db') := by
  simp only [confirmOrderReturn, scopedOrderReturn, completeOrderReturn, commits_steps, commits_ite] at h
  obtain ⟨_, _, ⟨row, hfind, _, _, hwarehouse, rfl, rfl⟩, h⟩ := h
  obtain rfl := readOnly_assertWarehouse.eq hwarehouse
  refine ⟨row, (Option.filter_eq_some_iff.mp hfind).1, ?_⟩
  obtain ⟨hcompleted, _, rfl⟩ | ⟨hopen, _, inspectionId, _, hinspection, _, t, hitems, _, _, htax, event, _,
    hpost, _, t', hrefund, hup⟩ := h
  · exact .inl ⟨hcompleted, rfl⟩
  · obtain rfl := readOnly_checkReturnInspection.eq hinspection
    obtain rfl := readOnly_assertReturnTaxCodes.eq htax
    have hloop {α : Type} (f : FinanceDb → α) (hf : stockPart.Apart f) : f t = f db :=
      Leaves.forM (fun _ => leaves_confirmReturnItem hf) _ _ _ hitems
    obtain ⟨ledger, hposted, rfl⟩ := Part.commits_lift.mp hpost
    obtain ⟨htransactions, _, hcredit⟩ := refundOrder_commits hrefund
    obtain ⟨o, _, _, rfl⟩ := TableOf.commits_update.mp hup
    have hpayment : t.paymentOf row.orderId = db.paymentOf row.orderId :=
      hloop (fun db => db.paymentOf row.orderId) ⟨fun _ _ => rfl⟩
    have hledger : t.procurement.ledger = db.procurement.ledger :=
      hloop (fun db => db.procurement.ledger) ⟨fun _ _ => rfl⟩
    change Commits _ t.procurement.ledger event ledger at hposted
    rw [hpayment, hledger] at hposted
    refine .inr ⟨hopen, ⟨_, event, ledger, hposted⟩, ?_, ?_⟩
    · exact htransactions.trans (hloop FinanceDb.transactions ⟨fun _ _ => rfl⟩)
    · exact hcredit.trans (hloop FinanceDb.creditOrder ⟨fun _ _ => rfl⟩)

/-! ### Steps -/

lemma ReceiptsBooked.step (hb : ReceiptsBooked s.db) (h : ReceivableStep s e s') : ReceiptsBooked s'.db := by
  cases h with
  | finance hc => exact hb.wrote (FinanceCall.wrote hc)
  | @confirmReturn scope id dto r db hc =>
    obtain ⟨row, _, ⟨_, rfl⟩ | hrow⟩ := confirmOrderReturn_commits hc
    · exact hb
    · change ReceiptsBooked db
      rw [ReceiptsBooked, hrow.transactions, hrow.creditOrder]
      exact hb
  | @elsewhere db he =>
    intro t ht k hp
    rw [he.transactions] at ht
    obtain ⟨hpos, c, hc, hscope⟩ := hb t ht k hp
    exact ⟨hpos, c, he.kept k c hc, hscope⟩

lemma ReceiptsBooked.received_eq_zero (hb : ReceiptsBooked db) (h : db.creditOrder k = none) :
    db.received k = 0 := by
  refine Table.sum_eq_zero fun t ht => if_neg fun hp => ?_
  obtain ⟨_, c, hc, _⟩ := hb t ht k hp
  rw [h] at hc
  cases hc

lemma receivableRight_post (hb : ReceiptsBooked s.db) (hs : ReceivableRight s)
    (hc : Commits (FinanceCall.post scope id).tx s.db t db) :
    ReceivableRight { s with db } ↔ ReceiptFits s id := by
  have hwrote : Wrote scope (some id) s.db db := FinanceCall.wrote hc
  obtain ⟨t, rfl, hpost⟩ := post_commits hc
  have hsum (k : ℕ) : db.received k = s.db.received k + if receives k t then t.grossAmount else 0 :=
    hpost.settledSum fun _ _ => rfl
  constructor
  · intro hright x k c hx hp hcredit
    obtain rfl := mem_unique (find?_of_mem hpost.found) hx
    have hle := hright k c (by rw [hwrote.creditOrder]; exact hcredit)
    rw [hsum k, if_pos hp] at hle
    exact .inr (by linarith)
  · intro hfits k c hcredit
    rw [hwrote.creditOrder] at hcredit
    have hbefore := hs k c hcredit
    rw [hsum k]
    by_cases hp : receives k t = true
    · rw [if_pos hp]
      have hfit := hb.fits hpost hp hcredit
      rcases hfits t k c (find?_of_mem hpost.found) hp hcredit with hzero | hle
      · rw [hzero]
        linarith
      · linarith
    · rw [if_neg hp]
      linarith

/-- A confirmation keeps the receivables right exactly if its credit fits. -/
lemma receivableRight_confirm {dto : ConfirmOrderReturn} {r : OrderReturn} (hs : ReceivableRight s)
    (hc : Commits (confirmOrderReturn scope id dto) s.db r db) :
    ReceivableRight ⟨db, s.credited + s.db.receivableCredit id dto⟩ ↔ CreditFits s id dto := by
  obtain ⟨row, hfind, ⟨hcompleted, rfl⟩ | hrow⟩ := confirmOrderReturn_commits hc
  · have hzero : s.db.receivableCredit id dto = 0 := by
      rw [receivableCredit, hfind]
      exact if_pos hcompleted
    rw [hzero, add_zero]
    refine iff_of_true hs fun x c hx hopen => ?_
    obtain rfl := mem_unique hfind hx
    exact absurd hcompleted hopen
  · have hcredit : s.db.receivableCredit id dto =
        Pi.single row.orderId (row.receivableAmount dto (s.db.paymentOf row.orderId)) := by
      rw [receivableCredit, hfind]
      exact if_neg hrow.open_
    have hreceived (k : ℕ) : db.received k = s.db.received k := by
      rw [received, FinanceDb.settledSum, hrow.transactions]
      rfl
    constructor
    · intro hright x c hx _ hreduces hc
      obtain rfl := mem_unique hfind hx
      have hle := hright row.orderId c (by rw [hrow.creditOrder]; exact hc)
      dsimp only at hle
      rw [hreceived, hcredit, Pi.add_apply, Pi.single_eq_same, OrderReturn.receivableAmount,
        if_pos hreduces] at hle
      linarith
    · intro hfits k c hc
      dsimp only at hc
      rw [hrow.creditOrder] at hc
      have hbefore := hs k c hc
      dsimp only
      rw [hreceived, hcredit, Pi.add_apply]
      by_cases hk : k = row.orderId
      · subst hk
        rw [Pi.single_eq_same, OrderReturn.receivableAmount]
        by_cases hreduces : row.reducesReceivable dto (s.db.paymentOf row.orderId) = true
        · rw [if_pos hreduces]
          linarith [hfits row c hfind hrow.open_ hreduces hc]
        · rw [if_neg hreduces, add_zero]
          exact hbefore
      · rw [Pi.single_eq_of_ne hk, add_zero]
        exact hbefore

/-- A step keeps the receivables right exactly if what it posts fits. -/
lemma receivableRight_step (hb : ReceiptsBooked s.db) (hs : ReceivableRight s)
    (h : ReceivableStep s e s') : ReceivableRight s' ↔ ReceivableFits s e := by
  cases h with
  | @finance call t db hc =>
    cases hposts : call.posts with
    | none =>
      refine iff_of_true (fun k c hcredit => ?_) fun id hid => ?_
      · have hwrote := FinanceCall.wrote hc
        dsimp only at hcredit ⊢
        rw [hwrote.creditOrder] at hcredit
        rcases hwrote.settledSum (p := receives k) fun _ _ _ => rfl with hsame | ⟨t, hpost, _⟩
        · rw [received, hsame]
          exact hs k c hcredit
        · rw [hposts] at hpost
          cases hpost
      · rw [hposts] at hid
        cases hid
    | some id =>
      cases call with
      | post scope id' =>
        refine (receivableRight_post hb hs hc).trans ⟨?_, fun hfits => hfits id' rfl⟩
        rintro hfits _ ⟨⟩
        exact hfits
      | create => cases hposts
      | approve => cases hposts
      | reject => cases hposts
      | cancel => cases hposts
  | confirmReturn hc => exact receivableRight_confirm hs hc
  | @elsewhere db he =>
    refine iff_of_true (fun k c hcredit => ?_) trivial
    have hreceived : db.received k = s.db.received k := by
      rw [received, FinanceDb.settledSum, he.transactions]
      rfl
    dsimp only
    rw [hreceived]
    rcases he.shipped k c hcredit with hold | ⟨hzero, htotal⟩
    · exact hs k c hold
    · cases hold : s.db.creditOrder k with
      | none =>
        rw [hb.received_eq_zero hold, hzero]
        linarith
      | some c' =>
        obtain rfl := mem_unique (he.kept k c' hold) hcredit
        exact hs k c' hold

/-- The receivables are right in all states of a run exactly if everything it posts fits. -/
theorem receivableRight_run_iff {es : List ReceivableEvent} (hb : ReceiptsBooked s.db)
    (hs : ReceivableRight s) :
    Run (Landing ReceivableRight ReceivableStep) s es s' ↔
      Run (Guarded ReceivableFits ReceivableStep) s es s' := by
  refine Run.landing_iff_guarded_of_invariant (J := fun s => ReceiptsBooked s.db) ?_ ?_ hb hs
  · exact fun _ _ _ h hstep => h.step hstep
  · exact fun _ _ _ hb hs hstep => receivableRight_step hb hs hstep

/-! ### An invoice of 100 with a return of 60 -/

def sixReturned : OrderReturn where
  id := 1
  companyId := 1
  branchId := 1
  orderId := 1
  warehouseId := 1
  status := .inspection
  inspectionId := some 1
  items := [{ id := 1, orderItemId := 1, productId := 1, quantity := 6, netAmount := 60,
              taxAmount := 0, grossAmount := 60 }]

def tenOrdered : Order where
  id := 1
  companyId := 1
  branchId := 1
  status := .completed
  total := 100
  accountingEventId := some (1, "shipment")
  items := [{ id := 1, productId := 1, quantity := 10 }]

def sixRejected : InspectionResultItem where
  id := 1
  inspectionId := 1
  code := "ORDER_RETURN_ITEM:1"
  result := .fail
  expectedQty := some 6
  rejectedQty := some 6

def invoiced : FinanceDb :=
  { FinanceDb.empty with
    nextId := 1
    procurement := { FinanceDb.empty.procurement with
      ledger := { AccountingDb.empty with
        postingRules := (Table.empty.put (grossRule 1 "CUSTOMER_RECEIPT" "settlement" "receivable")).put
          (grossRule 2 "ORDER_RETURN" "returns" "receivable")
        accounts := ((Table.empty.put ⟨1, 1, "1201", true⟩).put ⟨2, 1, "1101", true⟩).put
          ⟨3, 1, "4102", true⟩ }
      warehouses := Table.empty.put ⟨1, 1, 1⟩
      inspections := Table.empty.put
        { id := 1, companyId := 1, branchId := some 1, sourceType := "OrderReturn", sourceId := 1,
          status := .approved } }
    orders := Table.empty.put tenOrdered
    payments := Table.empty.put { id := 1, orderId := 1, method := "INVOICE" }
    orderReturns := Table.empty.put sixReturned
    inspectionResults := Table.empty.put sixRejected }

def receiptOf (amount : ℚ) : CreateFinanceTransaction where
  type := .customerReceipt
  description := "Pelunasan"
  amount := amount
  debitAccountCode := "1101"
  creditAccountCode := "1201"
  referenceType := some "Order"
  referenceId := some 1
  idempotencyKey := "receipt-1"

def afterReturn : FinanceDb := leftBy (confirmOrderReturn headOffice 1 {}) invoiced

def drafted (amount : ℚ) : FinanceDb := leftBy (create headOffice (receiptOf amount)) afterReturn

lemma invoiced_creditOrder (h : invoiced.creditOrder k = some c) : k = 1 ∧ c = ⟨headOffice, 100⟩ := by
  by_cases hk : k = 1
  · subst hk
    exact ⟨rfl, (Option.some.inj h).symm⟩
  · have hnone : invoiced.orders.find? k = none :=
      find?_put_of_ne Table.empty (r := tenOrdered) hk
    rw [creditOrder, hnone] at h
    cases h

lemma invoiced_booked : ReceiptsBooked invoiced := fun t ht => absurd ht (not_mem_empty t)

lemma invoiced_right : ReceivableRight { db := invoiced } := by
  intro k c hc
  obtain ⟨rfl, rfl⟩ := invoiced_creditOrder hc
  have hnone : invoiced.received 1 = 0 :=
    Table.sum_eq_zero fun t ht => absurd ht (not_mem_empty t)
  rw [hnone]
  norm_num

def settledBy (amount : ℚ) : FinanceDb := leftBy (post headOffice 1) (drafted amount)

lemma invoiced_credit : invoiced.receivableCredit 1 {} 1 = 60 := by decide +kernel

/-- The return credits 60 of 100, and then all 100 are received. -/
theorem receiptAfterReturn_exceeds : ReceiptsBooked invoiced ∧ ReceivableRight { db := invoiced } ∧
      ∃ s, Run ReceivableStep { db := invoiced }
        [.confirmReturn headOffice 1 {}, .finance (.create headOffice (receiptOf 100)),
          .finance (.post headOffice 1)] s ∧ ¬ ReceivableRight s := by
  obtain ⟨_, hreturn⟩ := commits_leftBy (confirmOrderReturn headOffice 1 {}) invoiced (by decide +kernel)
  obtain ⟨_, hcreate⟩ := commits_leftBy (create headOffice (receiptOf 100)) afterReturn (by decide +kernel)
  obtain ⟨_, hpost⟩ := commits_leftBy (post headOffice 1) (drafted 100) (by decide +kernel)
  refine ⟨invoiced_booked, invoiced_right, _, .cons (.confirmReturn hreturn)
    (.cons (@ReceivableStep.finance _ (.create _ _) _ _ hcreate)
      (.cons (@ReceivableStep.finance _ (.post _ _) _ _ hpost) (.nil _))), fun hright => ?_⟩
  have horder : (settledBy 100).creditOrder 1 = some ⟨headOffice, 100⟩ := by decide +kernel
  have hreceived : (settledBy 100).received 1 = 100 := by decide +kernel
  have hbalance := hright 1 ⟨headOffice, 100⟩ horder
  change 0 ≤ (100 : ℚ) - (settledBy 100).received 1 - (0 + invoiced.receivableCredit 1 {} 1) at hbalance
  rw [hreceived, invoiced_credit] at hbalance
  norm_num at hbalance

theorem receivableRight_restReceived : ∃ s, Run (Landing ReceivableRight ReceivableStep) { db := invoiced }
      [.confirmReturn headOffice 1 {}, .finance (.create headOffice (receiptOf 40)),
        .finance (.post headOffice 1)] s := by
  obtain ⟨_, hreturn⟩ := commits_leftBy (confirmOrderReturn headOffice 1 {}) invoiced (by decide +kernel)
  obtain ⟨_, hcreate⟩ := commits_leftBy (create headOffice (receiptOf 40)) afterReturn (by decide +kernel)
  obtain ⟨_, hpost⟩ := commits_leftBy (post headOffice 1) (drafted 40) (by decide +kernel)
  refine ⟨_, (receivableRight_run_iff invoiced_booked invoiced_right).mpr
    (.cons ⟨?_, .confirmReturn hreturn⟩ (.cons ⟨?_, @ReceivableStep.finance _ (.create _ _) _ _ hcreate⟩
      (.cons ⟨?_, @ReceivableStep.finance _ (.post _ _) _ _ hpost⟩ (.nil _))))⟩
  · intro row c hrow _ _ hc
    obtain rfl := Option.some.inj hrow
    obtain ⟨_, rfl⟩ := invoiced_creditOrder hc
    have hreceived : invoiced.received 1 = 0 := by decide +kernel
    change invoiced.received 1 + 0 + sixReturned.gross ≤ 100
    rw [hreceived]
    decide +kernel
  · rintro _ ⟨⟩
  · rintro _ ⟨⟩ t k c ht hp hc
    have hrow : ((drafted 40).transactions.find? 1).map
        (fun t => (t.referenceId, t.grossAmount)) = some (some 1, 40) := by decide +kernel
    have horder : (drafted 40).creditOrder 1 = some ⟨headOffice, 100⟩ := by decide +kernel
    have hreceived : (drafted 40).received 1 = 0 := by decide +kernel
    change (drafted 40).transactions.find? 1 = some t at ht
    obtain ⟨_, _, hid⟩ := FinanceTransaction.settles_iff.mp hp
    simp only [ht, Option.map_some, Option.some.injEq, Prod.mk.injEq, hid] at hrow
    obtain ⟨rfl, hgross⟩ := hrow
    obtain rfl := mem_unique horder hc
    refine .inr ?_
    change (drafted 40).received 1 + (0 + invoiced.receivableCredit 1 {} 1) + t.grossAmount ≤ 100
    rw [hreceived, invoiced_credit, hgross]
    norm_num

end Mayatoko.Finance
