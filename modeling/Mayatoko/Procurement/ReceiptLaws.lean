import Mayatoko.Core.Measure
import Mayatoko.Procurement.Schema

/-!
# What holds of posted goods receipts

Confirmations and rejections of receipts in any order, a rejection in two steps. The received
quantities of the order items always are those of the posted receipts and within what was ordered.
A posted receipt is never `REJECTED` exactly if every rejection, when it writes, still finds its
receipt not posted.
-/

namespace Mayatoko.Procurement

open Core Stock Accounting Transit ProcurementDb TableOf

/-- The tables, and the rejections that have read and not yet written. -/
structure ReceiptSystem where
  db : ProcurementDb
  pending : List ℕ := []

inductive ReceiptEvent
  | confirm (scope : TenantScope) (id : ℕ) (dto : ConfirmGoodsReceipt)
  | readRejection (scope : TenantScope) (id : ℕ)
  | writeRejection (id : ℕ) (reason : String)
  | createOrderItem (item : PurchaseOrderItem)
  | createReceipt (receipt : GoodsReceipt)
  | elsewhere (db : ProcurementDb)

/-- One step of any client. New order items and receipts may come at any time, and whatever else
leaves these two tables alone. -/
inductive ReceiptStep : ReceiptSystem → ReceiptEvent → ReceiptSystem → Prop
  | confirm {s : ReceiptSystem} {scope : TenantScope} {id : ℕ} {dto : ConfirmGoodsReceipt}
      {r : GoodsReceipt} {db : ProcurementDb} :
      Commits (Procurement.confirm scope id dto) s.db r db →
      ReceiptStep s (.confirm scope id dto) { s with db }
  | readRejection {s : ReceiptSystem} {scope : TenantScope} {id : ℕ} {db : ProcurementDb} :
      Commits (readForRejection scope id) s.db () db →
      ReceiptStep s (.readRejection scope id) { s with db, pending := id :: s.pending }
  | writeRejection {s : ReceiptSystem} {id : ℕ} {reason : String} {r : GoodsReceipt}
      {db : ProcurementDb} :
      id ∈ s.pending → Commits (Procurement.writeRejection id reason) s.db r db →
      ReceiptStep s (.writeRejection id reason) { s with db, pending := s.pending.erase id }
  | createOrderItem {s : ReceiptSystem} {item : PurchaseOrderItem} {db : ProcurementDb} :
      0 ≤ item.orderedQty → item.receivedQty = 0 →
      Commits (purchaseOrderItem.create item Failure.uniqueViolation) s.db () db →
      ReceiptStep s (.createOrderItem item) { s with db }
  | createReceipt {s : ReceiptSystem} {receipt : GoodsReceipt} {db : ProcurementDb} :
      receipt.operationalStatus.isPosted = false → receipt.accountingEventId = none →
      Commits (goodsReceipt.create receipt Failure.uniqueViolation) s.db () db →
      ReceiptStep s (.createReceipt receipt) { s with db }
  | elsewhere {s : ReceiptSystem} {db : ProcurementDb} :
      db.receipts = s.db.receipts → db.orderItems = s.db.orderItems →
      ReceiptStep s (.elsewhere db) { s with db }

def GoodsReceipt.posted (r : GoodsReceipt) : Bool := r.accountingEventId.isSome

def GoodsReceipt.acceptedOf (r : GoodsReceipt) (orderItemId : ℕ) : ℤ :=
  totalOf GoodsReceiptItem.purchaseOrderItemId (fun i => (i.acceptedQty : ℤ)) r.items orderItemId

def ProcurementDb.postedQty (db : ProcurementDb) (orderItemId : ℕ) : ℤ :=
  db.receipts.sum fun r => if r.posted then r.acceptedOf orderItemId else 0

/-- No posted receipt is rejected, and what order items have received is within what was ordered and
is what the posted receipts accepted. -/
structure ReceiptLaws (s : ReceiptSystem) : Prop where
  status : ∀ r ∈ s.db.receipts, r.posted = true → r.operationalStatus ≠ .rejected
  bounded : ∀ i ∈ s.db.orderItems, i.receivedQty ≤ i.orderedQty
  received : ∀ i ∈ s.db.orderItems, i.receivedQty = s.db.postedQty i.id

/-- A rejection writes to a receipt that is not posted. -/
def RejectedInTime (s : ReceiptSystem) (e : ReceiptEvent) : Prop :=
  ∀ id reason, e = .writeRejection id reason → ∀ r, s.db.receipts.find? id = some r →
    r.operationalStatus.isPosted = false

/-- The received and the ordered quantity of each order item, zero where there is none. -/
def ProcurementDb.receivedQty : ProcurementDb → ℕ → ℤ :=
  purchaseOrderItem.sums PurchaseOrderItem.id PurchaseOrderItem.receivedQty

def ProcurementDb.orderedQty : ProcurementDb → ℕ → ℤ :=
  purchaseOrderItem.sums PurchaseOrderItem.id PurchaseOrderItem.orderedQty

structure Booked (db : ProcurementDb) : Prop where
  posted : ∀ r ∈ db.receipts, r.operationalStatus.isPosted = true → r.posted = true
  closed : ∀ r ∈ db.receipts, r.posted = true →
    r.operationalStatus.isPosted = true ∨ r.operationalStatus = .rejected
  bounded : ∀ k, db.receivedQty k ≤ db.orderedQty k
  received : ∀ k, db.receivedQty k = db.postedQty k

variable {db db' : ProcurementDb} {scope : TenantScope} {id : ℕ} {s s' : ReceiptSystem}
  {e : ReceiptEvent} {r : GoodsReceipt}

lemma sums_of_mem {f : PurchaseOrderItem → ℤ} {i : PurchaseOrderItem} (hi : i ∈ db.orderItems) :
    purchaseOrderItem.sums PurchaseOrderItem.id f db i.id = f i := by
  rw [sums_key]
  change (db.orderItems.find? i.id).elim 0 f = f i
  rw [find?_of_mem hi, Option.elim_some]

lemma Booked.laws_iff (h : Booked s.db) :
    ReceiptLaws s ↔ ∀ r ∈ s.db.receipts, r.posted = true → r.operationalStatus ≠ .rejected := by
  constructor
  · exact fun h => h.status
  · intro hstatus
    refine ⟨hstatus, fun i hi => ?_, fun i hi => ?_⟩
    · have hb := h.bounded i.id
      rwa [receivedQty, orderedQty, sums_of_mem hi, sums_of_mem hi] at hb
    · rw [← h.received i.id, receivedQty, sums_of_mem hi]

/-! ### What a confirmation does -/

lemma findReceipt_commits {e : Failure} (h : Commits (findReceipt scope id e) db r db') :
    db.receipts.find? id = some r ∧ db = db' := by
  simp only [findReceipt, commits_steps] at h
  obtain ⟨hfind, rfl⟩ := h
  exact ⟨(Option.filter_eq_some_iff.mp hfind).1, rfl⟩

lemma leaves_checkInspection {inspectionId : Option ℕ} :
    Leaves (fun db => db) (checkInspection scope r inspectionId) := by
  refine Leaves.ite (leaves_orThrow.bind fun _ => leaves_get.bind fun _ => ?_) leaves_pure
  exact leaves_orThrow.bind fun _ => leaves_require.bind fun _ => leaves_require

lemma leaves_checkSerials (seen : List String) (items : List GoodsReceiptItem) :
    Leaves (fun db => db) (checkSerials seen items) := by
  induction items generalizing seen with
  | nil => exact leaves_pure
  | cons item items ih =>
    refine leaves_get.bind fun _ => Leaves.ite ?_ ?_
    · exact leaves_require.bind fun _ => leaves_refuse.bind fun _ => ih _
    · exact leaves_require.bind fun _ => ih _

lemma leaves_checkNewSerials {serials : List String} : Leaves (fun db => db) (checkNewSerials serials) :=
  leaves_get.bind fun _ => leaves_require

variable {order : ℕ} {u : Unit}

lemma checkRemaining_commits {accepted : ℕ × ℤ} (h : Commits (checkRemaining order accepted) db u db') :
    db = db' ∧ db.receivedQty accepted.1 + accepted.2 ≤ db.orderedQty accepted.1 := by
  simp only [checkRemaining, commits_steps] at h
  obtain ⟨i, hi, hle, rfl⟩ := h
  obtain ⟨hmem, hid⟩ := find?_eq_some.mp (Option.filter_eq_some_iff.mp hi).1
  refine ⟨rfl, ?_⟩
  rw [← hid, receivedQty, orderedQty, sums_of_mem hmem, sums_of_mem hmem]
  omega

lemma checkRemainings_commits {l : List (ℕ × ℤ)} (h : Commits (l.forM (checkRemaining order)) db u db') :
    db = db' ∧ ∀ a ∈ l, db.receivedQty a.1 + a.2 ≤ db.orderedQty a.1 :=
  Commits.forM_check (P := fun a db => db.receivedQty a.1 + a.2 ≤ db.orderedQty a.1)
    (fun _ _ _ h => checkRemaining_commits h) h

lemma lawful_purchaseOrderItem : purchaseOrderItem.Lawful := ⟨fun _ _ => rfl⟩

variable {item : GoodsReceiptItem}

lemma receivedQty_confirmItem :
    Adds ProcurementDb.receivedQty (Pi.single item.purchaseOrderItemId (item.acceptedQty : ℤ))
      (confirmItem r item) := by
  refine Adds.before ?_ fun _ => Part.Apart.lift ⟨fun _ _ => rfl⟩
  exact lawful_purchaseOrderItem.adds_update fun i hi => ⟨hi, hi, hi, rfl⟩

lemma orderedQty_confirmItem : Leaves ProcurementDb.orderedQty (confirmItem r item) := by
  refine Leaves.bind (Adds.leaves ?_) fun _ => Part.Apart.lift ⟨fun _ _ => rfl⟩
  rw [← Pi.single_zero item.purchaseOrderItemId]
  exact lawful_purchaseOrderItem.adds_update fun i hi => ⟨hi, hi, hi, (add_zero _).symm⟩

lemma receipts_confirmItem : Leaves ProcurementDb.receipts (confirmItem r item) :=
  (Apart.update ⟨fun _ _ => rfl⟩).bind fun _ => Part.Apart.lift ⟨fun _ _ => rfl⟩

lemma warehouses_confirmItem : Leaves ProcurementDb.warehouses (confirmItem r item) :=
  (Apart.update ⟨fun _ _ => rfl⟩).bind fun _ => Part.Apart.lift ⟨fun _ _ => rfl⟩

lemma receivedQty_confirmItems :
    Adds ProcurementDb.receivedQty r.acceptedOf (r.items.forM (confirmItem r)) := by
  have hsum : (r.items.map fun item => (Pi.single item.purchaseOrderItemId (item.acceptedQty : ℤ) :
      ℕ → ℤ)).sum = r.acceptedOf := funext fun k => sum_single_apply r.items
  rw [← hsum]
  exact Adds.forM fun item _ => receivedQty_confirmItem

lemma leaves_updateOrder {α : Type} {f : ProcurementDb → α}
    (hf : purchaseOrder.Apart f) : Leaves f (updateOrder order) :=
  leaves_get.bind fun _ => hf.update.bind fun _ => leaves_pure

/-- The receipt `r` was posted and became `r'`. -/
structure Posting (db : ProcurementDb) (r r' : GoodsReceipt) (db' : ProcurementDb) : Prop where
  found : r ∈ db.receipts
  open_ : r.operationalStatus.isPosted = false
  rejected : r.operationalStatus ≠ .rejected
  id_eq : r'.id = r.id
  warehouse_eq : r'.warehouseId = r.warehouseId
  items : r'.items = r.items
  grossTotal : r'.grossTotal = r.gross
  status : r'.operationalStatus.isPosted = true
  posted : r'.posted = true
  warehouses : db'.warehouses = db.warehouses
  receipts : db'.receipts = db.receipts.put r'
  within : ∀ k, db.receivedQty k + r.acceptedOf k ≤ db.orderedQty k ∨ r.acceptedOf k = 0
  receivedQty : db'.receivedQty = db.receivedQty + r.acceptedOf
  orderedQty : db'.orderedQty = db.orderedQty

variable {r' : GoodsReceipt}

/-- A confirmation finds its receipt posted and changes nothing, or posts it. -/
lemma confirm_commits {dto : ConfirmGoodsReceipt} (h : Commits (confirm scope id dto) db r' db') :
    db = db' ∨ ∃ r, Posting db r r' db' := by
  simp only [confirm, commits_steps, commits_ite] at h
  obtain ⟨r, _, hreceipt, h⟩ := h
  obtain ⟨hfind, rfl⟩ := findReceipt_commits hreceipt
  obtain ⟨_, _, rfl⟩ | ⟨hopen, hstatus, _, _, hins, _, _, hser, _, _, hnew, _, _, hchk, _, t₁, hitems, _, t₂,
    horder, ev, t₃, hpost, _, t₄, hconf, hup⟩ := h
  · exact .inl rfl
  · obtain rfl := (leaves_checkInspection _ _ _ hins).symm
    obtain rfl := (leaves_checkSerials _ _ _ _ _ hser).symm
    obtain rfl := (leaves_checkNewSerials _ _ _ hnew).symm
    obtain ⟨rfl, hrem⟩ := checkRemainings_commits hchk
    have hrest {α : Type} (f : ProcurementDb → α) (h₁ : purchaseOrder.Apart f)
        (h₂ : ledgerPart.Apart f) (h₃ : operationalConfirmation.Apart f) : f t₄ = f t₁ := by
      rw [h₃.updateMany _ _ _ hconf, h₂.lift _ _ _ hpost, leaves_updateOrder h₁ _ _ _ horder]
    have hreceipts : t₄.receipts = db.receipts := by
      rw [hrest ProcurementDb.receipts ⟨fun _ _ => rfl⟩ ⟨fun _ _ => rfl⟩ ⟨fun _ _ => rfl⟩]
      exact Leaves.forM (fun _ => receipts_confirmItem) _ _ _ hitems
    have hwarehouses : t₄.warehouses = db.warehouses := by
      rw [hrest ProcurementDb.warehouses ⟨fun _ _ => rfl⟩ ⟨fun _ _ => rfl⟩ ⟨fun _ _ => rfl⟩]
      exact Leaves.forM (fun _ => warehouses_confirmItem) _ _ _ hitems
    have hordered : t₄.orderedQty = db.orderedQty := by
      rw [hrest ProcurementDb.orderedQty ⟨fun _ _ => rfl⟩ ⟨fun _ _ => rfl⟩ ⟨fun _ _ => rfl⟩]
      exact Leaves.forM (fun _ => orderedQty_confirmItem) _ _ _ hitems
    have hreceived : t₄.receivedQty = db.receivedQty + r.acceptedOf := by
      rw [hrest ProcurementDb.receivedQty ⟨fun _ _ => rfl⟩ ⟨fun _ _ => rfl⟩ ⟨fun _ _ => rfl⟩]
      exact receivedQty_confirmItems _ _ _ hitems
    obtain ⟨o, ho, rfl, rfl⟩ := commits_update.mp hup
    have hmem := (find?_eq_some.mp hfind).1
    have hro : r = o := by
      change t₄.receipts.find? r.id = some o at ho
      rw [hreceipts, find?_of_mem hmem] at ho
      exact Option.some.inj ho
    subst hro
    refine .inr ⟨r, hmem, by simpa using hopen, hstatus.1, rfl, rfl, rfl, rfl, ?_, rfl, hwarehouses,
      ?_, fun k => ?_, hreceived, hordered⟩
    · dsimp only
      split <;> rfl
    · exact congrArg (Table.put · _) hreceipts
    · by_cases hk : ∃ item ∈ r.items, item.purchaseOrderItemId = k
      · obtain ⟨item, hitem, rfl⟩ := hk
        exact .inl (hrem _ (mem_tally hitem))
      · push Not at hk
        exact .inr (totalOf_eq_zero hk)

/-! ### What a step does -/

lemma postedQty_put {o : GoodsReceipt} (ho : o ∈ db.receipts) (hid : r.id = o.id)
    (hreceipts : db'.receipts = db.receipts.put r) (k : ℕ) :
    db'.postedQty k = db.postedQty k +
      ((if r.posted then r.acceptedOf k else 0) - if o.posted then o.acceptedOf k else 0) := by
  rw [ProcurementDb.postedQty, hreceipts, Table.sum_put_of_mem ho hid.symm]
  rfl

lemma Booked.not_posted (h : Booked db) (hr : r ∈ db.receipts)
    (hopen : r.operationalStatus.isPosted = false) (hrej : r.operationalStatus ≠ .rejected) :
    r.posted = false := by
  cases hp : r.posted with
  | false => rfl
  | true =>
    rcases h.closed r hr hp with h' | h'
    · rw [hopen] at h'
      cases h'
    · exact absurd h' hrej

lemma Booked.posting (h : Booked db) (hp : Posting db r r' db') : Booked db' := by
  have hmem (x : GoodsReceipt) : x ∈ db'.receipts ↔ x = r' ∨ x ∈ db.receipts ∧ x.id ≠ r'.id := by
    rw [hp.receipts, mem_put]
  refine ⟨fun x hx hst => ?_, fun x hx hpost => ?_, fun k => ?_, fun k => ?_⟩
  · obtain rfl | ⟨hx, _⟩ := (hmem x).mp hx
    · exact hp.posted
    · exact h.posted x hx hst
  · obtain rfl | ⟨hx, _⟩ := (hmem x).mp hx
    · exact .inl hp.status
    · exact h.closed x hx hpost
  · rw [hp.receivedQty, hp.orderedQty, Pi.add_apply]
    rcases hp.within k with hle | hzero
    · exact hle
    · rw [hzero, add_zero]
      exact h.bounded k
  · have hnot := h.not_posted hp.found hp.open_ hp.rejected
    have hsame : r'.acceptedOf k = r.acceptedOf k := by
      rw [GoodsReceipt.acceptedOf, hp.items, GoodsReceipt.acceptedOf]
    rw [postedQty_put hp.found hp.id_eq hp.receipts k, hp.posted, hnot, hp.receivedQty, Pi.add_apply,
      h.received k, hsame]
    simp

lemma readForRejection_commits (h : Commits (readForRejection scope id) db u db') : db = db' := by
  simp only [readForRejection, commits_steps] at h
  obtain ⟨r, _, hfind, _, rfl⟩ := h
  exact (findReceipt_commits hfind).2

lemma writeRejection_commits {reason : String} (h : Commits (writeRejection id reason) db r' db') :
    ∃ r ∈ db.receipts, db.receipts.find? id = some r ∧
      r' = { r with operationalStatus := .rejected, notes := some reason } ∧
      db'.receipts = db.receipts.put r' ∧ db'.orderItems = db.orderItems := by
  simp only [writeRejection, commits_bind] at h
  obtain ⟨_, t, hconf, hup⟩ := h
  obtain ⟨_, rfl⟩ := commits_updateMany.mp hconf
  obtain ⟨r, hr, rfl, rfl⟩ := commits_update.mp hup
  exact ⟨r, (find?_eq_some.mp hr).1, hr, rfl, rfl, rfl⟩

lemma Booked.congr_orderItems (h : Booked db) (hitems : db'.orderItems = db.orderItems)
    (hposted : db'.postedQty = db.postedQty)
    (hp : ∀ r ∈ db'.receipts, r.operationalStatus.isPosted = true → r.posted = true)
    (hc : ∀ r ∈ db'.receipts, r.posted = true →
      r.operationalStatus.isPosted = true ∨ r.operationalStatus = .rejected) : Booked db' := by
  have hsums (f : PurchaseOrderItem → ℤ) : purchaseOrderItem.sums PurchaseOrderItem.id f db' =
      purchaseOrderItem.sums PurchaseOrderItem.id f db := congrArg (Table.sumBy · _ f) hitems
  refine ⟨hp, hc, fun k => ?_, fun k => ?_⟩
  · rw [ProcurementDb.receivedQty, ProcurementDb.orderedQty, hsums, hsums]
    exact h.bounded k
  · rw [ProcurementDb.receivedQty, hsums, hposted]
    exact h.received k

lemma Booked.rejection {reason : String} (h : Booked db)
    (hc : Commits (writeRejection id reason) db r' db') : Booked db' := by
  obtain ⟨r, hr, _, rfl, hreceipts, hitems⟩ := writeRejection_commits hc
  refine h.congr_orderItems hitems (funext fun k => ?_) (fun x hx hst => ?_) fun x hx hpost => ?_
  · rw [postedQty_put (r := { r with operationalStatus := .rejected, notes := some reason }) hr rfl hreceipts]
    exact (congrArg _ (sub_self _)).trans (add_zero _)
  · rw [hreceipts, mem_put] at hx
    obtain rfl | ⟨hx, _⟩ := hx
    · cases hst
    · exact h.posted x hx hst
  · rw [hreceipts, mem_put] at hx
    obtain rfl | ⟨hx, _⟩ := hx
    · exact .inr rfl
    · exact h.closed x hx hpost

lemma Booked.newReceipt {v : Failure} (h : Booked db)
    (hopen : r.operationalStatus.isPosted = false) (hpost : r.accountingEventId = none)
    (hc : Commits (goodsReceipt.create r v) db u db') : Booked db' := by
  obtain ⟨hnone, rfl⟩ := commits_create.mp hc
  have hnot : r.posted = false := by rw [GoodsReceipt.posted, hpost, Option.isSome_none]
  refine h.congr_orderItems rfl (funext fun k => ?_) (fun x hx hst => ?_) fun x hx hp => ?_
  · refine (Table.sum_put_of_not_mem (find?_eq_none.mp hnone) _).trans ?_
    rw [hnot]
    exact add_zero _
  · obtain rfl | ⟨hx, _⟩ := mem_put.mp hx
    · rw [hopen] at hst
      cases hst
    · exact h.posted x hx hst
  · obtain rfl | ⟨hx, _⟩ := mem_put.mp hx
    · rw [hnot] at hp
      cases hp
    · exact h.closed x hx hp

lemma Booked.newOrderItem {item : PurchaseOrderItem} {v : Failure} (h : Booked db)
    (hordered : 0 ≤ item.orderedQty) (hreceived : item.receivedQty = 0)
    (hc : Commits (purchaseOrderItem.create item v) db u db') : Booked db' := by
  obtain ⟨hnone, rfl⟩ := commits_create.mp hc
  have hsums (f : PurchaseOrderItem → ℤ) :
      purchaseOrderItem.sums PurchaseOrderItem.id f (purchaseOrderItem.write db item) =
        purchaseOrderItem.sums PurchaseOrderItem.id f db + Pi.single item.id (f item) :=
    Table.sumBy_put_of_not_mem (find?_eq_none.mp hnone) _ f
  have hrec : (purchaseOrderItem.write db item).receivedQty = db.receivedQty := by
    rw [ProcurementDb.receivedQty, hsums, hreceived, Pi.single_zero, add_zero]
  refine ⟨h.posted, h.closed, fun k => ?_, fun k => ?_⟩
  · have hle : (0 : ℤ) ≤ (Pi.single item.id item.orderedQty : ℕ → ℤ) k := by
      by_cases hk : k = item.id
      · rw [hk, Pi.single_eq_same]
        exact hordered
      · rw [Pi.single_eq_of_ne hk]
    rw [hrec, ProcurementDb.orderedQty, hsums, Pi.add_apply]
    exact (h.bounded k).trans (le_add_of_nonneg_right hle)
  · rw [hrec]
    exact h.received k

lemma booked_step (h : Booked s.db) (hstep : ReceiptStep s e s') : Booked s'.db := by
  cases hstep with
  | confirm hc =>
    rcases confirm_commits hc with rfl | ⟨_, hp⟩
    · exact h
    · exact h.posting hp
  | readRejection hc =>
    obtain rfl := readForRejection_commits hc
    exact h
  | writeRejection _ hc => exact h.rejection hc
  | createOrderItem hordered hreceived hc => exact h.newOrderItem hordered hreceived hc
  | createReceipt hopen hpost hc => exact h.newReceipt hopen hpost hc
  | elsewhere hreceipts hitems =>
    refine h.congr_orderItems hitems (funext fun k => ?_) (fun r hr => ?_) fun r hr => ?_
    · exact congrArg (Table.sum · _) hreceipts
    · exact h.posted r (hreceipts ▸ hr)
    · exact h.closed r (hreceipts ▸ hr)

/-- The laws survive a step exactly if a rejection, when it writes, is in time. -/
lemma receiptLaws_step (hb : Booked s.db) (hs : ReceiptLaws s) (hstep : ReceiptStep s e s') :
    ReceiptLaws s' ↔ RejectedInTime s e := by
  rw [(booked_step hb hstep).laws_iff]
  cases hstep with
  | confirm hc =>
    refine iff_of_true ?_ (fun _ _ h => by cases h)
    rcases confirm_commits hc with rfl | ⟨r, hp⟩
    · exact hs.status
    · intro x hx hpost
      rw [hp.receipts, mem_put] at hx
      obtain rfl | ⟨hx, _⟩ := hx
      · intro hrej
        have hst := hp.status
        rw [hrej] at hst
        cases hst
      · exact hs.status x hx hpost
  | readRejection hc =>
    obtain rfl := readForRejection_commits hc
    exact iff_of_true hs.status fun _ _ h => by cases h
  | @writeRejection id reason _ db _ hc =>
    obtain ⟨r, hr, hfind, rfl, hreceipts, _⟩ := writeRejection_commits hc
    constructor
    · rintro hall _ _ ⟨⟩ x hx
      obtain rfl := mem_unique hfind hx
      by_contra hposted
      have hp := hb.posted r hr (by simpa using hposted)
      have hmem : { r with operationalStatus := .rejected, notes := some reason } ∈ db.receipts := by
        rw [hreceipts]
        exact mem_put_self _ _
      exact hall _ hmem hp rfl
    · intro hcond x hx hpost
      rw [hreceipts, mem_put] at hx
      obtain rfl | ⟨hx, _⟩ := hx
      · have hopen := hcond id reason rfl r hfind
        have hnot := hb.not_posted hr hopen
        by_cases hrej : r.operationalStatus = .rejected
        · exact absurd hrej (hs.status r hr hpost)
        · rw [GoodsReceipt.posted] at hpost
          rw [GoodsReceipt.posted, hpost] at hnot
          cases hnot hrej
      · exact hs.status x hx hpost
  | createOrderItem _ _ hc =>
    obtain ⟨_, rfl⟩ := commits_create.mp hc
    exact iff_of_true hs.status fun _ _ h => by cases h
  | createReceipt _ hnone hc =>
    obtain ⟨_, rfl⟩ := commits_create.mp hc
    refine iff_of_true (fun x hx hpost => ?_) fun _ _ h => by cases h
    obtain rfl | ⟨hx, _⟩ := mem_put.mp hx
    · rw [GoodsReceipt.posted, hnone] at hpost
      cases hpost
    · exact hs.status x hx hpost
  | elsewhere hreceipts _ =>
    exact iff_of_true (fun x hx => hs.status x (hreceipts ▸ hx)) fun _ _ h => by cases h

/-- No receipt that is posted is ever rejected, and received quantities are those of the posted
receipts, in all states of a run exactly if its rejections write in time. -/
theorem receiptLaws_run_iff (hb : Booked s.db) (hs : ReceiptLaws s) {es : List ReceiptEvent} :
    Run (Landing ReceiptLaws ReceiptStep) s es s' ↔
      Run (Guarded RejectedInTime ReceiptStep) s es s' := by
  refine Run.landing_iff_guarded_of_invariant (J := fun s => Booked s.db) ?_ ?_ hb hs
  · exact fun _ _ _ h hstep => booked_step h hstep
  · exact fun _ _ _ hb hs hstep => receiptLaws_step hb hs hstep

/-! ### An order of five units in two receipts -/

def mainBranch : TenantScope := ⟨1, 1⟩

def readyReceipt (id acceptedQty : ℕ) : GoodsReceipt where
  id := id
  purchaseOrderId := 1
  supplierId := 1
  warehouseId := 1
  operationalStatus := .readyToConfirm
  inspectionRequired := false
  items := [{ id := id, purchaseOrderItemId := 1, productId := 1, acceptedQty,
              subtotal := 100 * acceptedQty, grossSubtotal := 100 * acceptedQty }]

def fiveOrdered : ProcurementDb where
  stock := { Db.empty with products := Table.empty.put { id := 1, name := "Beras" } }
  ledger := { AccountingDb.empty with
    postingRules := Table.empty.put
      { id := 1, companyId := 1, code := "PURCHASE", eventType := "PURCHASE_RECEIPT_CREDIT",
        status := .active,
        journalLines := [
          { accountCodeKey := "inventory", side := "DEBIT", amountKey := "inventory" },
          { accountCodeKey := "payable", side := "CREDIT", amountKey := "payable" }] }
    accounts := (Table.empty.put ⟨1, 1, "1301", true⟩).put ⟨2, 1, "2101", true⟩ }
  warehouses := Table.empty.put ⟨1, 1, 1⟩
  suppliers := Table.empty.put ⟨1, 1⟩
  orders := Table.empty.put { id := 1, status := .approved }
  orderItems := Table.empty.put { id := 1, purchaseOrderId := 1, orderedQty := 5 }
  receipts := (Table.empty.put (readyReceipt 1 3)).put (readyReceipt 2 2)
  inspections := .empty
  policies := .empty
  confirmations := .empty

lemma fiveOrdered_receipts (h : r ∈ fiveOrdered.receipts) :
    r.operationalStatus = .readyToConfirm ∧ r.posted = false := by
  obtain rfl | ⟨h, _⟩ := mem_put.mp h
  · exact ⟨rfl, rfl⟩
  · obtain rfl | ⟨h, _⟩ := mem_put.mp h
    · exact ⟨rfl, rfl⟩
    · exact absurd h (not_mem_empty r)

lemma fiveOrdered_booked : Booked fiveOrdered := by
  have hsums (f : PurchaseOrderItem → ℤ) (k : ℕ) : purchaseOrderItem.sums PurchaseOrderItem.id f fiveOrdered k =
        if k = 1 then f { id := 1, purchaseOrderId := 1, orderedQty := 5 } else 0 := by
    rw [sums_key]
    change (fiveOrdered.orderItems.find? k).elim 0 f = _
    rw [fiveOrdered, Table.find?_put, Table.find?_empty]
    split <;> rfl
  refine ⟨fun r hr hst => ?_, fun r hr hp => ?_, fun k => ?_, fun k => ?_⟩
  · rw [(fiveOrdered_receipts hr).1] at hst
    cases hst
  · rw [(fiveOrdered_receipts hr).2] at hp
    cases hp
  · rw [ProcurementDb.receivedQty, ProcurementDb.orderedQty, hsums, hsums]
    split <;> simp
  · rw [ProcurementDb.receivedQty, hsums, ProcurementDb.postedQty, Table.sum_eq_zero]
    · split <;> rfl
    · intro r hr
      rw [(fiveOrdered_receipts hr).2]
      rfl

lemma fiveOrdered_laws : ReceiptLaws { db := fiveOrdered } :=
  fiveOrdered_booked.laws_iff.mpr fun r hr hp => by
    rw [(fiveOrdered_receipts hr).2] at hp
    cases hp

def leftBy {α : Type} (x : ProcurementTx α) (db : ProcurementDb) : ProcurementDb := (execute x db).2

lemma commits_leftBy {α : Type} (x : ProcurementTx α) (db : ProcurementDb) (h : (execute x db).1.isOk = true) :
    ∃ a, Commits x db a (leftBy x db) := by
  cases hx : (execute x db).1 with
  | ok a => exact ⟨a, commits_of_execute hx⟩
  | error e =>
    rw [hx] at h
    cases h

def confirmFirst : ProcurementTx GoodsReceipt := confirm mainBranch 1 {}

def firstPosted : ProcurementDb := leftBy confirmFirst fiveOrdered

lemma commits_readFirst : Commits (readForRejection mainBranch 1) fiveOrdered () fiveOrdered := by
  obtain ⟨_, h⟩ := commits_leftBy (readForRejection mainBranch 1) fiveOrdered (by decide +kernel)
  rwa [← readForRejection_commits h] at h

/-- The rejection has read the first receipt before its confirmation and writes after it. -/
theorem staleRejection_rejectsPosted : Booked fiveOrdered ∧ ReceiptLaws { db := fiveOrdered } ∧
      ∃ s, Run ReceiptStep { db := fiveOrdered }
        [.readRejection mainBranch 1, .confirm mainBranch 1 {}, .writeRejection 1 "Salah kirim"] s ∧
        ¬ ReceiptLaws s := by
  obtain ⟨_, hconfirm⟩ := commits_leftBy confirmFirst fiveOrdered (by decide +kernel)
  obtain ⟨_, hwrite⟩ := commits_leftBy (writeRejection 1 "Salah kirim") firstPosted
    (by decide +kernel)
  refine ⟨fiveOrdered_booked, fiveOrdered_laws, _, .cons (.readRejection commits_readFirst)
    (.cons (.confirm hconfirm) (.cons (.writeRejection mem_cons_self hwrite) (.nil _))), ?_⟩
  intro hlaws
  have hstatus := hlaws.status
  have hrows : ∃ r ∈ (leftBy (writeRejection 1 "Salah kirim") firstPosted).receipts.rows,
      r.posted = true ∧ r.operationalStatus = .rejected := by decide +kernel
  obtain ⟨r, hr, hposted, hrejected⟩ := hrows
  exact hstatus r hr hposted hrejected

theorem receiptLaws_inTime : ∃ s, Run (Landing ReceiptLaws ReceiptStep) { db := fiveOrdered }
      [.confirm mainBranch 1 {}, .readRejection mainBranch 2, .writeRejection 2 "Rusak"] s := by
  obtain ⟨_, hconfirm⟩ := commits_leftBy confirmFirst fiveOrdered (by decide +kernel)
  obtain ⟨_, hread⟩ := commits_leftBy (readForRejection mainBranch 2) firstPosted (by decide +kernel)
  rw [← readForRejection_commits hread] at hread
  obtain ⟨_, hwrite⟩ := commits_leftBy (writeRejection 2 "Rusak") firstPosted
    (by decide +kernel)
  have hopen : ((firstPosted.receipts.find? 2).map GoodsReceipt.operationalStatus).map
      GoodsReceiptOperationalStatus.isPosted = some false := by decide +kernel
  refine ⟨_, (receiptLaws_run_iff fiveOrdered_booked fiveOrdered_laws).mpr
    (.cons ⟨?_, .confirm hconfirm⟩ (.cons ⟨?_, .readRejection hread⟩
      (.cons ⟨?_, .writeRejection mem_cons_self hwrite⟩ (.nil _))))⟩
  · rintro _ _ ⟨⟩
  · rintro _ _ ⟨⟩
  · rintro _ _ ⟨⟩ r hr
    change firstPosted.receipts.find? 2 = some r at hr
    rw [hr] at hopen
    exact Option.some.inj hopen

end Mayatoko.Procurement
