import Mayatoko.Finance.PurchaseReturnFacts
import Mayatoko.Procurement.ReceiptLaws

/-!
# What is owed for goods receipts

Payments and returns reduce what is owed for a posted receipt, from two services. In the rows of a
receipt a debt can be read off: its total, what was paid, what was returned and what of that was set
off. Each call is a step of that debt or leaves it alone, so no more is ever paid and set off than the
total, and no more refunded than the supplier owes.
-/

namespace Mayatoko.Finance

open Core Accounting Transit Procurement FinanceDb

def paysReceipt (id : ℕ) (t : FinanceTransaction) : Bool :=
  t.settles .supplierPayment "GoodsReceipt" id

def refundsReturn (id : ℕ) (t : FinanceTransaction) : Bool :=
  t.settles .supplierRefund "PurchaseReturn" id

namespace FinanceDb

variable (db : FinanceDb)

/-- The sum of `f` over the completed returns of a receipt. -/
def returnedSum (f : PurchaseReturn → ℚ) (goodsReceiptId : ℕ) : ℚ :=
  db.purchaseReturns.sum fun r =>
    if r.goodsReceiptId = some goodsReceiptId ∧ r.status = .completed then f r else 0

def debt (receipt : GoodsReceipt) : Debt ℚ where
  total := receipt.grossTotal
  paid := db.settledSum (paysReceipt receipt.id)
  returned := db.returnedSum PurchaseReturn.amount receipt.id
  offset := db.returnedSum PurchaseReturn.payableOffsetAmount receipt.id

end FinanceDb

structure Split (r : PurchaseReturn) : Prop where
  offset : 0 ≤ r.payableOffsetAmount
  receivable : 0 ≤ r.supplierReceivableAmount
  amount : r.payableOffsetAmount + r.supplierReceivableAmount = r.amount

/-- The payable of no posted receipt is negative, completed returns are split, and no more of a return
is refunded than the supplier owes. -/
structure PayableLaws (db : FinanceDb) : Prop where
  payable : ∀ r ∈ db.procurement.receipts, r.posted = true → 0 ≤ r.grossTotal -
    db.settledSum (paysReceipt r.id) - db.returnedSum PurchaseReturn.payableOffsetAmount r.id
  split : ∀ r ∈ db.purchaseReturns, r.status = .completed → Split r
  refunded : ∀ r ∈ db.purchaseReturns, r.status = .completed →
    db.settledSum (refundsReturn r.id) ≤ r.supplierReceivableAmount

structure ReceiptsSound (db : ProcurementDb) : Prop where
  posted : ∀ r ∈ db.receipts, r.operationalStatus.isPosted = true → r.posted = true
  closed : ∀ r ∈ db.receipts, r.posted = true →
    r.operationalStatus.isPosted = true ∨ r.operationalStatus = .rejected
  priced : ∀ r ∈ db.receipts, Priced r
  total : ∀ r ∈ db.receipts, r.posted = true → 0 ≤ r.grossTotal

structure PayableBooked (db : FinanceDb) : Prop where
  receipts : ReceiptsSound db.procurement
  payments : ∀ t ∈ db.transactions, ∀ k, paysReceipt k t = true → 0 < t.grossAmount ∧
    ∃ r ∈ db.procurement.receipts, r.id = k ∧ r.posted = true ∧
      db.tenantOf r.warehouseId = some ⟨t.companyId, t.branchId⟩
  refunds : ∀ t ∈ db.transactions, ∀ k, refundsReturn k t = true → 0 < t.grossAmount ∧
    ∃ r ∈ db.purchaseReturns, r.id = k ∧ r.status = .completed ∧
      db.tenantOf r.warehouseId = some ⟨t.companyId, t.branchId⟩
  returns : ∀ r ∈ db.purchaseReturns, 0 ≤ r.amount ∧
    ∀ k, r.goodsReceiptId = some k → ∃ receipt ∈ db.procurement.receipts, receipt.id = k ∧
      receipt.posted = true
  sound : ∀ r ∈ db.procurement.receipts, r.posted = true → (db.debt r).Sound
  split : ∀ r ∈ db.purchaseReturns, r.status = .completed → Split r
  refunded : ∀ r ∈ db.purchaseReturns, r.status = .completed →
    db.settledSum (refundsReturn r.id) ≤ r.supplierReceivableAmount

variable {db db' : FinanceDb} {scope : TenantScope} {id : ℕ} {receipt : GoodsReceipt}
  {r row : PurchaseReturn} {t : FinanceTransaction} {dto : CreateFinanceTransaction}
  {tax : TaxedAmount} {exclude posts : Option ℕ}

lemma PayableBooked.laws (h : PayableBooked db) : PayableLaws db := by
  refine ⟨fun r hr hposted => ?_, h.split, h.refunded⟩
  have hsettled := (h.sound r hr hposted).settled
  rw [sub_sub]
  exact sub_nonneg.mpr hsettled

/-! ### What the checks compare with -/

lemma supplierPayableSnapshot_commits {q : ℕ × Position ℚ}
    (h : Commits (supplierPayableSnapshot scope id exclude) db q db') :
    ∃ r ∈ db.procurement.receipts, r.id = id ∧ db.tenantOf r.warehouseId = some scope ∧
      r.operationalStatus.isPosted = true ∧
      q.2 = position (r.grossTotal - db.returnedSum PurchaseReturn.amount r.id)
        (db.settlements scope (paysReceipt r.id) exclude) := by
  simp only [supplierPayableSnapshot, commits_steps] at h
  obtain ⟨r, _, hreceipt, hposted, rfl, rfl⟩ := h
  obtain ⟨rfl, hmem, hid, htenant⟩ := findReceipt_spec hreceipt
  refine ⟨r, hmem, hid, htenant, hposted, ?_⟩
  have hsum : ((db.completedReturns r.id).map PurchaseReturn.amount).sum =
      db.returnedSum PurchaseReturn.amount r.id := by
    rw [completedReturns, Table.sum_findMany]
    simp [returnedSum]
  rw [hsum]
  rfl

lemma supplierRefundSnapshot_commits {q : PurchaseReturn × Position ℚ}
    (h : Commits (supplierRefundSnapshot scope id exclude) db q db') :
    ∃ r ∈ db.purchaseReturns, r.id = id ∧ r.status = .completed ∧
      db.tenantOf r.warehouseId = some scope ∧
      q.2 = position r.supplierReceivableAmount
        (db.settlements scope (refundsReturn r.id) exclude) := by
  simp only [supplierRefundSnapshot, commits_steps] at h
  obtain ⟨r, hr, w, hw, _, _, hsupplier, rfl, rfl⟩ := h
  obtain rfl := readOnly_findSupplier.eq hsupplier
  obtain ⟨hfind, hstatus⟩ := Option.filter_eq_some_iff.mp hr
  obtain ⟨hmem, hid⟩ := find?_eq_some.mp hfind
  simp only [cond_iff] at hstatus
  refine ⟨r, hmem, hid, hstatus.1, tenantOf_of_filter ?_, rfl⟩
  obtain ⟨hfind, hscope⟩ := Option.filter_eq_some_iff.mp hw
  rw [hfind]
  exact hscope

lemma recheck_pays (h : Commits (t.recheck scope) db () db) (hp : paysReceipt id t = true) :
    ∃ q, Commits (supplierPayableSnapshot scope id (some t.id)) db q db ∧
      t.grossAmount ≤ q.2.available := by
  obtain ⟨htype, hreference, hid⟩ := FinanceTransaction.settles_iff.mp hp
  simp only [FinanceTransaction.recheck, htype, FinanceTransaction.recheckSupplierPayment, hreference,
    hid, supplierPayableReferenceSnapshot, FinanceTransaction.requireAvailable, commits_bind,
    commits_orThrow, commits_require, Option.some.injEq] at h
  obtain ⟨_, _, ⟨rfl, rfl⟩, _, _, ⟨rfl, rfl⟩, _, _, ⟨_, rfl⟩, q, _, hsnapshot, hle, rfl⟩ := h
  rw [if_pos rfl] at hsnapshot
  exact ⟨q, hsnapshot, hle⟩

lemma recheck_refunds (h : Commits (t.recheck scope) db () db) (hp : refundsReturn id t = true) :
    ∃ q, Commits (supplierRefundSnapshot scope id (some t.id)) db q db ∧
      t.grossAmount ≤ q.2.available := by
  obtain ⟨htype, hreference, hid⟩ := FinanceTransaction.settles_iff.mp hp
  simp only [FinanceTransaction.recheck, htype, FinanceTransaction.recheckSupplierRefund, hid,
    FinanceTransaction.requireAvailable, commits_steps, Option.some.injEq] at h
  obtain ⟨_, q, _, hsnapshot, hle, rfl⟩ := h
  exact ⟨q, hsnapshot, hle⟩

lemma Created.pays (h : Created scope dto db tax t db') (hp : paysReceipt id t = true) :
    0 < t.grossAmount ∧ ∃ r ∈ db.procurement.receipts, r.id = id ∧
      r.operationalStatus.isPosted = true ∧
      db.tenantOf r.warehouseId = some ⟨t.companyId, t.branchId⟩ := by
  obtain ⟨htype, hreference, hid⟩ := FinanceTransaction.settles_iff.mp hp
  obtain ⟨_, _, rfl⟩ := h.row
  have hchecked := h.checked
  dsimp only [CreateFinanceTransaction.row] at htype hreference hid
  simp only [CreateFinanceTransaction.checkNew, htype, CreateFinanceTransaction.checkSupplierPayment,
    hreference, hid, CreateFinanceTransaction.requireAvailable, commits_steps, Option.some.injEq] at hchecked
  obtain ⟨_, _, _, htax, _, _, _, hasset, q, _, hsnapshot, _, _, hparty, hpos, _⟩ := hchecked
  obtain rfl := ReadOnly.eq leaves_require htax
  obtain rfl := readOnly_requireAsset.eq hasset
  rw [supplierPayableReferenceSnapshot, if_pos rfl] at hsnapshot
  obtain ⟨r, hr, hrid, htenant, hposted, _⟩ := supplierPayableSnapshot_commits hsnapshot
  exact ⟨hpos, r, hr, hrid, hposted, htenant⟩

lemma Created.refunds (h : Created scope dto db tax t db') (hp : refundsReturn id t = true) :
    0 < t.grossAmount ∧ ∃ r ∈ db.purchaseReturns, r.id = id ∧ r.status = .completed ∧
      db.tenantOf r.warehouseId = some ⟨t.companyId, t.branchId⟩ := by
  obtain ⟨htype, hreference, hid⟩ := FinanceTransaction.settles_iff.mp hp
  obtain ⟨_, _, rfl⟩ := h.row
  have hchecked := h.checked
  dsimp only [CreateFinanceTransaction.row] at htype hreference hid
  simp only [CreateFinanceTransaction.checkNew, htype, CreateFinanceTransaction.checkSupplierRefund, hid,
    CreateFinanceTransaction.requireAvailable, commits_steps, Option.some.injEq] at hchecked
  obtain ⟨_, _, _, htax, _, _, _, hasset, q, _, hsnapshot, _, _, hparty, hpos, _⟩ := hchecked
  obtain rfl := ReadOnly.eq leaves_require htax
  obtain rfl := readOnly_requireAsset.eq hasset
  obtain ⟨r, hr, hrid, hstatus, htenant, _⟩ := supplierRefundSnapshot_commits hsnapshot
  exact ⟨hpos, r, hr, hrid, hstatus, htenant⟩

/-! ### Finance calls -/

lemma ReceiptsSound.congr {pdb pdb' : ProcurementDb} (h : ReceiptsSound pdb)
    (heq : pdb'.receipts = pdb.receipts) : ReceiptsSound pdb' := by
  obtain ⟨hposted, hclosed, hpriced, htotal⟩ := h
  rw [← heq] at hposted hclosed hpriced htotal
  exact ⟨hposted, hclosed, hpriced, htotal⟩

lemma PayableBooked.tenant_of_pays (h : PayableBooked db) (hr : receipt ∈ db.procurement.receipts)
    (htenant : db.tenantOf receipt.warehouseId = some scope) (ht : t ∈ db.transactions)
    (hp : paysReceipt receipt.id t = true) :
    t.companyId = scope.companyId ∧ t.branchId = scope.branchId := by
  obtain ⟨_, r, hr', hid, _, htenant'⟩ := h.payments t ht _ hp
  obtain rfl := eq_of_key_eq hr' hr hid
  obtain rfl := mem_unique htenant' htenant
  exact ⟨rfl, rfl⟩

lemma PayableBooked.tenant_of_refunds (h : PayableBooked db) (hr : r ∈ db.purchaseReturns)
    (htenant : db.tenantOf r.warehouseId = some scope) (ht : t ∈ db.transactions)
    (hp : refundsReturn r.id t = true) :
    t.companyId = scope.companyId ∧ t.branchId = scope.branchId := by
  obtain ⟨_, r', hr', hid, _, htenant'⟩ := h.refunds t ht _ hp
  obtain rfl := eq_of_key_eq hr' hr hid
  obtain rfl := mem_unique htenant' htenant
  exact ⟨rfl, rfl⟩

lemma Wrote.debt (h : Wrote scope posts db db') (hb : PayableBooked db)
    (hr : receipt ∈ db.procurement.receipts) :
    db'.debt receipt = db.debt receipt ∨ (db.debt receipt).Step (db'.debt receipt) := by
  obtain ⟨nextId, transactions, ledger, payments, heq⟩ := h.exists_eq
  have hreturned (f : PurchaseReturn → ℚ) : db'.returnedSum f receipt.id =
      db.returnedSum f receipt.id := by rw [heq]; rfl
  have hdebt : db'.debt receipt = { db.debt receipt with paid := db'.settledSum (paysReceipt receipt.id) } := by
    rw [FinanceDb.debt, hreturned, hreturned]
    rfl
  rcases h.settledSum (p := paysReceipt receipt.id) fun _ _ _ => rfl with
    hsame | ⟨t, _, hpost, hp, hsum⟩
  · rw [hdebt, hsame]
    exact .inl rfl
  · obtain ⟨hpos, _⟩ := hb.payments t hpost.found _ hp
    obtain ⟨q, hsnapshot, hle⟩ := recheck_pays hpost.rechecked hp
    obtain ⟨r, hr', hid, htenant, _, hq⟩ := supplierPayableSnapshot_commits hsnapshot
    obtain rfl := eq_of_key_eq hr' hr hid
    rw [hq] at hle
    have hfits := hpost.fits (fun x hx hp => hb.tenant_of_pays hr htenant hx hp)
      (fun x hx hp => (hb.payments x hx _ hp).1.le) hpos hle
    rw [hdebt, hsum]
    exact .inr (.pay hpos hfits)

lemma Wrote.refunded (h : Wrote scope posts db db') (hb : PayableBooked db) (hr : r ∈ db.purchaseReturns)
    (hcompleted : r.status = .completed) :
    db'.settledSum (refundsReturn r.id) ≤ r.supplierReceivableAmount := by
  have hbefore := hb.refunded r hr hcompleted
  rcases h.settledSum (p := refundsReturn r.id) fun _ _ _ => rfl with
    hsame | ⟨t, _, hpost, hp, hsum⟩
  · rwa [hsame]
  · obtain ⟨hpos, _⟩ := hb.refunds t hpost.found _ hp
    obtain ⟨q, hsnapshot, hle⟩ := recheck_refunds hpost.rechecked hp
    obtain ⟨r', hr', hid, _, htenant, hq⟩ := supplierRefundSnapshot_commits hsnapshot
    obtain rfl := eq_of_key_eq hr' hr hid
    rw [hq] at hle
    have hfits := hpost.fits (fun x hx hp => hb.tenant_of_refunds hr htenant hx hp)
      (fun x hx hp => (hb.refunds x hx _ hp).1.le) hpos hle
    rw [hsum]
    exact add_le_of_le_rest hpos hfits

lemma PayableBooked.wrote (hb : PayableBooked db) (h : Wrote scope posts db db') : PayableBooked db' := by
  obtain ⟨nextId, transactions, ledger, payments, heq⟩ := h.exists_eq
  have hreceipts : db'.procurement.receipts = db.procurement.receipts := by rw [heq]
  have hreturns : db'.purchaseReturns = db.purchaseReturns := by rw [heq]
  have htenants : db'.tenantOf = db.tenantOf := by rw [heq]; rfl
  have hpayments := h.forall_rows (P := fun t => ∀ k, paysReceipt k t = true → 0 < t.grossAmount ∧
    ∃ r ∈ db.procurement.receipts, r.id = k ∧ r.posted = true ∧
      db.tenantOf r.warehouseId = some ⟨t.companyId, t.branchId⟩) (fun _ _ _ ht => ht)
    (fun _ _ _ hc k hp => by
      obtain ⟨hpos, r, hr, hid, hposted, htenant⟩ := hc.pays hp
      exact ⟨hpos, r, hr, hid, hb.receipts.posted r hr hposted, htenant⟩) hb.payments
  have hrefunds := h.forall_rows (P := fun t => ∀ k, refundsReturn k t = true → 0 < t.grossAmount ∧
    ∃ r ∈ db.purchaseReturns, r.id = k ∧ r.status = .completed ∧
      db.tenantOf r.warehouseId = some ⟨t.companyId, t.branchId⟩) (fun _ _ _ ht => ht)
    (fun _ _ _ hc k hp => hc.refunds hp) hb.refunds
  refine ⟨hb.receipts.congr hreceipts, ?_, ?_, ?_, ?_, ?_, ?_⟩
  · rwa [hreceipts, htenants]
  · rwa [hreturns, htenants]
  · rw [hreturns, hreceipts]
    exact hb.returns
  · intro r hr hposted
    rw [hreceipts] at hr
    rcases h.debt hb hr with hsame | hstep
    · rw [hsame]
      exact hb.sound r hr hposted
    · exact hstep.sound (hb.sound r hr hposted)
  · rw [hreturns]
    exact hb.split
  · intro r hr hcompleted
    rw [hreturns] at hr
    exact h.refunded hb hr hcompleted

/-! ### Supplier returns -/

lemma PayableBooked.requested (hb : PayableBooked db) (h : ReturnRequested scope db receipt r db') :
    PayableBooked db' := by
  have hnew := find?_eq_none.mp h.fresh
  have hold {x : PurchaseReturn} (hx : x ∈ db.purchaseReturns) : x ∈ db'.purchaseReturns := by
    rw [h.purchaseReturns]
    exact mem_put.mpr (Or.inr ⟨hx, hnew x hx⟩)
  have hcompleted {x : PurchaseReturn} (hx : x ∈ db'.purchaseReturns) (hs : x.status = .completed) :
      x ∈ db.purchaseReturns := by
    rw [h.purchaseReturns] at hx
    obtain rfl | ⟨hx, _⟩ := mem_put.mp hx
    · rw [h.status] at hs
      cases hs
    · exact hx
  have htenants : db'.tenantOf = db.tenantOf := by
    funext w
    rw [tenantOf, h.warehouses]
    rfl
  have hsettled : db'.settledSum = db.settledSum := by
    funext p
    rw [FinanceDb.settledSum, h.transactions]
    rfl
  have hreturned : db'.returnedSum = db.returnedSum := by
    funext f k
    rw [returnedSum, h.purchaseReturns, Table.sum_put_of_not_mem hnew, h.status]
    simp [returnedSum]
  refine ⟨hb.receipts.congr h.receipts, ?_, ?_, ?_, ?_, ?_, ?_⟩
  · rw [h.transactions, h.receipts, htenants]
    exact hb.payments
  · rw [h.transactions, htenants]
    intro t ht k hp
    obtain ⟨hpos, x, hx, hrest⟩ := hb.refunds t ht k hp
    exact ⟨hpos, x, hold hx, hrest⟩
  · rw [h.receipts]
    intro x hx
    rw [h.purchaseReturns] at hx
    obtain rfl | ⟨hx, _⟩ := mem_put.mp hx
    · refine ⟨h.amount (hb.receipts.priced receipt h.found), fun k hk => ?_⟩
      rw [h.receiptId] at hk
      exact ⟨receipt, h.found, Option.some.inj hk, hb.receipts.posted receipt h.found h.posted⟩
    · exact hb.returns x hx
  · rw [h.receipts]
    intro x hx hposted
    have hdebt : db'.debt x = db.debt x := by
      rw [FinanceDb.debt, hsettled, hreturned]
      rfl
    rw [hdebt]
    exact hb.sound x hx hposted
  · exact fun x hx hs => hb.split x (hcompleted hx hs) hs
  · rw [hsettled]
    exact fun x hx hs => hb.refunded x (hcompleted hx hs) hs

lemma openPayable_eq (hb : PayableBooked db) (hr : receipt ∈ db.procurement.receipts)
    (htenant : db.tenantOf receipt.warehouseId = some scope) (hrow : row ∈ db.purchaseReturns)
    (hopen : row.status ≠ .completed) :
    db.openPayable scope receipt row.id = (db.debt receipt).openAmount := by
  have hreturned : db.completedReturnAmount receipt.id row.id =
      db.returnedSum PurchaseReturn.amount receipt.id := by
    rw [completedReturnAmount, returnsOf, Table.findMany, List.filter_filter]
    refine (Table.sum_findMany db.purchaseReturns _ _).trans (Table.sum_congr fun x hx => ?_)
    by_cases hs : x.status = .completed
    · have hne : x.id ≠ row.id := by
        intro hid
        rw [eq_of_key_eq hx hrow hid] at hs
        exact hopen hs
      simp [hs, hne, usesReceipt]
    · simp [hs]
  have hpaid : db.paidAmount scope receipt.id = db.settledSum (paysReceipt receipt.id) := by
    refine (Table.sum_findMany db.transactions _ _).trans (Table.sum_congr fun t ht => ?_)
    by_cases hp : paysReceipt receipt.id t = true
    · obtain ⟨hcompany, hbranch⟩ := hb.tenant_of_pays hr htenant ht hp
      rw [paysReceipt] at hp
      simp [paysReceipt, hp, hcompany, hbranch, FinanceTransaction.settledAmount]
    · rw [paysReceipt] at hp
      simp [paysReceipt, hp]
  rw [openPayable, hreturned, hpaid]
  rfl

namespace ReturnConfirmed

variable (h : ReturnConfirmed scope db receipt row r db')
include h

lemma returnedSum_eq (f : PurchaseReturn → ℚ) (k : ℕ) :
    db'.returnedSum f k = db.returnedSum f k + if receipt.id = k then f r else 0 := by
  rw [FinanceDb.returnedSum, h.purchaseReturns, Table.sum_put_of_mem h.found h.id_eq.symm]
  have hzero : ¬ (row.goodsReceiptId = some k ∧ row.status = .completed) := fun hc => h.open_ hc.2
  rw [if_neg hzero, sub_zero, h.receiptId_eq, h.receiptId, h.status]
  simp [FinanceDb.returnedSum]

lemma settledSum_eq : db'.settledSum = db.settledSum := by
  funext p
  rw [FinanceDb.settledSum, h.transactions]
  rfl

lemma debt (hb : PayableBooked db) {x : GoodsReceipt} (hx : x ∈ db.procurement.receipts) :
    db'.debt x = db.debt x ∨ (db.debt x).Step (db'.debt x) := by
  have hdebt : db'.debt x = { db.debt x with
      returned := (db.debt x).returned + if receipt.id = x.id then r.amount else 0
      offset := (db.debt x).offset + if receipt.id = x.id then r.payableOffsetAmount else 0 } := by
    rw [FinanceDb.debt, h.settledSum_eq, h.returnedSum_eq, h.returnedSum_eq]
    rfl
  by_cases hid : receipt.id = x.id
  · obtain rfl := eq_of_key_eq h.source hx hid
    rw [hdebt, if_pos rfl, if_pos rfl, h.offset, h.amount, openPayable_eq hb h.source h.tenant h.found h.open_]
    exact .inr (.credit (hb.returns row h.found).1)
  · rw [hdebt, if_neg hid, if_neg hid, add_zero, add_zero]
    exact .inl rfl

lemma split (hb : PayableBooked db) : Split r := by
  have hnonneg := (hb.returns row h.found).1
  have hoffset := h.offset
  rw [openPayable_eq hb h.source h.tenant h.found h.open_] at hoffset
  refine ⟨?_, ?_, ?_⟩
  · rw [hoffset]
    exact Debt.offset_nonneg hnonneg
  · rw [h.receivable, hoffset]
    exact sub_nonneg.mpr (min_le_left _ _)
  · rw [h.receivable, h.amount]
    exact add_sub_cancel _ _

lemma refunds_eq_zero (hb : PayableBooked db) : db'.settledSum (refundsReturn r.id) = 0 := by
  rw [h.settledSum_eq, h.id_eq]
  refine Table.sum_eq_zero fun t ht => if_neg fun hp => ?_
  obtain ⟨_, x, hx, hid, hs, _⟩ := hb.refunds t ht _ hp
  rw [eq_of_key_eq hx h.found hid] at hs
  exact h.open_ hs

end ReturnConfirmed

lemma PayableBooked.confirmed (hb : PayableBooked db)
    (h : ReturnConfirmed scope db receipt row r db') : PayableBooked db' := by
  have htenants : db'.tenantOf = db.tenantOf := by
    funext w
    rw [tenantOf, h.warehouses]
    rfl
  have hmem {x : PurchaseReturn} (hx : x ∈ db'.purchaseReturns) :
      x = r ∨ x ∈ db.purchaseReturns ∧ x.id ≠ r.id := by
    rwa [h.purchaseReturns, mem_put] at hx
  refine ⟨hb.receipts.congr h.receipts, ?_, ?_, ?_, ?_, ?_, ?_⟩
  · rw [h.transactions, h.receipts, htenants]
    exact hb.payments
  · rw [h.transactions, htenants]
    intro t ht k hp
    obtain ⟨hpos, x, hx, hid, hs, htenant⟩ := hb.refunds t ht k hp
    have hne : x.id ≠ r.id := by
      intro hxr
      rw [eq_of_key_eq hx h.found (hxr.trans h.id_eq)] at hs
      exact h.open_ hs
    refine ⟨hpos, x, ?_, hid, hs, htenant⟩
    rw [h.purchaseReturns]
    exact mem_put.mpr (Or.inr ⟨hx, hne⟩)
  · rw [h.receipts]
    intro x hx
    obtain rfl | ⟨hx, _⟩ := hmem hx
    · rw [h.amount, h.receiptId_eq]
      exact hb.returns row h.found
    · exact hb.returns x hx
  · rw [h.receipts]
    intro x hx hposted
    rcases h.debt hb hx with hsame | hstep
    · rw [hsame]
      exact hb.sound x hx hposted
    · exact hstep.sound (hb.sound x hx hposted)
  · intro x hx hs
    obtain rfl | ⟨hx, _⟩ := hmem hx
    · exact h.split hb
    · exact hb.split x hx hs
  · intro x hx hs
    obtain rfl | ⟨hx, _⟩ := hmem hx
    · rw [h.refunds_eq_zero hb]
      exact (h.split hb).receivable
    · rw [h.settledSum_eq]
      exact hb.refunded x hx hs

/-! ### Everything else -/

/-- Whatever else happens: finance transactions and supplier returns stay as they are, posted receipts
keep their total, and warehouses stay in their branch. -/
structure PayableElsewhere (db db' : FinanceDb) : Prop where
  transactions : db'.transactions = db.transactions
  purchaseReturns : db'.purchaseReturns = db.purchaseReturns
  tenants : ∀ w scope, db.tenantOf w = some scope → db'.tenantOf w = some scope
  receipts : ReceiptsSound db'.procurement
  kept : ∀ r ∈ db.procurement.receipts, r.posted = true → ∃ r' ∈ db'.procurement.receipts,
    r'.id = r.id ∧ r'.posted = true ∧ r'.grossTotal = r.grossTotal ∧ r'.warehouseId = r.warehouseId

namespace PayableElsewhere

variable (h : PayableElsewhere db db')
include h

lemma settledSum_eq : db'.settledSum = db.settledSum := by
  funext p
  rw [FinanceDb.settledSum, h.transactions]
  rfl

lemma returnedSum_eq : db'.returnedSum = db.returnedSum := by
  funext f k
  rw [FinanceDb.returnedSum, h.purchaseReturns]
  rfl

lemma debt_of_new (hb : PayableBooked db)
    (hnew : ∀ r ∈ db.procurement.receipts, r.id = receipt.id → r.posted = false) :
    db'.debt receipt = ⟨receipt.grossTotal, 0, 0, 0⟩ := by
  have hpaid : db.settledSum (paysReceipt receipt.id) = 0 := by
    refine Table.sum_eq_zero fun t ht => if_neg fun hp => ?_
    obtain ⟨_, r, hr, hid, hposted, _⟩ := hb.payments t ht _ hp
    rw [hnew r hr hid] at hposted
    cases hposted
  have hreturned (f : PurchaseReturn → ℚ) : db.returnedSum f receipt.id = 0 := by
    refine Table.sum_eq_zero fun x hx => if_neg fun hc => ?_
    obtain ⟨r, hr, hid, hposted⟩ := (hb.returns x hx).2 _ hc.1
    rw [hnew r hr hid] at hposted
    cases hposted
  rw [FinanceDb.debt, h.settledSum_eq, h.returnedSum_eq, hpaid, hreturned, hreturned]

end PayableElsewhere

lemma PayableBooked.elsewhere (hb : PayableBooked db) (h : PayableElsewhere db db') : PayableBooked db' := by
  refine ⟨h.receipts, ?_, ?_, ?_, ?_, ?_, ?_⟩
  · rw [h.transactions]
    intro t ht k hp
    obtain ⟨hpos, r, hr, hid, hposted, htenant⟩ := hb.payments t ht k hp
    obtain ⟨r', hr', hid', hposted', _, hwarehouse⟩ := h.kept r hr hposted
    refine ⟨hpos, r', hr', hid'.trans hid, hposted', ?_⟩
    rw [hwarehouse]
    exact h.tenants _ _ htenant
  · rw [h.transactions, h.purchaseReturns]
    intro t ht k hp
    obtain ⟨hpos, r, hr, hid, hs, htenant⟩ := hb.refunds t ht k hp
    exact ⟨hpos, r, hr, hid, hs, h.tenants _ _ htenant⟩
  · rw [h.purchaseReturns]
    intro x hx
    refine ⟨(hb.returns x hx).1, fun k hk => ?_⟩
    obtain ⟨r, hr, hid, hposted⟩ := (hb.returns x hx).2 k hk
    obtain ⟨r', hr', hid', hposted', _⟩ := h.kept r hr hposted
    exact ⟨r', hr', hid'.trans hid, hposted'⟩
  · intro r' hr' hposted'
    by_cases hold : ∃ r ∈ db.procurement.receipts, r.id = r'.id ∧ r.posted = true
    · obtain ⟨r, hr, hid, hposted⟩ := hold
      obtain ⟨r'', hr'', hid'', _, htotal, _⟩ := h.kept r hr hposted
      obtain rfl := eq_of_key_eq hr'' hr' (hid''.trans hid)
      have hdebt : db'.debt r'' = db.debt r := by
        rw [FinanceDb.debt, h.settledSum_eq, h.returnedSum_eq, htotal, hid'']
        rfl
      rw [hdebt]
      exact hb.sound r hr hposted
    · have hnew : ∀ r ∈ db.procurement.receipts, r.id = r'.id → r.posted = false := by
        intro r hr hid
        by_contra hposted
        exact hold ⟨r, hr, hid, by simpa using hposted⟩
      rw [h.debt_of_new hb hnew]
      exact ⟨by simpa using h.receipts.total r' hr' hposted', le_refl _⟩
  · rw [h.purchaseReturns]
    exact hb.split
  · rw [h.purchaseReturns, h.settledSum_eq]
    exact hb.refunded

/-- The confirmation of a goods receipt posts a new receipt and keeps the others. -/
lemma confirm_elsewhere {dto : ConfirmGoodsReceipt} (hs : ReceiptsSound db.procurement)
    (h : Commits (procurementPart.lift (Procurement.confirm scope id dto)) db receipt db') :
    PayableElsewhere db db' := by
  obtain ⟨pdb, hc, rfl⟩ := Part.commits_lift.mp h
  rcases confirm_commits hc with rfl | ⟨r, hp⟩
  · exact ⟨rfl, rfl, fun _ _ hw => hw, hs, fun r hr hposted => ⟨r, hr, rfl, hposted, rfl, rfl⟩⟩
  have hmem {x : GoodsReceipt} (hx : x ∈ pdb.receipts) :
      x = receipt ∨ x ∈ db.procurement.receipts ∧ x.id ≠ receipt.id := by
    rwa [hp.receipts, mem_put] at hx
  have hpriced : Priced receipt := by
    intro i hi
    rw [hp.items] at hi
    exact hs.priced r hp.found i hi
  have htotal : receipt.grossTotal = receipt.gross := by
    rw [hp.grossTotal, GoodsReceipt.gross, GoodsReceipt.gross, hp.items]
  refine ⟨rfl, rfl, fun w scope hw => ?_, ⟨?_, ?_, ?_, ?_⟩, ?_⟩
  · rw [tenantOf] at hw ⊢
    exact hp.warehouses ▸ hw
  · intro x hx hposted
    obtain rfl | ⟨hx, _⟩ := hmem hx
    · exact hp.posted
    · exact hs.posted x hx hposted
  · intro x hx hposted
    obtain rfl | ⟨hx, _⟩ := hmem hx
    · exact .inl hp.status
    · exact hs.closed x hx hposted
  · intro x hx
    obtain rfl | ⟨hx, _⟩ := hmem hx
    · exact hpriced
    · exact hs.priced x hx
  · intro x hx hposted
    obtain rfl | ⟨hx, _⟩ := hmem hx
    · rw [htotal]
      exact hpriced.gross_nonneg
    · exact hs.total x hx hposted
  · intro x hx hposted
    have hne : x.id ≠ receipt.id := by
      intro hid
      obtain rfl := eq_of_key_eq hx hp.found (hid.trans hp.id_eq)
      rcases hs.closed x hx hposted with hst | hst
      · rw [hp.open_] at hst
        cases hst
      · exact hp.rejected hst
    refine ⟨x, ?_, rfl, hposted, rfl, rfl⟩
    change x ∈ pdb.receipts
    rw [hp.receipts]
    exact mem_put.mpr (Or.inr ⟨hx, hne⟩)

/-! ### Runs -/

inductive PayableEvent
  | finance (call : FinanceCall)
  | createReturn (scope : TenantScope) (dto : CreatePurchaseReturn)
  | confirmReturn (scope : TenantScope) (id : ℕ) (dto : ConfirmReturn)
  | confirmReceipt (scope : TenantScope) (id : ℕ) (dto : ConfirmGoodsReceipt)
  | elsewhere

inductive PayableStep : FinanceDb → PayableEvent → FinanceDb → Prop
  | finance {db db' : FinanceDb} {call : FinanceCall} {t : FinanceTransaction} :
      Commits call.tx db t db' → PayableStep db (.finance call) db'
  | createReturn {db db' : FinanceDb} {scope : TenantScope} {dto : CreatePurchaseReturn}
      {r : PurchaseReturn} :
      Commits (createPurchaseReturn scope dto) db r db' → PayableStep db (.createReturn scope dto) db'
  | confirmReturn {db db' : FinanceDb} {scope : TenantScope} {id : ℕ} {dto : ConfirmReturn}
      {r : PurchaseReturn} :
      Commits (confirmPurchaseReturn scope id dto) db r db' →
      PayableStep db (.confirmReturn scope id dto) db'
  | confirmReceipt {db db' : FinanceDb} {scope : TenantScope} {id : ℕ} {dto : ConfirmGoodsReceipt}
      {r : GoodsReceipt} :
      Commits (procurementPart.lift (Procurement.confirm scope id dto)) db r db' →
      PayableStep db (.confirmReceipt scope id dto) db'
  | elsewhere {db db' : FinanceDb} : PayableElsewhere db db' → PayableStep db .elsewhere db'

lemma PayableBooked.step {e : PayableEvent} (hb : PayableBooked db) (h : PayableStep db e db') :
    PayableBooked db' := by
  cases h with
  | finance hc => exact hb.wrote (FinanceCall.wrote hc)
  | createReturn hc =>
    obtain ⟨receipt, hr⟩ := createPurchaseReturn_commits hc
    exact hb.requested hr
  | confirmReturn hc =>
    obtain ⟨receipt, row, hr⟩ := confirmPurchaseReturn_commits hc
    exact hb.confirmed hr
  | confirmReceipt hc => exact hb.elsewhere (confirm_elsewhere hb.receipts hc)
  | elsewhere he => exact hb.elsewhere he

structure PayableOpening (db : FinanceDb) : Prop where
  receipts : ReceiptsSound db.procurement
  transactions : ∀ t ∈ db.transactions, t.type ≠ .supplierPayment ∧ t.type ≠ .supplierRefund
  purchaseReturns : db.purchaseReturns = .empty

lemma PayableOpening.booked (h : PayableOpening db) : PayableBooked db := by
  have hpays {t : FinanceTransaction} (ht : t ∈ db.transactions) (k : ℕ) : ¬ paysReceipt k t = true := fun hp =>
    (h.transactions t ht).1 (FinanceTransaction.settles_iff.mp hp).1
  have hrefunds {t : FinanceTransaction} (ht : t ∈ db.transactions) (k : ℕ) :
      ¬ refundsReturn k t = true := fun hp =>
    (h.transactions t ht).2 (FinanceTransaction.settles_iff.mp hp).1
  have hnone (r : PurchaseReturn) : ¬ r ∈ db.purchaseReturns := by
    rw [h.purchaseReturns]
    exact not_mem_empty r
  refine ⟨h.receipts, fun t ht k hp => absurd hp (hpays ht k),
    fun t ht k hp => absurd hp (hrefunds ht k), fun r hr => absurd hr (hnone r), ?_,
    fun r hr => absurd hr (hnone r), fun r hr => absurd hr (hnone r)⟩
  intro r hr hposted
  have hpaid : db.settledSum (paysReceipt r.id) = 0 :=
    Table.sum_eq_zero fun t ht => if_neg (hpays ht r.id)
  have hreturned (f : PurchaseReturn → ℚ) : db.returnedSum f r.id = 0 :=
    Table.sum_eq_zero fun x hx => absurd hx (hnone x)
  rw [FinanceDb.debt, hpaid, hreturned, hreturned]
  exact ⟨by simpa using h.receipts.total r hr hposted, le_refl _⟩

def tenReceived : FinanceDb :=
  { FinanceDb.empty with
    nextId := 1
    procurement := { FinanceDb.empty.procurement with
      stock := { Stock.Db.empty with
        products := Table.empty.put { id := 1, name := "Beras" }
        inventory := Table.empty.put { warehouseId := 1, productId := 1, quantity := 10, available := 10 } }
      ledger := { AccountingDb.empty with
        postingRules := (Table.empty.put (grossRule 1 "SUPPLIER_PAYMENT" "payable" "settlement")).put
          (grossRule 2 "PURCHASE_RETURN" "payable" "inventory")
        accounts := ((Table.empty.put ⟨1, 1, "2101", true⟩).put ⟨2, 1, "1101", true⟩).put
          ⟨3, 1, "1301", true⟩ }
      warehouses := Table.empty.put ⟨1, 1, 1⟩
      suppliers := Table.empty.put ⟨1, 1⟩
      receipts := Table.empty.put
        { id := 1, purchaseOrderId := 1, supplierId := 1, warehouseId := 1,
          operationalStatus := .confirmed, grossTotal := 100, accountingEventId := some (1, "receipt"),
          items := [{ id := 1, purchaseOrderItemId := 1, productId := 1, acceptedQty := 10,
                      subtotal := 100, grossSubtotal := 100 }] } } }

def sixtyPaid : CreateFinanceTransaction where
  type := .supplierPayment
  description := "Pembayaran sebagian"
  amount := 60
  debitAccountCode := "2101"
  creditAccountCode := "1101"
  referenceType := some "GoodsReceipt"
  referenceId := some 1
  idempotencyKey := "pay-1"

def returnAll : CreatePurchaseReturn where
  goodsReceiptId := 1
  items := [⟨1, 10⟩]

def inspected (db : FinanceDb) : FinanceDb :=
  { db with
    procurement.inspections := Table.empty.put
      { id := 3, companyId := 1, branchId := some 1, sourceType := "PurchaseReturn", sourceId := 2,
        status := .passed } }

def sixtyDrafted : FinanceDb := leftBy (create headOffice sixtyPaid) tenReceived

def sixtyPosted : FinanceDb := leftBy (post headOffice 1) sixtyDrafted

def tenRequested : FinanceDb := leftBy (createPurchaseReturn headOffice returnAll) sixtyPosted

def confirmAll : FinanceTx PurchaseReturn :=
  confirmPurchaseReturn headOffice 2 { supplierCreditNoteNumber := some "CN-1" }

lemma tenReceived_opening : PayableOpening tenReceived := by
  have hrow {r : GoodsReceipt} (hr : r ∈ tenReceived.procurement.receipts) :
      r.operationalStatus = .confirmed ∧ r.posted = true ∧ Priced r ∧ r.grossTotal = 100 := by
    obtain rfl | ⟨hr, _⟩ := mem_put.mp hr
    · exact ⟨rfl, rfl, by simp [Priced], rfl⟩
    · exact absurd hr (not_mem_empty r)
  refine ⟨⟨?_, ?_, ?_, ?_⟩, fun t ht => absurd ht (not_mem_empty t), rfl⟩
  · exact fun r hr _ => (hrow hr).2.1
  · intro r hr _
    rw [(hrow hr).1]
    exact .inl rfl
  · exact fun r hr => (hrow hr).2.2.1
  · intro r hr _
    rw [(hrow hr).2.2.2]
    norm_num

end Mayatoko.Finance
