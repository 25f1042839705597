import Mayatoko.Finance.PurchaseReturns
import Mayatoko.Finance.TransactionFacts

/-!
# What the calls on supplier returns do

A committed creation adds a return of a posted receipt; its amount is not negative where those of the
receipt items are not. A committed confirmation completes a return: its amount is split into what is
set off against the open payable of the receipt and what the supplier owes.
-/

namespace Mayatoko.Finance

open Core Accounting Transit Procurement FinanceDb

variable {db db' : FinanceDb} {scope : TenantScope} {id : ℕ} {receipt : GoodsReceipt}
  {r r' row : PurchaseReturn} {rows : List PurchaseReturnItem}

lemma allocateHistoricalRemainder_nonneg {original already amount : ℚ} {q n used : ℤ} (horiginal : 0 ≤ original)
    (h : Returns.allocateHistoricalRemainder original already q n used = .ok amount) :
    0 ≤ amount := by
  simp only [Returns.allocateHistoricalRemainder, ite_eq_ok, throw_ne_ok, pure_eq_ok, and_false, false_or] at h
  obtain ⟨hvalid, ⟨_, hremainder, rfl⟩ | ⟨_, rfl⟩⟩ := h
  · exact not_lt.mp hremainder
  · have hq : (0 : ℚ) ≤ q := Int.cast_nonneg (by omega)
    have hn : (0 : ℚ) ≤ n := Int.cast_nonneg (by omega)
    exact toDecimalPlaces_nonneg (div_nonneg (mul_nonneg horiginal hq) hn) 2

def Priced (receipt : GoodsReceipt) : Prop := ∀ i ∈ receipt.items, 0 ≤ i.grossSubtotal

lemma Priced.gross_nonneg (h : Priced receipt) : 0 ≤ receipt.gross := by
  refine List.sum_nonneg fun x hx => ?_
  obtain ⟨i, hi, rfl⟩ := mem_map.mp hx
  exact h i hi

lemma returnRows_nonneg {inputs : List PurchaseReturnInput} {number : ℕ}
    {allocation : ℕ → Returns.HistoricalReturnState} (hpriced : Priced receipt)
    (h : returnRows receipt number allocation inputs = .ok rows) : ∀ i ∈ rows, 0 ≤ i.grossAmount := by
  induction inputs generalizing number allocation rows with
  | nil =>
    obtain rfl := pure_eq_ok.mp h
    exact fun i hi => absurd hi not_mem_nil
  | cons input rest ih =>
    simp only [returnRows] at h
    cases hitem : receiptItem receipt input.goodsReceiptItemId with
    | none =>
      rw [hitem] at h
      cases h
    | some original =>
      simp only [hitem, ite_eq_ok, throw_ne_ok, and_false, false_or, bind_eq_ok, pure_eq_ok] at h
      obtain ⟨_, ⟨a, taken⟩, ha, rows, hrows, rfl⟩ := h
      simp only [Returns.allocateReturn, bind_eq_ok, pure_eq_ok, Prod.mk.injEq] at ha
      obtain ⟨_, _, _, _, gross, hgross, rfl, rfl⟩ := ha
      have horiginal := hpriced original (List.mem_of_find?_eq_some hitem)
      refine forall_mem_cons.mpr ⟨?_, ih hrows⟩
      exact allocateHistoricalRemainder_nonneg horiginal hgross

/-! ### Creating a return -/

def FinanceDb.tenantOf (db : FinanceDb) (warehouseId : ℕ) : Option TenantScope :=
  (db.procurement.warehouses.find? warehouseId).map fun w => ⟨w.companyId, w.branchId⟩

lemma tenantOf_of_filter {warehouseId : ℕ} (h : (db.procurement.warehouses.find? warehouseId).any (fun w =>
      decide (w.branchId = scope.branchId) && decide (w.companyId = scope.companyId)) = true) :
    db.tenantOf warehouseId = some scope := by
  obtain ⟨w, hw, hscope⟩ := (Option.any_eq_true _ _).mp h
  simp only [cond_iff] at hscope
  rw [tenantOf, hw, Option.map_some, hscope.1, hscope.2]

lemma findReceipt_spec {e : Failure}
    (h : Commits (procurementPart.lift (findReceipt scope id e)) db receipt db') :
    db = db' ∧ receipt ∈ db.procurement.receipts ∧ receipt.id = id ∧
      db.tenantOf receipt.warehouseId = some scope := by
  obtain rfl := ReadOnly.eq (Part.readOnly_lift (fun _ => rfl) readOnly_findReceipt) h
  obtain ⟨_, h, _⟩ := Part.commits_lift.mp h
  simp only [findReceipt, commits_steps] at h
  obtain ⟨hfind, _⟩ := h
  obtain ⟨hfind, hscope⟩ := Option.filter_eq_some_iff.mp hfind
  obtain ⟨hmem, hid⟩ := find?_eq_some.mp hfind
  simp only [Bool.and_eq_true] at hscope
  exact ⟨rfl, hmem, hid, tenantOf_of_filter hscope.1⟩

structure ReturnRequested (scope : TenantScope) (db : FinanceDb) (receipt : GoodsReceipt)
    (r : PurchaseReturn) (db' : FinanceDb) : Prop where
  found : receipt ∈ db.procurement.receipts
  posted : receipt.operationalStatus.isPosted = true
  fresh : db.purchaseReturns.find? r.id = none
  receiptId : r.goodsReceiptId = some receipt.id
  status : r.status = .requested
  amount : Priced receipt → 0 ≤ r.amount
  purchaseReturns : db'.purchaseReturns = db.purchaseReturns.put r
  transactions : db'.transactions = db.transactions
  receipts : db'.procurement.receipts = db.procurement.receipts
  warehouses : db'.procurement.warehouses = db.procurement.warehouses

variable {dto : CreatePurchaseReturn}

lemma readReturnRows_commits {res : GoodsReceipt × List PurchaseReturnItem}
    (h : Commits (readReturnRows scope dto) db res db') :
    db = db' ∧ res.1 ∈ db.procurement.receipts ∧ res.1.operationalStatus.isPosted = true ∧
      (Priced res.1 → ∀ i ∈ res.2, 0 ≤ i.grossAmount) := by
  simp only [readReturnRows, assertReturnTaxCodes, commits_bind, commits_get, commits_require,
    commits_ofExcept, commits_pure] at h
  obtain ⟨_, _, ⟨_, rfl⟩, receipt, _, hreceipt, _, _, ⟨hposted, rfl⟩, _, _, ⟨rfl, rfl⟩, _, _, hchecks,
    rows, _, ⟨hrows, rfl⟩, _, _, ⟨_, _, ⟨rfl, rfl⟩, _, rfl⟩, rfl, rfl⟩ := h
  obtain ⟨rfl, hmem, _, _⟩ := findReceipt_spec hreceipt
  have hread : ReadOnly ((requestedNow dto.items).rows.forM
      (checkRequested receipt (db.returnsOf receipt.id))) :=
    Leaves.forM fun _ => leaves_orThrow.bind fun _ => leaves_require
  obtain rfl := hread.eq hchecks
  exact ⟨rfl, hmem, hposted, fun hpriced => returnRows_nonneg hpriced hrows⟩

lemma createPurchaseReturn_commits
    (h : Commits (createPurchaseReturn scope dto) db r db') :
    ∃ receipt, ReturnRequested scope db receipt r db' := by
  simp only [createPurchaseReturn, createReturnInspection, freshId, commits_bind, commits_get,
    commits_set, commits_pure, TableOf.commits_create, TableOf.commits_update] at h
  obtain ⟨⟨receipt, rows⟩, _, hread, _, _, ⟨_, _, ⟨rfl, rfl⟩, _, _, rfl, rfl, rfl⟩, _, _, ⟨hnone, rfl⟩,
    _, _, ⟨_, _, ⟨_, _, ⟨rfl, rfl⟩, _, _, rfl, rfl, rfl⟩, _, _, ⟨_, rfl⟩, rfl, rfl⟩, o, ho, rfl, rfl⟩ := h
  obtain ⟨rfl, hmem, hposted, hnonneg⟩ := readReturnRows_commits hread
  have ho' := (find?_put_self db.purchaseReturns _).symm.trans ho
  obtain rfl := Option.some.inj ho'
  refine ⟨receipt, hmem, hposted, hnone, rfl, rfl, fun hpriced => ?_,
    Table.put_put db.purchaseReturns rfl, rfl, rfl, rfl⟩
  refine List.sum_nonneg fun x hx => ?_
  obtain ⟨i, hi, rfl⟩ := mem_map.mp hx
  exact hnonneg hpriced i hi

/-! ### Confirming a return -/

lemma readOnly_assertWarehouse : ReadOnly (assertWarehouse scope id) :=
  leaves_get.bind fun _ => leaves_orThrow.bind fun _ => leaves_pure

variable {o : Option ℕ}

lemma readOnly_assertInspection {type : String} : ReadOnly (assertInspection scope o type id) := by
  cases o with
  | none => exact leaves_pure
  | some i => exact leaves_get.bind fun _ => leaves_orThrow.bind fun _ => leaves_pure

lemma readOnly_assertConfirmation {type : String} : ReadOnly (assertConfirmation scope o type id) := by
  cases o with
  | none => exact leaves_pure
  | some i => exact leaves_get.bind fun _ => leaves_orThrow.bind fun _ => leaves_pure

lemma readOnly_checkGatePass : ReadOnly (checkGatePass scope o id) := by
  cases o with
  | none => exact leaves_pure
  | some i => exact leaves_get.bind fun _ => leaves_orThrow.bind fun _ => leaves_require

lemma readOnly_assertReturnTaxCodes {ids : List (Option ℕ)} : ReadOnly (assertReturnTaxCodes scope ids) :=
  leaves_get.bind fun _ => leaves_require

lemma readOnly_checkReceiptItems {returns : List PurchaseReturn} :
    ReadOnly (checkReceiptItems receipt returns rows) :=
  Leaves.bind (Leaves.forM fun _ => leaves_require) fun _ =>
    Leaves.forM fun _ => leaves_orThrow.bind fun _ => leaves_require

lemma scopedPurchaseReturn_commits (h : Commits (scopedPurchaseReturn scope id) db row db') :
    db = db' ∧ row ∈ db.purchaseReturns := by
  simp only [scopedPurchaseReturn, commits_steps] at h
  obtain ⟨_, hfind, _, _, hwarehouse, rfl, rfl⟩ := h
  exact ⟨readOnly_assertWarehouse.eq hwarehouse, (find?_eq_some.mp hfind).1⟩

lemma findSourceReceipt_commits (h : Commits (findSourceReceipt scope row) db receipt db') :
    db = db' ∧ receipt ∈ db.procurement.receipts ∧ row.goodsReceiptId = some receipt.id ∧
      db.tenantOf receipt.warehouseId = some scope ∧ receipt.operationalStatus.isPosted = true := by
  simp only [findSourceReceipt, commits_steps] at h
  obtain ⟨id, hid, _, _, hreceipt, ⟨_, _, hposted⟩, rfl, rfl⟩ := h
  obtain ⟨rfl, hmem, rfl, htenant⟩ := findReceipt_spec hreceipt
  exact ⟨rfl, hmem, hid, htenant, hposted⟩

lemma checkPurchaseReturn_commits {dto : ConfirmReturn}
    (h : Commits (checkPurchaseReturn scope dto row) db receipt db') :
    db = db' ∧ row.status ≠ .completed ∧ receipt ∈ db.procurement.receipts ∧
      row.goodsReceiptId = some receipt.id ∧ db.tenantOf receipt.warehouseId = some scope ∧
      receipt.operationalStatus.isPosted = true := by
  simp only [checkPurchaseReturn, commits_steps] at h
  obtain ⟨hstatus, _, _, hinspection, _, _, _, _, hconfirmation, _, _, hpass, _, _, hwarehouse, _, _, htax, _,
    _, hreceipt, _, _, hitems, rfl, rfl⟩ := h
  obtain rfl := readOnly_assertInspection.eq hinspection
  obtain rfl := readOnly_assertConfirmation.eq hconfirmation
  obtain rfl := readOnly_checkGatePass.eq hpass
  obtain rfl := readOnly_assertWarehouse.eq hwarehouse
  obtain rfl := readOnly_assertReturnTaxCodes.eq htax
  obtain ⟨rfl, hmem, hid, htenant, hposted⟩ := findSourceReceipt_commits hreceipt
  obtain rfl := readOnly_checkReceiptItems.eq hitems
  refine ⟨rfl, ?_, hmem, hid, htenant, hposted⟩
  intro hcompleted
  rcases hstatus with h | h <;> rw [hcompleted] at h <;> cases h

/-- The return `row` of a receipt has been completed and became `r`. -/
structure ReturnConfirmed (scope : TenantScope) (db : FinanceDb) (receipt : GoodsReceipt)
    (row r : PurchaseReturn) (db' : FinanceDb) : Prop where
  found : row ∈ db.purchaseReturns
  open_ : row.status ≠ .completed
  source : receipt ∈ db.procurement.receipts
  receiptId : row.goodsReceiptId = some receipt.id
  tenant : db.tenantOf receipt.warehouseId = some scope
  posted : receipt.operationalStatus.isPosted = true
  id_eq : r.id = row.id
  receiptId_eq : r.goodsReceiptId = row.goodsReceiptId
  warehouse_eq : r.warehouseId = row.warehouseId
  status : r.status = .completed
  amount : r.amount = row.amount
  offset : r.payableOffsetAmount = min row.amount (db.openPayable scope receipt row.id)
  receivable : r.supplierReceivableAmount = row.amount - r.payableOffsetAmount
  purchaseReturns : db'.purchaseReturns = db.purchaseReturns.put r
  transactions : db'.transactions = db.transactions
  receipts : db'.procurement.receipts = db.procurement.receipts
  warehouses : db'.procurement.warehouses = db.procurement.warehouses

lemma confirmPurchaseReturn_commits {dto : ConfirmReturn}
    (h : Commits (confirmPurchaseReturn scope id dto) db r db') :
    ∃ receipt row, ReturnConfirmed scope db receipt row r db' := by
  simp only [confirmPurchaseReturn, commits_steps, Part.commits_lift, TableOf.commits_update] at h
  obtain ⟨row, _, hrow, receipt, _, hcheck, _, _, _, ⟨stock, _, rfl⟩, event, _, ⟨ledger, _, rfl⟩, o, ho, rfl,
    rfl⟩ := h
  obtain ⟨rfl, hmem⟩ := scopedPurchaseReturn_commits hrow
  obtain ⟨rfl, hopen, hsource, hid, htenant, hposted⟩ := checkPurchaseReturn_commits hcheck
  obtain rfl := mem_unique (find?_of_mem hmem) ho
  exact ⟨receipt, row, hmem, hopen, hsource, hid, htenant, hposted, rfl, rfl, rfl, rfl, rfl, rfl, rfl,
    rfl, rfl, rfl, rfl⟩

end Mayatoko.Finance
