import Mayatoko.Stock.BatchLedger

/-!
# Where the batches add up to the aggregate

The operations of the batch ledger as one transition system. A committed operation moves the gap of
a batch-tracked product by the quantities it books without naming a batch (`unbatched`), so the
batches of every tracked product add up along a run exactly if in each of its steps these quantities
cancel out.
-/

namespace Mayatoko.Stock

open Core Db TableOf

variable {db db' : Db}

inductive BatchCommand
  | confirmGoodsReceipt (warehouseId receiptId : ℕ) (items : List GoodsReceiptItem)
  | createSale (warehouseId : ℕ) (prepared : List StockLine)
  | shipOrder (id : ℕ)
  | shipTransfer (id : ℕ)
  | receiveTransfer (id : ℕ) (inputs : List ReceiveStockTransferItem)
  | confirmSaleReturn (warehouseId returnId : ℕ) (items : List ReturnLine)
  | confirmOrderReturn (warehouseId returnId : ℕ) (items : List ReturnLine)
  | confirmPurchaseReturn (warehouseId returnId : ℕ) (items : List SupplierReturnLine)
  | completeOpname (id : ℕ)

namespace BatchCommand

def tx : BatchCommand → StockTx Unit
  | confirmGoodsReceipt w id items => receiveGoods w id items
  | createSale w prepared => Stock.createSale w prepared
  | shipOrder id => Stock.shipOrder id
  | shipTransfer id => Stock.shipTransfer id
  | receiveTransfer id inputs => Stock.receiveTransfer id inputs
  | confirmSaleReturn w id items => confirmSaleReturnStock w id items
  | confirmOrderReturn w id items => confirmOrderReturnStock w id items
  | confirmPurchaseReturn w id items => confirmPurchaseReturnStock w id items
  | completeOpname id => Stock.completeOpname id

/-- What an operation books on the aggregate of each stock without naming a batch. The shipment of an
order issues its quantities from the batches itself. -/
def unbatched (db : Db) : BatchCommand → ℕ × ℕ → ℤ
  | confirmGoodsReceipt w _ items =>
    (items.map fun i => loose i.batch (w, i.productId) i.acceptedQty).sum
  | createSale w prepared => (prepared.map fun l => Pi.single (w, l.productId) (-l.quantity)).sum
  | shipOrder _ => 0
  | shipTransfer id => (db.transfers.find? id).elim 0 fun transfer =>
    ((db.itemsOfTransfer id).map fun i =>
      loose i.batchNumber (transfer.sourceWarehouseId, i.productId) (-i.quantity)).sum
  | receiveTransfer id inputs => (db.transfers.find? id).elim 0 fun transfer =>
    (inputs.map (looseEntry transfer (db.itemsOfTransfer id))).sum
  | confirmSaleReturn w _ items =>
    ((items.filter fun i => i.restock && i.condition = .good).map fun i =>
      Pi.single (w, i.productId) i.quantity).sum
  | confirmOrderReturn w _ items =>
    (items.map fun i => if i.restock then Pi.single (w, i.productId) i.quantity else 0).sum
  | confirmPurchaseReturn w _ items =>
    (items.map fun i => loose i.batchNumber (w, i.productId) (-i.quantity)).sum
  | completeOpname id => (db.opnames.find? id).elim 0 fun opname =>
    ((db.itemsOfOpname id).map fun i =>
      loose i.batchNumber (opname.warehouseId, i.productId) i.countedDifference).sum

variable {c : BatchCommand}

/-- No operation changes which products are tracked. -/
lemma products_eq (h : Commits c.tx db () db') : db'.products = db.products := by
  have hoff := offStock_products
  revert h
  suffices hc : Leaves Db.products c.tx from hc db () db'
  cases c with
  | confirmGoodsReceipt w id items => exact Leaves.forM fun _ => hoff.receiveGoodsItem
  | createSale w prepared => exact hoff.createSale
  | shipOrder id => exact hoff.shipOrder ⟨fun _ _ => rfl⟩
  | shipTransfer id =>
    refine leaves_get.bind fun _ => leaves_orThrow.bind fun _ => leaves_require.bind fun _ => ?_
    refine (Leaves.forM fun _ => hoff.shipTransferItem (Apart.update ⟨fun _ _ => rfl⟩)).bind fun _ => ?_
    exact leaves_require.bind fun _ => (Apart.update ⟨fun _ _ => rfl⟩).bind fun _ => leaves_pure
  | receiveTransfer id inputs =>
    refine leaves_get.bind fun _ => leaves_orThrow.bind fun _ => leaves_require.bind fun _ => ?_
    refine Leaves.bind (Leaves.forM fun _ => ?_) fun _ => leaves_get.bind fun _ => ?_
    · exact hoff.receiveTransferEntry fun _ => Apart.update ⟨fun _ _ => rfl⟩
    · exact leaves_require.bind fun _ => (Apart.update ⟨fun _ _ => rfl⟩).bind fun _ => leaves_pure
  | confirmSaleReturn w id items => exact Leaves.forM fun _ => hoff.receiveStock
  | confirmOrderReturn w id items => exact Leaves.forM fun _ => hoff.receiveStock.ite leaves_pure
  | confirmPurchaseReturn w id items => exact Leaves.forM fun _ => hoff.returnToSupplier
  | completeOpname id =>
    refine leaves_get.bind fun _ => leaves_orThrow.bind fun _ => leaves_require.bind fun _ => ?_
    refine leaves_require.bind fun _ => (Leaves.forM fun _ => hoff.completeOpnameItem).bind fun _ => ?_
    exact (Apart.update ⟨fun _ _ => rfl⟩).bind fun _ => leaves_pure

/-- An operation moves the gap of a tracked product by what it books without naming a batch. -/
lemma gap_eq {p : ℕ} (hp : db.batchTracked p = true) (h : Commits c.tx db () db') (w : ℕ) :
    db'.gap (w, p) = db.gap (w, p) + c.unbatched db (w, p) := by
  cases c with
  | confirmGoodsReceipt w' id items =>
    rw [Adds.forM (fun _ _ => gap_receiveGoodsItem) _ _ _ h]
    rfl
  | createSale w' prepared =>
    rw [gap_createSale _ _ _ h]
    rfl
  | shipOrder id =>
    rw [shipOrder_gap hp h]
    exact (add_zero _).symm
  | shipTransfer id =>
    simp only [tx, Stock.shipTransfer, commits_steps] at h
    obtain ⟨transfer, hfind, _, _, t, hitems, _, _, t', hup, _, hend⟩ := h
    have h₁ := Adds.forM (fun _ _ => gap_shipTransferItem) _ _ _ hitems
    have h₂ : t'.gap = t.gap := Apart.update ⟨fun _ _ => rfl⟩ _ _ _ hup
    rw [← hend, h₂, h₁, unbatched, hfind]
    rfl
  | receiveTransfer id inputs =>
    simp only [tx, Stock.receiveTransfer, commits_steps] at h
    obtain ⟨transfer, hfind, _, _, t, hinputs, _, _, t', hup, _, hend⟩ := h
    have h₁ := Adds.forM (fun _ _ => gap_receiveTransferEntry) _ _ _ hinputs
    have h₂ : t'.gap = t.gap := Apart.update ⟨fun _ _ => rfl⟩ _ _ _ hup
    rw [← hend, h₂, h₁, unbatched, hfind]
    rfl
  | confirmSaleReturn w' id items =>
    rw [Adds.forM (fun _ _ => gap_receiveStock) _ _ _ h]
    rfl
  | confirmOrderReturn w' id items =>
    rw [Adds.forM (fun _ _ => Adds.ite (fun _ => gap_receiveStock) fun _ => leaves_pure.adds) _ _ _ h]
    rfl
  | confirmPurchaseReturn w' id items =>
    rw [Adds.forM (fun _ _ => gap_returnToSupplier) _ _ _ h]
    rfl
  | completeOpname id =>
    simp only [tx, Stock.completeOpname, findOpname, commits_steps] at h
    obtain ⟨opname, hfind, _, _, _, t, hitems, _, t', hup, _, hend⟩ := h
    have h₁ := Adds.forM (fun _ _ => gap_completeOpnameItem) _ _ _ hitems
    have h₂ : t'.gap = t.gap := Apart.update ⟨fun _ _ => rfl⟩ _ _ _ hup
    rw [← hend, h₂, h₁, unbatched, hfind]
    rfl

end BatchCommand

/-! ### Runs -/

/-- Whatever else happens between two operations: quantities stay as they are, and a product becomes
batch-tracked only while there is none of it. -/
structure Elsewhere (db db' : Db) : Prop where
  booked : db'.booked = db.booked
  batchTotal : db'.batchTotal = db.batchTotal
  tracked : ∀ p, db'.batchTracked p = true →
    db.batchTracked p = true ∨ ∀ w, db.booked (w, p) = 0 ∧ db.batchTotal (w, p) = 0

inductive BatchStep (db : Db) : Option BatchCommand → Db → Prop
  | command {c : BatchCommand} {db' : Db} : Commits c.tx db () db' → BatchStep db (some c) db'
  | elsewhere {db' : Db} : Elsewhere db db' → BatchStep db none db'

/-- What an operation books on tracked products without naming a batch cancels out. -/
def BatchesNamed (db : Db) (c : Option BatchCommand) : Prop :=
  ∀ c' ∈ c, ∀ w p, db.batchTracked p = true → c'.unbatched db (w, p) = 0

lemma batchesAgree_step {c : Option BatchCommand} (hdb : db.BatchesAgree)
    (h : BatchStep db c db') : db'.BatchesAgree ↔ BatchesNamed db c := by
  rw [batchesAgree_iff] at hdb ⊢
  cases h with
  | @command c _ hc =>
    have htracked (p : ℕ) : db'.batchTracked p = db.batchTracked p := by
      rw [batchTracked, batchTracked, BatchCommand.products_eq hc]
    have hgap (w p : ℕ) (hp : db.batchTracked p = true) : db'.gap (w, p) = c.unbatched db (w, p) := by
      rw [BatchCommand.gap_eq hp hc, hdb w p hp, zero_add]
    constructor
    · rintro hall _ ⟨⟩ w p hp
      rw [← hgap w p hp]
      exact hall w p ((htracked p).trans hp)
    · intro hnamed w p hp
      rw [htracked p] at hp
      rw [hgap w p hp]
      exact hnamed c rfl w p hp
  | elsewhere he =>
    refine iff_of_true (fun w p hp => ?_) (fun _ hnone => absurd hnone (Option.not_mem_none _))
    have hgap : db'.gap = db.gap := by rw [gap, gap, he.booked, he.batchTotal]
    rw [hgap]
    rcases he.tracked p hp with hp | hzero
    · exact hdb w p hp
    · obtain ⟨h₁, h₂⟩ := hzero w
      rw [gap, Pi.sub_apply, h₁, h₂, sub_zero]

/-- The batches of every tracked product add up to the aggregate in all states of a run exactly if in
each of its steps the quantities booked without a batch cancel out. -/
theorem batchesAgree_run_iff (hdb : db.BatchesAgree) {cs : List (Option BatchCommand)} :
    Run (Landing BatchesAgree BatchStep) db cs db' ↔ Run (Guarded BatchesNamed BatchStep) db cs db' :=
  Run.landing_iff_guarded (fun _ _ _ hs hstep => batchesAgree_step hs hstep) hdb

def emptyShelves : Db :=
  { Db.empty with
    products := Table.empty.put { id := 1, name := "Susu", trackBatch := true }
    transfers := Table.empty.put
      { id := 4, sourceWarehouseId := 1, destinationWarehouseId := 2, status := .approved }
    transferItems := Table.empty.put
      { id := 9, transferId := 4, productId := 1, quantity := 2, batchNumber := some "B1" } }

def fiveReceived : BatchCommand :=
  .confirmGoodsReceipt 1 1
    [{ id := 1, purchaseOrderItemId := 1, productId := 1, acceptedQty := 5,
       batchNumber := some "B1" }]

def BatchCommand.result (c : BatchCommand) (db : Db) : Db := (execute c.tx db).2

lemma emptyShelves_agree : emptyShelves.BatchesAgree := fun _ _ _ => rfl

theorem posSale_drifts : emptyShelves.BatchesAgree ∧
      ∃ db, Run BatchStep emptyShelves [some fiveReceived, some (.createSale 1 [⟨1, 1⟩])] db ∧
        ¬ db.BatchesAgree ∧ (execute (createOpname 1 none) db).1 =
          .error (.badRequest "BATCH_INVENTORY_DRIFT:1:1; aggregate=4; batches=5") := by
  have h₁ : Commits fiveReceived.tx emptyShelves () (fiveReceived.result emptyShelves) :=
    commits_of_execute (by decide +kernel)
  have h₂ : Commits (BatchCommand.createSale 1 [⟨1, 1⟩]).tx (fiveReceived.result emptyShelves) ()
      ((BatchCommand.createSale 1 [⟨1, 1⟩]).result (fiveReceived.result emptyShelves)) :=
    commits_of_execute (by decide +kernel)
  refine ⟨emptyShelves_agree, _, Run.cons (.command h₁) (Run.cons (.command h₂) (Run.nil _)), ?_,
    by decide +kernel⟩
  intro h
  have h₃ := h 1 1 (by decide +kernel)
  revert h₃
  decide +kernel

theorem batchesAgree_transfer : ∃ db, Run (Landing BatchesAgree BatchStep) emptyShelves
      [some fiveReceived, some (.shipTransfer 4), some (.receiveTransfer 4 [⟨9, 2, []⟩])] db := by
  have h₁ : Commits fiveReceived.tx emptyShelves () (fiveReceived.result emptyShelves) :=
    commits_of_execute (by decide +kernel)
  have h₂ : Commits (BatchCommand.shipTransfer 4).tx (fiveReceived.result emptyShelves) ()
      ((BatchCommand.shipTransfer 4).result (fiveReceived.result emptyShelves)) :=
    commits_of_execute (by decide +kernel)
  have h₃ : Commits (BatchCommand.receiveTransfer 4 [⟨9, 2, []⟩]).tx
      ((BatchCommand.shipTransfer 4).result (fiveReceived.result emptyShelves)) ()
      ((BatchCommand.receiveTransfer 4 [⟨9, 2, []⟩]).result
        ((BatchCommand.shipTransfer 4).result (fiveReceived.result emptyShelves))) :=
    commits_of_execute (by decide +kernel)
  have hnamed (db : Db) (c : BatchCommand) (h : c.unbatched db = 0) : BatchesNamed db (some c) := by
    rintro _ ⟨⟩ w p _
    rw [h]
    rfl
  have hfind : (fiveReceived.result emptyShelves).transfers.find? 4 = some
      { id := 4, sourceWarehouseId := 1, destinationWarehouseId := 2, status := .approved } := by
    decide +kernel
  have hitems : (fiveReceived.result emptyShelves).itemsOfTransfer 4 =
      [{ id := 9, transferId := 4, productId := 1, quantity := 2, batchNumber := some "B1" }] := by
    decide +kernel
  have hfind' : ((BatchCommand.shipTransfer 4).result
      (fiveReceived.result emptyShelves)).transfers.find? 4 = some
      { id := 4, sourceWarehouseId := 1, destinationWarehouseId := 2, status := .shipped } := by
    decide +kernel
  have hitems' : ((BatchCommand.shipTransfer 4).result
      (fiveReceived.result emptyShelves)).itemsOfTransfer 4 =
      [{ id := 9, transferId := 4, productId := 1, quantity := 2, shippedQty := 2,
         batchNumber := some "B1" }] := by
    decide +kernel
  refine ⟨_, (batchesAgree_run_iff emptyShelves_agree).mpr (Run.cons ⟨hnamed _ _ ?_, .command h₁⟩
    (Run.cons ⟨hnamed _ _ ?_, .command h₂⟩ (Run.cons ⟨hnamed _ _ ?_, .command h₃⟩ (Run.nil _))))⟩
  · simp [BatchCommand.unbatched, fiveReceived, loose, GoodsReceiptItem.batch]
  · simp [BatchCommand.unbatched, hfind, hitems, loose]
  · simp [BatchCommand.unbatched, hfind', hitems', looseEntry, loose]

end Mayatoko.Stock
