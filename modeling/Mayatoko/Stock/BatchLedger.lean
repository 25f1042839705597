import Mathlib.Algebra.Group.Pi.Lemmas
import Mayatoko.Core.Measure
import Mayatoko.Stock.StockFrame
import Mayatoko.Stock.TransferReceipt

/-!
# The batches and the aggregate

Of a batch-tracked product the batches of a warehouse should add up to the aggregate, and a
snapshot of the warehouse insists on it. Here each stock movement is followed on the gap between
the two. A movement moves the gap by the quantities that it books without naming a batch: receipts,
transfers, supplier returns and counts name one, the shipment of an order takes its quantities out
of the batches first to expire, a POS sale and the returns of customers name none.
-/

namespace Mayatoko.Stock

open Core Db TableOf

def InventoryBatch.stock (b : InventoryBatch) : ℕ × ℕ := (b.warehouseId, b.productId)

namespace Db

def booked : Db → ℕ × ℕ → ℤ := inventoryRow.sums Inventory.key Inventory.quantity

def batchTotal : Db → ℕ × ℕ → ℤ := inventoryBatch.sums InventoryBatch.stock InventoryBatch.quantity

def gap (db : Db) : ℕ × ℕ → ℤ := db.booked - db.batchTotal

def batchTracked (db : Db) (productId : ℕ) : Bool :=
  (db.products.find? productId).any Product.trackBatch

/-- What `createOpname` asks of every batch-tracked product before it takes a snapshot. -/
def BatchesAgree (db : Db) : Prop :=
  ∀ w p, db.batchTracked p = true →
    ((db.batches.findMany fun b => b.warehouseId = w && b.productId = p).map
      InventoryBatch.quantity).sum = db.onHand (w, p)

end Db

variable {db db' : Db}

lemma onHand_eq_booked (db : Db) (s : ℕ × ℕ) : db.onHand s = db.booked s := by
  rw [booked, sums_key, Db.onHand, aggregate]
  change _ = (db.inventory.find? s).elim 0 Inventory.quantity
  cases db.inventory.find? s <;> rfl

lemma sum_batches_eq_batchTotal (db : Db) (w p : ℕ) :
    ((db.batches.findMany fun b => b.warehouseId = w && b.productId = p).map
      InventoryBatch.quantity).sum = db.batchTotal (w, p) := by
  rw [Table.sum_findMany]
  refine Table.sum_congr fun b _ => ?_
  simp [InventoryBatch.stock]

lemma batchesAgree_iff : db.BatchesAgree ↔ ∀ w p, db.batchTracked p = true → db.gap (w, p) = 0 := by
  unfold BatchesAgree
  simp only [sum_batches_eq_batchTotal, onHand_eq_booked, gap, Pi.sub_apply]
  refine forall_congr' fun w => forall_congr' fun p => imp_congr_right fun _ => ?_
  rw [sub_eq_zero, eq_comm]

lemma offStock_products : OffStock Db.products := ⟨fun _ _ _ _ _ _ _ _ _ _ => rfl⟩

/-! ### What the statements add -/

lemma lawful_inventoryRow : inventoryRow.Lawful := ⟨fun _ _ => rfl⟩

lemma lawful_inventoryBatch : inventoryBatch.Lawful := ⟨fun _ _ => rfl⟩

/-- What a quantity adds to the batches: nothing where no batch is named. -/
def named (batch : Option String) (s : ℕ × ℕ) (q : ℤ) : ℕ × ℕ → ℤ :=
  if batch = none then 0 else Pi.single s q

def loose (batch : Option String) (s : ℕ × ℕ) (q : ℤ) : ℕ × ℕ → ℤ :=
  if batch = none then Pi.single s q else 0

lemma single_sub_named (batch : Option String) (s : ℕ × ℕ) (q : ℤ) :
    Pi.single s q - named batch s q = loose batch s q := by
  unfold named loose
  split
  · exact sub_zero _
  · exact sub_self _

@[simp] lemma loose_zero (batch : Option String) (s : ℕ × ℕ) : loose batch s 0 = 0 := by
  simp [loose]

variable {α : Type} {x : StockTx α}

lemma adds_gap {d d' : ℕ × ℕ → ℤ} (h : Adds booked d x)
    (h' : Adds batchTotal d' x) : Adds gap (d - d') x := h.sub h'

variable {s : ℕ × ℕ}

lemma adds_gap_loose {batch : Option String} {q : ℤ}
    (h : Adds booked (Pi.single s q) x) (h' : Adds batchTotal (named batch s q) x) :
    Adds gap (loose batch s q) x := by
  rw [← single_sub_named]
  exact adds_gap h h'

lemma adds_gap_single {q : ℤ}
    (h : Adds booked (Pi.single s q) x) (h' : Leaves batchTotal x) : Adds gap (Pi.single s q) x := by
  have hgap := adds_gap h h'.adds
  rwa [sub_zero] at hgap

lemma offLocations_booked : OffLocations booked := ⟨fun _ _ _ _ _ _ => rfl⟩

lemma offLocations_batchTotal : OffLocations batchTotal := ⟨fun _ _ _ _ _ _ => rfl⟩

lemma offLocations_gap : OffLocations gap := ⟨fun _ _ _ _ _ _ => rfl⟩

lemma batch_apart_booked : inventoryBatch.Apart booked := ⟨fun _ _ => rfl⟩

lemma serial_apart_booked : inventorySerial.Apart booked := ⟨fun _ _ => rfl⟩

lemma inventory_apart_batchTotal : inventoryRow.Apart batchTotal := ⟨fun _ _ => rfl⟩

lemma serial_apart_batchTotal : inventorySerial.Apart batchTotal := ⟨fun _ _ => rfl⟩

section Movements

variable {τ : Type} {f : Db → τ} {w p r : ℕ} {q : ℤ} {t : String} {type : InventoryMovementType}
  {changes : List LocationAllocation}

lemma leaves_movements (hf : ∀ db m, f { db with movements := m } = f db) :
    Leaves f (createMovements w p type q t r changes) := by
  intro db u db' h
  obtain rfl := commits_modify.mp h
  exact hf _ _

lemma booked_createMovements : Leaves booked (createMovements w p type q t r changes) :=
  leaves_movements fun _ _ => rfl

lemma batchTotal_createMovements : Leaves batchTotal (createMovements w p type q t r changes) :=
  leaves_movements fun _ _ => rfl

end Movements

lemma booked_takeFromInventory {w p : ℕ} {q : ℤ} :
    Adds booked (Pi.single (w, p) (-q)) (takeFromInventory w p q) := by
  refine lawful_inventoryRow.adds_update fun r hr => ⟨hr, hr, hr, ?_⟩
  exact sub_eq_add_neg _ _

lemma booked_addToInventory {w p : ℕ} {q : ℤ} : Adds booked (Pi.single (w, p) q) (addToInventory w p q) :=
  lawful_inventoryRow.adds_upsert rfl rfl fun _ hr => ⟨hr, hr, hr, rfl⟩

variable {line : StockLine}

lemma booked_receiveStock {w r : ℕ} {type : InventoryMovementType} {t : String} :
    Adds booked (Pi.single (w, line.productId) line.quantity) (receiveStock w type t r line) :=
  Adds.after offLocations_booked.depositLocationStock fun _ =>
    booked_addToInventory.before fun _ => booked_createMovements

lemma batchTotal_receiveStock {w r : ℕ} {type : InventoryMovementType} {t : String} :
    Leaves batchTotal (receiveStock w type t r line) :=
  offLocations_batchTotal.depositLocationStock.bind fun _ =>
    inventory_apart_batchTotal.upsert.bind fun _ => batchTotal_createMovements

lemma gap_receiveStock {w r : ℕ} {type : InventoryMovementType} {t : String} :
    Adds gap (Pi.single (w, line.productId) line.quantity) (receiveStock w type t r line) :=
  adds_gap_single booked_receiveStock batchTotal_receiveStock

variable {d : ℤ}

lemma batchTotal_updateOne {guard : InventoryBatch → Bool} {e : Failure}
    {g : InventoryBatch → InventoryBatch} {hg} (hs : ∀ b, guard b = true → b.stock = s)
    (hd : ∀ b, (g b).quantity = b.quantity + d) :
    Adds batchTotal (Pi.single s d) (Db.inventoryBatch.updateOne guard g e hg) := by
  refine lawful_inventoryBatch.adds_updateOne fun b hb => ⟨hs b hb, ?_, hd b⟩
  have hkey : (g b).key = b.key := hg b
  simp only [InventoryBatch.key, Prod.mk.injEq] at hkey
  rw [← hs b hb, InventoryBatch.stock, hkey.1, hkey.2.1, InventoryBatch.stock]

variable {b : InventoryBatch}

lemma stock_of_key {w p : ℕ} {n : String} (h : b.key = (w, p, n)) : b.stock = (w, p) := by
  simp only [InventoryBatch.key, Prod.mk.injEq] at h
  exact Prod.ext h.1 h.2.1

lemma batchTotal_update {w p : ℕ} {n : String} {e : Failure} : Adds batchTotal (Pi.single (w, p) d)
      (Db.inventoryBatch.update (w, p, n) (fun b => { b with quantity := b.quantity + d }) e) :=
  lawful_inventoryBatch.adds_update fun _ hb => ⟨hb, stock_of_key hb, stock_of_key hb, rfl⟩

/-! ### Receipts, sales and returns -/

lemma batchTotal_receiveGoodsBatch {w : ℕ} {item : GoodsReceiptItem} :
    Adds batchTotal (named item.batch (w, item.productId) item.acceptedQty)
      (receiveGoodsBatch w item) := by
  unfold receiveGoodsBatch
  cases item.batch with
  | none => exact leaves_pure.adds
  | some n =>
    refine Adds.after leaves_get fun db => Adds.after leaves_require fun _ => ?_
    refine Adds.before ?_ fun _ => leaves_pure
    refine lawful_inventoryBatch.adds_upsert rfl rfl fun b hb => ?_
    exact ⟨hb, stock_of_key hb, stock_of_key hb, rfl⟩

lemma booked_receiveGoodsBatch {w : ℕ} {item : GoodsReceiptItem} :
    Leaves booked (receiveGoodsBatch w item) := by
  unfold receiveGoodsBatch
  split
  · exact leaves_pure
  · exact leaves_get.bind fun _ => leaves_require.bind fun _ => batch_apart_booked.upsert.bind
      fun _ => leaves_pure

lemma leaves_receiveGoodsSerials {τ : Type} {f : Db → τ} (hf : inventorySerial.Apart f) {w : ℕ}
    {item : GoodsReceiptItem} : Leaves f (receiveGoodsSerials w item) :=
  leaves_get.bind fun _ => (Leaves.forM fun _ => hf.create).ite leaves_pure

lemma gap_receiveGoodsItem {w r : ℕ} {item : GoodsReceiptItem} :
    Adds gap (loose item.batch (w, item.productId) item.acceptedQty)
      (receiveGoodsItem w r item) := by
  unfold receiveGoodsItem
  by_cases hq : 0 < item.acceptedQty
  · rw [if_pos hq]
    apply adds_gap_loose
    · refine booked_receiveStock.before fun _ => booked_receiveGoodsBatch.bind fun _ => ?_
      exact leaves_receiveGoodsSerials serial_apart_booked
    · refine Adds.after batchTotal_receiveStock fun _ => batchTotal_receiveGoodsBatch.before ?_
      exact fun _ => leaves_receiveGoodsSerials serial_apart_batchTotal
  · rw [if_neg hq, Nat.eq_zero_of_not_pos hq, Nat.cast_zero, loose_zero]
    exact leaves_pure.adds

lemma gap_sellLine {w id : ℕ} :
    Adds gap (Pi.single (w, line.productId) (-line.quantity)) (sellLine w id line) := by
  apply adds_gap_single
  · exact Adds.after offLocations_booked.consumeAvailableLocationStock fun _ =>
      booked_takeFromInventory.before fun _ => booked_createMovements
  · exact offLocations_batchTotal.consumeAvailableLocationStock.bind fun _ =>
      inventory_apart_batchTotal.update.bind fun _ => batchTotal_createMovements

lemma gap_createSale {w : ℕ} {prepared : List StockLine} :
    Adds gap (prepared.map fun l => Pi.single (w, l.productId) (-l.quantity)).sum
      (createSale w prepared) :=
  Adds.after (Leaves.forM fun _ => leaves_get.bind fun _ => leaves_require) fun _ =>
    Adds.after offLocations_gap.freshId fun _ => Adds.forM fun _ _ => gap_sellLine

lemma batchTotal_returnBatch {w : ℕ} {item : SupplierReturnLine} :
    Adds batchTotal (named item.batchNumber (w, item.productId) (-item.quantity))
      (returnBatch w item) := by
  unfold returnBatch
  cases item.batchNumber with
  | none => exact leaves_pure.adds
  | some n =>
    intro db u db' h
    simp only [commits_steps] at h
    obtain ⟨b, hb, _, _, _, hup, _, rfl⟩ := h
    rw [(find?_eq_some.mp hb).2] at hup
    exact batchTotal_update (d := -item.quantity) _ _ _ hup

lemma gap_returnToSupplier {w r : ℕ} {item : SupplierReturnLine} :
    Adds gap (loose item.batchNumber (w, item.productId) (-item.quantity))
      (returnToSupplier w r item) := by
  apply adds_gap_loose
  · refine Adds.after leaves_get fun _ => Adds.after leaves_orThrow fun _ => ?_
    refine Adds.after leaves_require fun _ => ?_
    refine Adds.after offLocations_booked.consumeAvailableLocationStock fun _ => ?_
    refine booked_takeFromInventory.before fun _ => booked_createMovements.bind fun _ => ?_
    unfold returnBatch
    split
    · exact leaves_pure
    · exact leaves_get.bind fun _ => leaves_orThrow.bind fun _ => leaves_require.bind fun _ =>
        batch_apart_booked.update.bind fun _ => leaves_pure
  · refine Adds.after leaves_get fun _ => Adds.after leaves_orThrow fun _ => ?_
    refine Adds.after leaves_require fun _ => ?_
    refine Adds.after offLocations_batchTotal.consumeAvailableLocationStock fun _ => ?_
    refine Adds.after inventory_apart_batchTotal.update fun _ => ?_
    exact Adds.after batchTotal_createMovements fun _ => batchTotal_returnBatch

/-! ### Transfers -/

section Transfers

variable {transfer : StockTransfer} {item : StockTransferItem}

lemma batchTotal_shipTransferBatch {source : ℕ} :
    Adds batchTotal (named item.batchNumber (source, item.productId) (-item.quantity))
      (shipTransferBatch source item) := by
  unfold shipTransferBatch
  cases item.batchNumber with
  | none => exact leaves_pure.adds
  | some n =>
    intro db u db' h
    simp only [commits_steps] at h
    obtain ⟨b, hb, _, _, hup⟩ := h
    have hkey := (find?_eq_some.mp hb).2
    refine batchTotal_updateOne (fun x hx => ?_) (fun x => sub_eq_add_neg _ _) _ _ _ hup
    simp only [cond_iff] at hx
    exact stock_of_key (hx.1.trans hkey)

lemma gap_shipTransferItem :
    Adds gap (loose item.batchNumber (transfer.sourceWarehouseId, item.productId) (-item.quantity))
      (shipTransferItem transfer item) := by
  apply adds_gap_loose
  · refine Adds.after leaves_get fun _ => Adds.after leaves_orThrow fun _ => ?_
    refine Adds.after leaves_require fun _ => Adds.after ?_ fun _ => ?_
    · unfold shipTransferBatch
      split
      · exact leaves_pure
      · exact leaves_get.bind fun _ => leaves_orThrow.bind fun _ => leaves_require.bind fun _ =>
          leaves_require.bind fun _ => batch_apart_booked.updateOne
    · refine Adds.after (leaves_pure.ite ?_) fun _ => ?_
      · exact serial_apart_booked.updateMany.bind fun _ => leaves_require
      · refine Adds.after offLocations_booked.consumeAvailableLocationStock fun _ => ?_
        refine booked_takeFromInventory.before fun _ => booked_createMovements.bind fun _ => ?_
        exact (Apart.update ⟨fun _ _ => rfl⟩).bind fun _ => leaves_pure
  · refine Adds.after leaves_get fun _ => Adds.after leaves_orThrow fun _ => ?_
    refine Adds.after leaves_require fun _ => batchTotal_shipTransferBatch.before fun _ => ?_
    refine (leaves_pure.ite ?_).bind fun _ => ?_
    · exact serial_apart_batchTotal.updateMany.bind fun _ => leaves_require
    · refine offLocations_batchTotal.consumeAvailableLocationStock.bind fun _ => ?_
      refine inventory_apart_batchTotal.update.bind fun _ => batchTotal_createMovements.bind fun _ => ?_
      exact (Apart.update ⟨fun _ _ => rfl⟩).bind fun _ => leaves_pure

lemma batchTotal_receiveTransferBatch {q : ℤ} :
    Adds batchTotal (named item.batchNumber (transfer.destinationWarehouseId, item.productId) q)
      (receiveTransferBatch transfer item q) := by
  unfold receiveTransferBatch
  cases item.batchNumber with
  | none => exact leaves_pure.adds
  | some n =>
    refine Adds.after leaves_get fun db => Adds.after leaves_orThrow fun _ => ?_
    refine Adds.before ?_ fun _ => leaves_pure
    refine lawful_inventoryBatch.adds_upsert rfl rfl fun b hb => ?_
    exact ⟨hb, stock_of_key hb, stock_of_key hb, rfl⟩

lemma leaves_transferSerials {τ : Type} {f : Db → τ} (hf : inventorySerial.Apart f)
    {input : ReceiveStockTransferItem} {remaining : ℤ} :
    Leaves f (receiveTransferSerials transfer item input remaining) := by
  refine leaves_pure.ite (leaves_get.bind fun _ => leaves_require.bind fun _ => ?_)
  exact leaves_require.bind fun _ => hf.updateMany.bind fun _ => leaves_require

def looseEntry (transfer : StockTransfer) (items : List StockTransferItem)
    (input : ReceiveStockTransferItem) : ℕ × ℕ → ℤ :=
  (items.find? fun i => i.id = input.transferItemId).elim 0 fun i =>
    loose i.batchNumber (transfer.destinationWarehouseId, i.productId) input.receivedQty

lemma gap_receiveTransferEntry {items : List StockTransferItem} {input : ReceiveStockTransferItem} :
    Adds gap (looseEntry transfer items input) (receiveTransferEntry transfer items input) := by
  intro db u db' h
  obtain ⟨item, t, hitem, h⟩ := commits_bind.mp h
  obtain ⟨hfind, rfl⟩ := commits_orThrow.mp hitem
  obtain ⟨_, t, hreq, h⟩ := commits_bind.mp h
  obtain ⟨_, rfl⟩ := commits_require.mp hreq
  rw [looseEntry, hfind, Option.elim_some]
  obtain ⟨hq, h⟩ | ⟨hq, h⟩ := commits_ite.mp h
  · obtain ⟨_, rfl⟩ := commits_pure.mp h
    rw [hq, Nat.cast_zero, loose_zero, add_zero]
  · refine adds_gap_loose ?_ ?_ db u db' h
    · refine Adds.after ?_ fun _ => ?_
      · unfold receiveTransferBatch
        split
        · exact leaves_pure
        · exact leaves_get.bind fun _ => leaves_orThrow.bind fun _ =>
            batch_apart_booked.upsert.bind fun _ => leaves_pure
      · refine Adds.after (leaves_transferSerials serial_apart_booked) fun _ => ?_
        refine booked_receiveStock.before fun _ => ?_
        exact (Apart.update ⟨fun _ _ => rfl⟩).bind fun _ => leaves_pure
    · refine batchTotal_receiveTransferBatch.before fun _ => ?_
      refine (leaves_transferSerials serial_apart_batchTotal).bind fun _ => ?_
      refine batchTotal_receiveStock.bind fun _ => ?_
      exact (Apart.update ⟨fun _ _ => rfl⟩).bind fun _ => leaves_pure

end Transfers

/-! ### Counts -/

def StockOpnameItem.countedDifference (item : StockOpnameItem) : ℤ :=
  item.countedQty.getD item.systemQty - item.systemQty

lemma batchTotal_adjustOpnameBatch {w : ℕ} {item : StockOpnameItem} :
    Adds batchTotal (named item.batchNumber (w, item.productId) d) (adjustOpnameBatch w item d) := by
  unfold adjustOpnameBatch
  cases item.batchNumber with
  | none => exact leaves_pure.adds
  | some n =>
    intro db u db' h
    simp only [commits_steps] at h
    obtain ⟨b, hb, _, _, _, hup, _, rfl⟩ := h
    rw [(find?_eq_some.mp hb).2] at hup
    exact batchTotal_update _ _ _ hup

lemma leaves_adjustOpnameLocations {τ : Type} {f : Db → τ} (hf : OffLocations f)
    {opname : StockOpname} {p : ℕ} {d : ℤ} : Leaves f (adjustOpnameLocations opname p d) := by
  unfold adjustOpnameLocations
  split
  · exact hf.adjustLocationStock.bind fun _ => leaves_pure
  · exact (hf.depositLocationStock.bind fun _ => leaves_pure).ite hf.consumeAvailableLocationStock

lemma booked_adjustOpnameInventory {w p : ℕ} :
    Adds booked (Pi.single (w, p) d) (adjustOpnameInventory w p d) := by
  intro db i db' h
  simp only [adjustOpnameInventory, commits_steps] at h
  obtain ⟨_, hup⟩ := h
  refine lawful_inventoryRow.sums_upsert hup (fun hnone => ⟨rfl, ?_⟩) fun r hr => ?_
  · change db.inventory.find? (w, p) = none at hnone
    simp [hnone]
  · change db.inventory.find? (w, p) = some r at hr
    have hkey := (find?_eq_some.mp hr).2
    refine ⟨hkey, hkey, hkey, ?_⟩
    simp [hr]

lemma gap_completeOpnameItem {opname : StockOpname} {item : StockOpnameItem} :
    Adds gap (loose item.batchNumber (opname.warehouseId, item.productId) item.countedDifference)
      (completeOpnameItem opname item) := by
  intro db u db' h
  obtain ⟨hd, h⟩ | ⟨hd, h⟩ := commits_ite.mp h
  · obtain ⟨_, rfl⟩ := commits_pure.mp h
    rw [StockOpnameItem.countedDifference, hd, loose_zero, add_zero]
  · refine adds_gap_loose ?_ ?_ db u db' h
    · refine Adds.after ?_ fun _ => ?_
      · unfold adjustOpnameBatch
        split
        · exact leaves_pure
        · exact leaves_get.bind fun _ => leaves_orThrow.bind fun _ => leaves_require.bind fun _ =>
            batch_apart_booked.update.bind fun _ => leaves_pure
      · refine Adds.after (leaves_adjustOpnameLocations offLocations_booked) fun _ => ?_
        exact booked_adjustOpnameInventory.before fun _ => booked_createMovements
    · refine batchTotal_adjustOpnameBatch.before fun _ => ?_
      refine (leaves_adjustOpnameLocations offLocations_batchTotal).bind fun _ => ?_
      refine (leaves_get.bind fun _ => leaves_require.bind fun _ => ?_).bind fun _ =>
        batchTotal_createMovements
      exact inventory_apart_batchTotal.upsert

/-! ### Orders -/

lemma stock_of_mem_batches {w p : ℕ} {q : InventoryBatch → Bool} {le : InventoryBatch → InventoryBatch → Bool}
    (hb : b ∈ db.batches.findSorted
      (fun b => b.warehouseId = w && b.productId = p && 0 < b.quantity && q b) le) :
    b.stock = (w, p) := by
  have hp := (Table.mem_findSorted.mp hb).2
  simp only [cond_iff] at hp
  exact Prod.ext hp.1.1.1 hp.1.1.2

lemma consumeBatchAt_commits (hs : b.stock = s) {n taken : ℤ}
    (hn : 0 < n) (h : Commits (consumeBatchAt b n) db taken db') :
    db'.batchTotal = db.batchTotal + Pi.single s (-taken) ∧ taken ≤ n := by
  simp only [consumeBatchAt, commits_ite, commits_steps] at h
  obtain ⟨_, rfl, rfl⟩ | ⟨_, _, t, hup, rfl, rfl⟩ := h
  · rw [neg_zero, Pi.single_zero, add_zero]
    exact ⟨rfl, hn.le⟩
  · refine ⟨batchTotal_updateOne (fun x hx => ?_) (fun x => sub_eq_add_neg _ _) _ _ _ hup, min_le_right _ _⟩
    simp only [cond_iff] at hx
    rw [← hs]
    exact stock_of_key hx.1

lemma batchTotal_consumeBatches {w p q : ℕ} :
    Adds batchTotal (Pi.single (w, p) (-(q : ℤ))) (consumeBatches w p q) := by
  intro db u db' h
  simp only [consumeBatches, commits_steps] at h
  obtain ⟨res, _, halloc, hdone, rfl⟩ := h
  have hI := halloc.allocate (I := fun n st =>
      0 ≤ n ∧ st.batchTotal = db.batchTotal + Pi.single (w, p) (n - q))
    (fun b hb n st taken st' hn hI hstep => ?_) ⟨Int.natCast_nonneg q, by simp⟩
  · obtain ⟨hn, htotal⟩ := hI
    rw [htotal, le_antisymm hdone hn, zero_sub]
  · have hs : b.stock = (w, p) := by
      rcases mem_append.mp hb with hb | hb
      · exact stock_of_mem_batches hb
      · exact stock_of_mem_batches hb
    obtain ⟨hst, hle⟩ := consumeBatchAt_commits hs hn hstep
    refine ⟨by omega, ?_⟩
    rw [hst, hI.2, add_assoc, ← Pi.single_add]
    congr 2
    abel

lemma gap_shipOrderProduct {order : Order} {line : ℕ × ℕ} :
    Adds gap (Pi.single (order.warehouseId, line.1) (-(line.2 : ℤ)))
      (shipOrderProduct order line) := by
  apply adds_gap_single
  · refine Adds.after offLocations_booked.consumeLocationReservations fun _ => ?_
    refine Adds.after leaves_get fun _ => Adds.before ?_ fun _ => ?_
    · refine lawful_inventoryRow.adds_updateOne fun i hi => ?_
      simp only [cond_iff] at hi
      exact ⟨hi.1.1, hi.1.1, sub_eq_add_neg _ _⟩
    · exact leaves_get.bind fun _ => leaves_orThrow.bind fun _ => booked_createMovements
  · refine offLocations_batchTotal.consumeLocationReservations.bind fun _ => leaves_get.bind fun _ => ?_
    refine inventory_apart_batchTotal.updateOne.bind fun _ => leaves_get.bind fun _ => ?_
    exact leaves_orThrow.bind fun _ => batchTotal_createMovements

lemma booked_consumeBatches {w p : ℕ} {q : ℤ} : Leaves booked (consumeBatches w p q) := by
  refine leaves_get.bind fun _ => (Leaves.allocate fun b n => ?_).bind fun _ => leaves_require
  exact leaves_pure.ite (batch_apart_booked.updateOne.bind fun _ => leaves_pure)

def askedFor (warehouseId : ℕ) (items : List OrderItem) : ℕ × ℕ → ℤ :=
  (items.map fun i => Pi.single (warehouseId, i.productId) (i.quantity : ℤ)).sum

lemma shipOrderBatches_commits {order : Order} {items : List OrderItem} {p : ℕ} {u : Unit}
    (hp : db.batchTracked p = true) (h : Commits (items.forM (shipOrderBatches order)) db u db') :
    ∀ w, db'.gap (w, p) = db.gap (w, p) + askedFor order.warehouseId items (w, p) := by
  intro w
  have hI := h.forM (I := fun rest st => st.products = db.products ∧
      st.gap (w, p) + askedFor order.warehouseId rest (w, p) =
        db.gap (w, p) + askedFor order.warehouseId items (w, p))
    (fun i rest st st' hI hi => ?_) ⟨rfl, rfl⟩
  · simpa [askedFor] using hI.2
  · obtain ⟨hprod, hgap⟩ := hI
    rw [askedFor, map_cons, sum_cons, Pi.add_apply, ← askedFor] at hgap
    simp only [shipOrderBatches, commits_bind, commits_get, commits_ite] at hi
    obtain ⟨_, _, ⟨rfl, rfl⟩, ⟨_, hc⟩ | ⟨hno, hpure⟩⟩ := hi
    · refine ⟨(offStock_products.consumeBatches _ _ _ hc).trans hprod, ?_⟩
      have hadd := adds_gap booked_consumeBatches.adds batchTotal_consumeBatches _ _ _ hc
      rw [zero_sub, ← Pi.single_neg, neg_neg] at hadd
      rw [hadd, Pi.add_apply, add_assoc]
      exact hgap
    · obtain ⟨_, rfl⟩ := commits_pure.mp hpure
      refine ⟨hprod, ?_⟩
      have hne : (w, p) ≠ (order.warehouseId, i.productId) := by
        intro heq
        obtain ⟨_, rfl⟩ := Prod.mk.inj heq
        rw [hprod] at hno
        exact hno hp
      rw [Pi.single_eq_of_ne hne, zero_add] at hgap
      exact hgap

lemma sum_quantitiesByProduct (w : ℕ) (items : List OrderItem) :
    ((quantitiesByProduct items).rows.map fun l => Pi.single (w, l.1) (-(l.2 : ℤ))).sum =
      -askedFor w items := by
  have hfold (t : Table (Prod.fst : ℕ × ℕ → ℕ)) : (items.foldl (fun m item =>
        m.put (item.productId, (m.find? item.productId).elim 0 Prod.snd + item.quantity)) t).sum
          (fun l => (Pi.single (w, l.1) (-(l.2 : ℤ)) : ℕ × ℕ → ℤ)) =
      t.sum (fun l => Pi.single (w, l.1) (-(l.2 : ℤ))) - askedFor w items := by
    induction items generalizing t with
    | nil => simp [askedFor]
    | cons i items ih =>
      rw [List.foldl_cons, ih, Table.sum_put, askedFor, askedFor, map_cons, sum_cons, sub_add_eq_sub_sub]
      congr 1
      cases hfind : t.find? i.productId with
      | none => simp [Pi.single_neg, sub_eq_add_neg]
      | some l =>
        have hl : l.1 = i.productId := (find?_eq_some.mp hfind).2
        simp [hl, Pi.single_neg, Pi.single_add, sub_eq_add_neg]
  have h := hfold .empty
  rwa [show (Table.empty : Table (Prod.fst : ℕ × ℕ → ℕ)).sum
    (fun l => (Pi.single (w, l.1) (-(l.2 : ℤ)) : ℕ × ℕ → ℤ)) = 0 from rfl, zero_sub] at h

lemma shipOrder_gap {id p : ℕ} {u : Unit} (hp : db.batchTracked p = true)
    (h : Commits (shipOrder id) db u db') (w : ℕ) : db'.gap (w, p) = db.gap (w, p) := by
  simp only [shipOrder, commits_steps, commits_ite] at h
  obtain ⟨order, _, ⟨_, _, rfl⟩ | ⟨_, h⟩⟩ := h
  · rfl
  · obtain ⟨_, _, t, hprod, _, t', hbatch, _, t'', hup, _, hend⟩ := h
    have h₁ := Adds.forM (fun l _ => gap_shipOrderProduct) _ _ _ hprod
    have hprods : t.products = db.products :=
      Leaves.forM (fun _ => offStock_products.shipOrderProduct) _ _ _ hprod
    have hp' : t.batchTracked p = true := by rwa [batchTracked, hprods]
    have h₂ := shipOrderBatches_commits hp' hbatch w
    have h₃ : t''.gap = t'.gap := Apart.update ⟨fun _ _ => rfl⟩ _ _ _ hup
    rw [← hend, h₃, h₂, h₁, sum_quantitiesByProduct, Pi.add_apply, Pi.neg_apply, neg_add_cancel_right]

end Mayatoko.Stock
