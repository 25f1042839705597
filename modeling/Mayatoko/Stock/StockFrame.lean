import Mayatoko.Stock.LocationFrame
import Mayatoko.Stock.Opname

/-!
# What the stock movements leave alone

The stock part of a document writes the location tables, the aggregate, the stock card, batches and
serials. A function of the tables that looks at none of these is left alone by every stock-in and
stock-out; the items of a transfer change in their quantities only.
-/

namespace Mayatoko.Stock

open Core

variable {τ : Type} {f : Db → τ}

/-- `f` does not look at what the stock movements write. -/
structure OffStock (f : Db → τ) : Prop where
  frame : ∀ db t n b c r i m s k, f { db with
    locations := t, nextId := n, locationBalances := b, conditionBalances := c, reservations := r,
    inventory := i, movements := m, batches := s, serials := k } = f db

namespace OffStock

variable (hf : OffStock f)

include hf

lemma offLocations : OffLocations f := ⟨fun _ _ _ _ _ _ => hf.frame _ _ _ _ _ _ _ _ _ _⟩

lemma inventory : Db.inventoryRow.Apart f := ⟨fun _ _ => hf.frame _ _ _ _ _ _ _ _ _ _⟩

lemma batch : Db.inventoryBatch.Apart f := ⟨fun _ _ => hf.frame _ _ _ _ _ _ _ _ _ _⟩

lemma serial : Db.inventorySerial.Apart f := ⟨fun _ _ => hf.frame _ _ _ _ _ _ _ _ _ _⟩

variable {w r : ℕ} {type : InventoryMovementType} {q : ℤ}

lemma createMovements {p : ℕ} {t : String}
    {changes : List LocationAllocation} : Leaves f (createMovements w p type q t r changes) := by
  intro db u db' h
  obtain rfl := commits_modify.mp h
  exact hf.frame _ _ _ _ _ _ _ _ _ _

lemma takeFromInventory {p : ℕ} : Leaves f (takeFromInventory w p q) :=
  hf.inventory.update

lemma receiveStock {t : String} {line : StockLine} : Leaves f (receiveStock w type t r line) :=
  hf.offLocations.depositLocationStock.bind fun _ => hf.inventory.upsert.bind fun _ =>
    hf.createMovements

/-! ### Receipts, sales, returns and orders -/

lemma receiveGoodsItem {item : GoodsReceiptItem} : Leaves f (receiveGoodsItem w r item) := by
  refine Leaves.ite (hf.receiveStock.bind fun _ => Leaves.bind ?_ fun _ => ?_) leaves_pure
  · unfold receiveGoodsBatch
    split
    · exact leaves_pure
    · exact leaves_get.bind fun _ => leaves_require.bind fun _ => hf.batch.upsert.bind fun _ =>
        leaves_pure
  · exact leaves_get.bind fun _ => (Leaves.forM fun _ => hf.serial.create).ite leaves_pure

lemma sellLine {id : ℕ} {line : StockLine} : Leaves f (sellLine w id line) :=
  hf.offLocations.consumeAvailableLocationStock.bind fun _ => hf.takeFromInventory.bind fun _ =>
    hf.createMovements

lemma createSale {prepared : List StockLine} : Leaves f (createSale w prepared) := by
  refine (Leaves.forM fun _ => leaves_get.bind fun _ => leaves_require).bind fun _ => ?_
  exact hf.offLocations.freshId.bind fun _ => Leaves.forM fun _ => hf.sellLine

lemma returnToSupplier {item : SupplierReturnLine} : Leaves f (returnToSupplier w r item) := by
  refine leaves_get.bind fun _ => leaves_orThrow.bind fun _ => leaves_require.bind fun _ => ?_
  refine hf.offLocations.consumeAvailableLocationStock.bind fun _ => ?_
  refine hf.takeFromInventory.bind fun _ => hf.createMovements.bind fun _ => ?_
  unfold returnBatch
  split
  · exact leaves_pure
  · exact leaves_get.bind fun _ => leaves_orThrow.bind fun _ => leaves_require.bind fun _ =>
      hf.batch.update.bind fun _ => leaves_pure

lemma shipOrderProduct {order : Order} {line : ℕ × ℕ} : Leaves f (shipOrderProduct order line) := by
  refine hf.offLocations.consumeLocationReservations.bind fun _ => leaves_get.bind fun _ => ?_
  refine hf.inventory.updateOne.bind fun _ => leaves_get.bind fun _ => ?_
  exact leaves_orThrow.bind fun _ => hf.createMovements

lemma consumeBatches {p : ℕ} : Leaves f (consumeBatches w p q) := by
  refine leaves_get.bind fun _ => (Leaves.allocate fun _ _ => ?_).bind fun _ => leaves_require
  exact leaves_pure.ite (hf.batch.updateOne.bind fun _ => leaves_pure)

lemma shipOrder {id : ℕ} (horder : Db.order.Apart f) : Leaves f (shipOrder id) := by
  refine leaves_get.bind fun _ => leaves_orThrow.bind fun _ => leaves_pure.ite ?_
  refine leaves_require.bind fun _ => (Leaves.forM fun _ => hf.shipOrderProduct).bind fun _ => ?_
  refine Leaves.bind (Leaves.forM fun _ => ?_) fun _ => horder.update.bind fun _ => leaves_pure
  exact leaves_get.bind fun _ => hf.consumeBatches.ite leaves_pure

lemma completeOpnameItem {opname : StockOpname} {item : StockOpnameItem} :
    Leaves f (completeOpnameItem opname item) := by
  refine leaves_pure.ite (Leaves.bind ?_ fun _ => Leaves.bind ?_ fun _ => ?_)
  · unfold adjustOpnameBatch
    split
    · exact leaves_pure
    · exact leaves_get.bind fun _ => leaves_orThrow.bind fun _ => leaves_require.bind fun _ =>
        hf.batch.update.bind fun _ => leaves_pure
  · unfold adjustOpnameLocations
    split
    · exact hf.offLocations.adjustLocationStock.bind fun _ => leaves_pure
    · exact (hf.offLocations.depositLocationStock.bind fun _ => leaves_pure).ite
        hf.offLocations.consumeAvailableLocationStock
  · refine Leaves.bind ?_ fun _ => hf.createMovements
    exact leaves_get.bind fun _ => leaves_require.bind fun _ => hf.inventory.upsert

/-! ### Transfers -/

variable {item : StockTransferItem}

lemma shipTransferBatch {source : ℕ} : Leaves f (shipTransferBatch source item) := by
  unfold Stock.shipTransferBatch
  split
  · exact leaves_pure
  · refine leaves_get.bind fun _ => leaves_orThrow.bind fun _ => leaves_require.bind fun _ => ?_
    exact leaves_require.bind fun _ => hf.batch.updateOne

variable {transfer : StockTransfer}

lemma shipTransferSerials : Leaves f (shipTransferSerials transfer item) :=
  leaves_pure.ite (hf.serial.updateMany.bind fun _ => leaves_require)

lemma receiveTransferBatch : Leaves f (receiveTransferBatch transfer item q) := by
  unfold Stock.receiveTransferBatch
  split
  · exact leaves_pure
  · exact leaves_get.bind fun _ => leaves_orThrow.bind fun _ => hf.batch.upsert.bind fun _ =>
      leaves_pure

variable {input : ReceiveStockTransferItem}

lemma receiveTransferSerials {remaining : ℤ} :
    Leaves f (receiveTransferSerials transfer item input remaining) := by
  refine leaves_pure.ite (leaves_get.bind fun _ => leaves_require.bind fun _ => ?_)
  exact leaves_require.bind fun _ => hf.serial.updateMany.bind fun _ => leaves_require

lemma shipTransferItem
    (hitem : Leaves f (Db.stockTransferItem.update item.id
      (fun i => { i with shippedQty := item.quantity }) Failure.recordNotFound)) :
    Leaves f (shipTransferItem transfer item) := by
  refine leaves_get.bind fun _ => leaves_orThrow.bind fun _ => leaves_require.bind fun _ => ?_
  refine hf.shipTransferBatch.bind fun _ => hf.shipTransferSerials.bind fun _ => ?_
  refine hf.offLocations.consumeAvailableLocationStock.bind fun _ => ?_
  refine hf.takeFromInventory.bind fun _ => hf.createMovements.bind fun _ => ?_
  exact hitem.bind fun _ => leaves_pure

lemma receiveTransferEntry {items : List StockTransferItem}
    (hitem : ∀ id, Leaves f (Db.stockTransferItem.update id
      (fun i => { i with receivedQty := i.receivedQty + input.receivedQty })
        Failure.recordNotFound)) :
    Leaves f (receiveTransferEntry transfer items input) := by
  refine leaves_orThrow.bind fun item => leaves_require.bind fun _ => leaves_pure.ite ?_
  refine hf.receiveTransferBatch.bind fun _ => hf.receiveTransferSerials.bind fun _ => ?_
  exact hf.receiveStock.bind fun _ => (hitem item.id).bind fun _ => leaves_pure

end OffStock

end Mayatoko.Stock
