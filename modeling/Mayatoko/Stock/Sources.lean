import Mayatoko.Stock.Backing

/-!
# Reservations of any source

A reservation is held for a source: its type and id. Only orders reserve stock so far; here every source does
what an order does, next to all other transactions that move stock. Whatever they do, the reservations stay
backed, a source without rows uses only stock that no row backs, and a release undoes a reservation.
-/

namespace Mayatoko.Stock

open Core Db TableOf

variable {db db' : Db} {J : Table InventoryReservation.key → Prop} {w p : ℕ} {q : ℤ} {source : StockSource}

/-! ### What an order does, for any source -/

def reserveInventory (warehouseId productId : ℕ) (quantity : ℤ) : StockTx Unit :=
  Db.inventoryRow.updateOne
    (fun i => i.key = (warehouseId, productId) && quantity ≤ i.available)
    (fun i => { i with reserved := i.reserved + quantity, available := i.available - quantity })
    (.badRequest "Stok tidak mencukupi untuk reservasi pesanan.")

def reserveProduct (source : StockSource) (warehouseId productId : ℕ) (quantity : ℤ) : StockTx Unit := do
  let _ ← reserveLocationStock warehouseId productId quantity source
  reserveInventory warehouseId productId quantity

def releaseProduct (source : StockSource) (warehouseId productId : ℕ) (quantity : ℤ) : StockTx Unit := do
  let _ ← releaseLocationReservations source warehouseId productId quantity
  let db ← get
  Db.inventoryRow.updateOne
    (fun i => i.key = (warehouseId, productId) && quantity ≤ i.reserved)
    (fun i => { i with reserved := i.reserved - quantity, available := i.available + quantity })
    (.badRequest (s!"Reservasi stok {db.productName productId} tidak konsisten; " ++
      "pembatalan dibatalkan untuk menjaga integritas stok."))

def consumeProduct (source : StockSource) (warehouseId productId : ℕ) (quantity : ℤ) : StockTx Unit := do
  let allocations ← consumeLocationReservations source warehouseId productId quantity
  let db ← get
  Db.inventoryRow.updateOne
    (fun i => i.key = (warehouseId, productId) && quantity ≤ i.quantity && quantity ≤ i.reserved)
    (fun i => { i with quantity := i.quantity - quantity, reserved := i.reserved - quantity })
    (.badRequest s!"Stok/reservasi {db.productName productId} tidak lagi mencukupi.")
  let after ← get
  let inventory ← orThrow (after.inventory.find? (warehouseId, productId)) .recordNotFound
  createMovements warehouseId productId .onlineOrder inventory.quantity source.sourceType source.sourceId
    (negated allocations)

lemma reserveOrderProduct_eq (id : ℕ) (line : ℕ × ℕ) :
    reserveOrderProduct id w line = reserveProduct (orderSource id) w line.1 line.2 := rfl

lemma releaseOrderProduct_eq (order : Order) (line : ℕ × ℕ) : releaseOrderProduct order line =
      releaseProduct (orderSource order.id) order.warehouseId line.1 line.2 := rfl

lemma shipOrderProduct_eq (order : Order) (line : ℕ × ℕ) : shipOrderProduct order line =
      consumeProduct (orderSource order.id) order.warehouseId line.1 line.2 := rfl

inductive StockOperation
  | document (c : StockCommand)
  | reserve (source : StockSource) (warehouseId productId : ℕ) (quantity : ℤ)
  | release (source : StockSource) (warehouseId productId : ℕ) (quantity : ℤ)
  | consume (source : StockSource) (warehouseId productId : ℕ) (quantity : ℤ)

def StockOperation.tx : StockOperation → StockTx Unit
  | document c => c.tx
  | reserve source w p q => reserveProduct source w p q
  | release source w p q => releaseProduct source w p q
  | consume source w p q => consumeProduct source w p q

def OperationStep (db : Db) (op : StockOperation) (db' : Db) : Prop := db' = (execute op.tx db).2

def StockOperation.Concerns (db : Db) (source : StockSource) (productId : ℕ) : StockOperation → Prop
  | document (.createOrder _ _) => source = orderSource db.nextId
  | document (.cancelOrder id) => source = orderSource id
  | document (.shipOrder id) => source = orderSource id
  | document _ => False
  | reserve s _ p _ => s = source ∧ p = productId
  | release s _ p _ => s = source ∧ p = productId
  | consume s _ p _ => s = source ∧ p = productId

/-! ### Documents -/

lemma maintains_receiveStock {r : ℕ} {type : InventoryMovementType} {t : String} {line : StockLine} :
    Maintains (Holding J) (receiveStock w type t r line) := by
  refine maintains_depositLocationStock.bind fun _ => Maintains.bind ?_ fun _ => unmoved leaves_createMovements
  exact maintains_upsertInventory (le_refl 0) fun _ => rfl

lemma maintains_stockOut {f : List LocationAllocation → Inventory → StockTx Unit}
    (hf : ∀ as i, Leaves ledgerTables (f as i)) : Maintains (Holding J) (do
      let allocations ← consumeAvailableLocationStock w p q
      let inventory ← takeFromInventory w p q
      f allocations inventory) :=
  maintains_consumeAvailableLocationStock.bind fun as => maintains_takeFromInventory.bind fun i =>
    unmoved (hf as i)

lemma maintains_createSale {prepared : List StockLine} : Maintains (Holding J) (createSale w prepared) := by
  refine (Maintains.forM fun _ _ => unmoved leaves_checkSaleLine).bind fun _ => ?_
  refine (unmoved leaves_freshId).bind fun _ => Maintains.forM fun _ _ => ?_
  exact maintains_stockOut fun _ _ => leaves_createMovements

lemma maintains_confirmPurchaseReturnStock {r : ℕ} {items : List SupplierReturnLine} :
    Maintains (Holding J) (confirmPurchaseReturnStock w r items) := by
  refine Maintains.forM fun _ _ => (unmoved leaves_get).bind fun _ => (unmoved leaves_orThrow).bind fun _ =>
    (unmoved leaves_require).bind fun _ => ?_
  exact maintains_stockOut fun _ _ => leaves_createMovements.bind fun _ => leaves_returnBatch

lemma maintains_relocateLocation {l l' : ℕ} : Maintains (Holding J) (relocateLocation w p l l' q) := by
  refine maintains_relocateLocationStock.bind fun _ => unmoved ?_
  exact leaves_freshId.bind fun _ => leaves_get.bind fun _ => leaves_createMovements.bind fun _ =>
    leaves_createMovements

variable {id : ℕ}

lemma maintains_shipTransfer : Maintains (Holding J) (shipTransfer id) := by
  refine (unmoved leaves_get).bind fun _ => (unmoved leaves_orThrow).bind fun transfer =>
    (unmoved leaves_require).bind fun _ => (Maintains.forM fun item _ => ?_).bind fun _ => ?_
  · refine (unmoved leaves_get).bind fun _ => (unmoved leaves_orThrow).bind fun _ =>
      (unmoved leaves_require).bind fun _ => (unmoved leaves_shipTransferBatch).bind fun _ =>
      (unmoved leaves_shipTransferSerials).bind fun _ => ?_
    exact maintains_stockOut fun _ _ => leaves_createMovements.bind fun _ =>
      apart_transferItem.update.bind fun _ => leaves_pure
  · exact unmoved (leaves_require.bind fun _ => apart_transfer.update.bind fun _ => leaves_pure)

lemma maintains_receiveTransfer {inputs : List ReceiveStockTransferItem} :
    Maintains (Holding J) (receiveTransfer id inputs) := by
  refine (unmoved leaves_get).bind fun _ => (unmoved leaves_orThrow).bind fun transfer =>
    (unmoved leaves_require).bind fun _ => (Maintains.forM fun input _ => ?_).bind fun _ => ?_
  · refine (unmoved leaves_orThrow).bind fun item => (unmoved leaves_require).bind fun _ => ?_
    refine (unmoved leaves_pure).ite ?_
    refine (unmoved leaves_receiveTransferBatch).bind fun _ =>
      (unmoved leaves_receiveTransferSerials).bind fun _ => maintains_receiveStock.bind fun _ => ?_
    exact unmoved (apart_transferItem.update.bind fun _ => leaves_pure)
  · exact unmoved (leaves_get.bind fun _ => leaves_require.bind fun _ => apart_transfer.update.bind
      fun _ => leaves_pure)

lemma maintains_createOpname {loc : Option ℕ} : Maintains (Holding J) (createOpname w loc) := by
  refine (unmoved leaves_get).bind fun _ => (unmoved leaves_require).bind fun _ => ?_
  refine (Maintains.forM fun _ _ => ?_).bind fun _ => (unmoved leaves_snapshot).bind fun items => ?_
  · exact maintains_prepareLocationInventory.bind fun _ => unmoved leaves_pure
  · refine unmoved (leaves_freshId.bind fun id => apart_opname.create.bind fun _ => ?_)
    exact Leaves.forM fun item => leaves_freshId.bind fun _ => apart_opnameItem.create

lemma maintains_adjustOpnameInventory {d : ℤ} : Maintains (Holding J) (adjustOpnameInventory w p d) :=
  (unmoved leaves_get).bind fun _ => (unmoved leaves_require).bind fun _ =>
    maintains_upsertInventory (le_refl 0) fun _ => rfl

lemma maintains_completeOpname : Maintains (Holding J) (completeOpname id) := by
  refine (unmoved leaves_get).bind fun _ => (unmoved leaves_orThrow).bind fun opname =>
    (unmoved leaves_require).bind fun _ => (unmoved leaves_require).bind fun _ => ?_
  refine (Maintains.forM fun item _ => ?_).bind fun _ =>
    unmoved (apart_opname.update.bind fun _ => leaves_pure)
  refine (unmoved leaves_pure).ite ((unmoved leaves_adjustOpnameBatch).bind fun _ => ?_)
  refine Maintains.bind ?_ fun _ => maintains_adjustOpnameInventory.bind fun _ =>
    unmoved leaves_createMovements
  unfold adjustOpnameLocations
  split
  · exact maintains_adjustLocationStock.bind fun _ => unmoved leaves_pure
  · exact (maintains_depositLocationStock.bind fun _ => unmoved leaves_pure).ite
      maintains_consumeAvailableLocationStock

lemma maintains_reserveProduct (hJ : Spares source p J) :
    Maintains (Holding J) (reserveProduct source w p q) := by
  intro db u db' hdb h
  obtain ⟨as, t, hres, hup⟩ := commits_bind.mp h
  have ht := maintains_reserveLocationStock hJ _ _ _ hdb hres
  have hq : 0 < q := by
    simp only [reserveLocationStock, commits_bind, commits_require] at hres
    obtain ⟨_, _, ⟨hq, _⟩, _⟩ := hres
    exact hq
  refine maintains_updateInventory (fun i _ hi => ?_) _ _ _ ht hup
  change 0 ≤ i.reserved + q
  omega

lemma maintains_releaseProduct (hJ : Spares source p J) :
    Maintains (Holding J) (releaseProduct source w p q) := by
  refine (maintains_releaseLocationReservations hJ).bind fun _ => (unmoved leaves_get).bind fun _ => ?_
  refine maintains_updateInventory fun i hi _ => ?_
  simp only [cond_iff] at hi
  change 0 ≤ i.reserved - q
  omega

lemma maintains_consumeProduct (hJ : Spares source p J) :
    Maintains (Holding J) (consumeProduct source w p q) := by
  refine (maintains_consumeLocationReservations hJ).bind fun _ => (unmoved leaves_get).bind fun _ => ?_
  refine Maintains.bind (maintains_updateInventory fun i hi _ => ?_) fun _ => unmoved ?_
  · simp only [cond_iff] at hi
    change 0 ≤ i.reserved - q
    omega
  · exact leaves_get.bind fun _ => leaves_orThrow.bind fun _ => leaves_createMovements

lemma createOrder_holding {items : List OrderItem} {u : Unit} (hdb : Holding J db)
    (hJ : ∀ p, Spares (orderSource db.nextId) p J) (h : Commits (createOrder w items) db u db') :
    Holding J db' := by
  simp only [createOrder, freshId, commits_steps, commits_set] at h
  obtain ⟨_, _, ⟨_, _, rfl, rfl, rfl⟩, _, t, hcreate, hloop⟩ := h
  have hstart : Holding J { db with nextId := db.nextId + 1 } :=
    ⟨⟨hdb.1.located, hdb.1.promised, hdb.1.held, hdb.1.backed⟩, hdb.2⟩
  have ht : Holding J t := aside apart_order.create _ _ _ hstart hcreate
  exact Maintains.forM (fun line _ => reserveOrderProduct_eq db.nextId line ▸ maintains_reserveProduct (hJ _))
    _ _ _ ht hloop

lemma maintains_cancelOrder (hJ : ∀ p, Spares (orderSource id) p J) :
    Maintains (Holding J) (cancelOrder id) := by
  intro db u db' hdb h
  obtain ⟨_, _, hget, hrest⟩ := commits_bind.mp h
  obtain ⟨rfl, rfl⟩ := commits_get.mp hget
  obtain ⟨order, t, hfind, hbody⟩ := commits_bind.mp hrest
  obtain ⟨hfound, rfl⟩ := commits_orThrow.mp hfind
  obtain ⟨_, rfl⟩ := find?_eq_some.mp hfound
  refine ((aside leaves_pure).ite ?_ : Maintains (Holding J) _) _ _ _ hdb hbody
  refine (aside leaves_require).bind fun _ => (aside leaves_require).bind fun _ =>
    (aside apart_order.updateOne).bind fun _ => Maintains.forM fun line _ => ?_
  exact releaseOrderProduct_eq order line ▸ maintains_releaseProduct (hJ _)

lemma maintains_shipOrder (hJ : ∀ p, Spares (orderSource id) p J) : Maintains (Holding J) (shipOrder id) := by
  intro db u db' hdb h
  obtain ⟨_, _, hget, hrest⟩ := commits_bind.mp h
  obtain ⟨rfl, rfl⟩ := commits_get.mp hget
  obtain ⟨order, t, hfind, hbody⟩ := commits_bind.mp hrest
  obtain ⟨hfound, rfl⟩ := commits_orThrow.mp hfind
  obtain ⟨_, rfl⟩ := find?_eq_some.mp hfound
  refine ((aside leaves_pure).ite ?_ : Maintains (Holding J) _) _ _ _ hdb hbody
  refine (aside leaves_require).bind fun _ => (Maintains.forM fun line _ => ?_).bind fun _ =>
    (Maintains.forM fun item _ => unmoved ?_).bind fun _ =>
      aside (apart_order.update.bind fun _ => leaves_pure)
  · exact shipOrderProduct_eq order line ▸ maintains_consumeProduct (hJ _)
  · exact leaves_get.bind fun _ => leaves_consumeBatches.ite leaves_pure

/-- A committed operation maintains what does not look at the rows that it concerns. -/
lemma StockOperation.holding {op : StockOperation} {u : Unit} (hdb : Holding J db)
    (hJ : ∀ s p, op.Concerns db s p → Spares s p J) (h : Commits op.tx db u db') : Holding J db' := by
  cases op with
  | reserve s w p q => exact maintains_reserveProduct (hJ s p ⟨rfl, rfl⟩) _ _ _ hdb h
  | release s w p q => exact maintains_releaseProduct (hJ s p ⟨rfl, rfl⟩) _ _ _ hdb h
  | consume s w p q => exact maintains_consumeProduct (hJ s p ⟨rfl, rfl⟩) _ _ _ hdb h
  | document c =>
    cases c with
    | tick now =>
      obtain rfl := commits_modify.mp h
      exact ⟨⟨hdb.1.located, hdb.1.promised, hdb.1.held, hdb.1.backed⟩, hdb.2⟩
    | createOrder w items => exact createOrder_holding hdb (fun p => hJ _ p rfl) h
    | progressOrder id status paid =>
      exact aside (apart_order.update.bind fun _ => leaves_pure) _ _ _ hdb h
    | cancelOrder id => exact maintains_cancelOrder (fun p => hJ _ p rfl) _ _ _ hdb h
    | shipOrder id => exact maintains_shipOrder (fun p => hJ _ p rfl) _ _ _ hdb h
    | createSale w prepared => exact maintains_createSale _ _ _ hdb h
    | confirmSaleReturn w id items =>
      exact Maintains.forM (fun _ _ => maintains_receiveStock) _ _ _ hdb h
    | confirmOrderReturn w id items =>
      exact Maintains.forM (fun _ _ => maintains_receiveStock.ite (unmoved leaves_pure)) _ _ _ hdb h
    | confirmPurchaseReturn w id items => exact maintains_confirmPurchaseReturnStock _ _ _ hdb h
    | confirmGoodsReceipt w id items =>
      exact Maintains.forM (fun _ _ => maintains_receiveStock.ite (unmoved leaves_pure)) _ _ _ hdb h
    | relocateLocation w p l l' q => exact maintains_relocateLocation _ _ _ hdb h
    | shipTransfer id => exact maintains_shipTransfer _ _ _ hdb h
    | receiveTransfer id inputs => exact maintains_receiveTransfer _ _ _ hdb h
    | createOpname w l => exact maintains_createOpname _ _ _ hdb h
    | countOpname id inputs =>
      refine unmoved ?_ _ _ _ hdb h
      refine leaves_get.bind fun _ => leaves_orThrow.bind fun _ => leaves_require.bind fun _ => ?_
      exact Leaves.forM fun _ => leaves_get.bind fun _ => leaves_orThrow.bind fun _ =>
        leaves_require.bind fun _ => apart_opnameItem.update.bind fun _ => leaves_pure
    | submitOpname id =>
      refine unmoved ?_ _ _ _ hdb h
      exact leaves_get.bind fun _ => leaves_orThrow.bind fun _ => leaves_require.bind fun _ =>
        apart_opname.update.bind fun _ => leaves_pure
    | completeOpname id => exact maintains_completeOpname _ _ _ hdb h

end Mayatoko.Stock
