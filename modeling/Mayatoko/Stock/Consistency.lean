import Mayatoko.Core.Frame
import Mayatoko.Stock.Opname
import Mayatoko.Stock.Operations

/-!
# The stock ledgers agree

Every transaction that moves stock pairs a location operation with a write to the aggregate. Here
each of them is shown to lead from a consistent state to a consistent state, and from that it
follows that in every state that transactions reach from warehouse-level stock the three ledgers
agree.
-/

namespace Mayatoko.Stock

open Core Db TableOf

variable {db db' : Db} {s : ℕ × ℕ} {δ : Counts}

/-! ### Writes outside the ledgers -/

def ledgerTables (db : Db) :=
  (db.locations, db.inventory, db.locationBalances, db.conditionBalances, db.reservations,
    db.orders)

lemma consistent_of_ledgerTables (h : ledgerTables db' = ledgerTables db) (hdb : Consistent db) :
    Consistent db' := by
  cases db
  cases db'
  simp only [ledgerTables, Prod.mk.injEq] at h
  obtain ⟨rfl, rfl, rfl, rfl, rfl, rfl⟩ := h
  exact ⟨⟨hdb.located, hdb.placed, hdb.free, hdb.classified, hdb.unclassified, hdb.unlocated,
    hdb.held, hdb.ordered⟩, hdb.totals⟩

lemma orders_of_ledgerTables (h : ledgerTables db' = ledgerTables db) : db'.orders = db.orders :=
  congrArg (fun t => t.2.2.2.2.2) h

def Preserves {α : Type} (x : StockTx α) : Prop :=
  ∀ db a db', Consistent db → Commits x db a db' → Consistent db' ∧ db'.orders = db.orders

variable {α : Type}

lemma quietly {x : StockTx α} (h : Leaves ledgerTables x) : Preserves x :=
  fun db a db' hdb hc => ⟨consistent_of_ledgerTables (h db a db' hc) hdb,
    orders_of_ledgerTables (h db a db' hc)⟩

lemma Preserves.bind {β : Type} {x : StockTx α} {f : α → StockTx β} (hx : Preserves x)
    (hf : ∀ a, Preserves (f a)) : Preserves (x >>= f) := by
  intro db b db' hdb hc
  obtain ⟨a, t, h₁, h₂⟩ := commits_bind.mp hc
  obtain ⟨ht, ho⟩ := hx db a t hdb h₁
  obtain ⟨ht', ho'⟩ := hf a t b db' ht h₂
  exact ⟨ht', ho'.trans ho⟩

lemma Preserves.forM {β : Type} {f : β → StockTx Unit} {l : List β}
    (hf : ∀ x ∈ l, Preserves (f x)) : Preserves (l.forM f) := by
  intro db u db' hdb hc
  have hI := Commits.forM (I := fun rest st =>
      (∀ x ∈ rest, Preserves (f x)) ∧ Consistent st ∧ st.orders = db.orders)
    (fun x xs st st' hI hx => ?_) hc ⟨hf, hdb, rfl⟩
  · exact hI.2
  · obtain ⟨hrest, hst, ho⟩ := hI
    obtain ⟨hst', ho'⟩ := hrest x mem_cons_self st () st' hst hx
    exact ⟨fun y hy => hrest y (mem_cons_of_mem x hy), hst', ho'.trans ho⟩

lemma Preserves.ite {c : Prop} [Decidable c] {x y : StockTx α} (hx : Preserves x)
    (hy : Preserves y) : Preserves (if c then x else y) := by
  split
  · exact hx
  · exact hy

lemma leaves_freshId : Leaves ledgerTables freshId := by
  intro db b db' hc
  simp only [freshId, commits_steps, commits_set] at hc
  obtain ⟨_, _, rfl, rfl, rfl⟩ := hc
  rfl

variable {w p r : ℕ} {type : InventoryMovementType} {q : ℤ}

lemma leaves_createMovements {t : String}
    {changes : List LocationAllocation} : Leaves ledgerTables (createMovements w p type q t r changes) := by
  intro db b db' hc
  obtain rfl := commits_modify.mp hc
  rfl

lemma apart_batch : Db.inventoryBatch.Apart ledgerTables := ⟨fun _ _ => rfl⟩

lemma apart_serial : Db.inventorySerial.Apart ledgerTables := ⟨fun _ _ => rfl⟩

lemma apart_transfer : Db.stockTransfer.Apart ledgerTables := ⟨fun _ _ => rfl⟩

lemma apart_transferItem : Db.stockTransferItem.Apart ledgerTables := ⟨fun _ _ => rfl⟩

lemma apart_opname : Db.stockOpname.Apart ledgerTables := ⟨fun _ _ => rfl⟩

lemma apart_opnameItem : Db.stockOpnameItem.Apart ledgerTables := ⟨fun _ _ => rfl⟩

variable {i : Inventory}

lemma find?_counts (hi : i ∈ db.inventory) (hk : i.key = (w, p)) : db.aggregate (w, p) = i.counts := by
  rw [aggregate, find?_eq_some.mpr ⟨hi, hk⟩]
  rfl

lemma updateOne_settles {guard : Inventory → Bool} {f : Inventory → Inventory}
    {e : Failure} {hf} {u : Unit} (h : Owes (w, p) δ db)
    (hc : Commits (Db.inventoryRow.updateOne guard f e hf) db u db')
    (hguard : ∀ i, guard i = true → i.key = (w, p))
    (hδ : ∀ i, (f i).counts = i.counts + δ) :
    Consistent db' ∧ db'.orders = db.orders ∧ db'.reservations = db.reservations := by
  obtain ⟨i, hi, hg, rfl⟩ := updateOne_commits hc
  have hk := hguard i hg
  refine ⟨h.settle ((hf i).trans hk) ?_, rfl, rfl⟩
  rw [find?_counts hi hk, hδ]

lemma addToInventory_settles (h : Owes (w, p) (q, 0, q) db)
    (hc : Commits (addToInventory w p q) db i db') : Consistent db' ∧ db'.orders = db.orders := by
  obtain ⟨hi, rfl⟩ := commits_upsert.mp hc
  change i = (db.inventory.find? (w, p)).elim _ _ at hi
  cases ho : db.inventory.find? (w, p) with
  | none =>
    rw [ho, Option.elim_none] at hi
    subst hi
    refine ⟨h.settle rfl ?_, rfl⟩
    simp [aggregate, ho, Inventory.counts]
  | some o =>
    rw [ho, Option.elim_some] at hi
    subst hi
    obtain ⟨_, hk⟩ := find?_eq_some.mp ho
    refine ⟨h.settle hk ?_, rfl⟩
    simp [aggregate, ho, Inventory.counts]

lemma takeFromInventory_settles
    (h : Owes (w, p) (-q, 0, -q) db) (hc : Commits (takeFromInventory w p q) db i db') :
    Consistent db' ∧ db'.orders = db.orders := by
  obtain ⟨o, ho, rfl, rfl⟩ := commits_update.mp hc
  obtain ⟨hom, hk⟩ := find?_eq_some.mp ho
  refine ⟨h.settle hk ?_, rfl⟩
  rw [find?_counts hom hk]
  simp [Inventory.counts, sub_eq_add_neg]

/-! ### Stock in, stock out, relocation -/

lemma receiveStock_preserves {t : String} {line : StockLine} : Preserves (receiveStock w type t r line) := by
  intro db u db' hdb hc
  simp only [receiveStock, commits_bind] at hc
  obtain ⟨l, t, hdep, i, t', hadd, hmov⟩ := hc
  have hm := depositLocationStock_commits hdb hdep
  obtain ⟨hcons, ho⟩ := addToInventory_settles hm.owes hadd
  have hquiet := leaves_createMovements _ _ _ hmov
  exact ⟨consistent_of_ledgerTables hquiet hcons, (orders_of_ledgerTables hquiet).trans (ho.trans hm.orders)⟩

lemma stockOut_preserves {f : List LocationAllocation → Inventory → StockTx Unit}
    (hf : ∀ as i, Leaves ledgerTables (f as i)) : Preserves (do
      let allocations ← consumeAvailableLocationStock w p q
      let inventory ← takeFromInventory w p q
      f allocations inventory) := by
  intro db u db' hdb hc
  simp only [commits_bind] at hc
  obtain ⟨as, t, hcons, i, t', htake, hrest⟩ := hc
  have hm := consumeAvailableLocationStock_commits hdb hcons
  obtain ⟨hcons', ho⟩ := takeFromInventory_settles hm.owes htake
  have hquiet := hf as i _ _ _ hrest
  exact ⟨consistent_of_ledgerTables hquiet hcons', (orders_of_ledgerTables hquiet).trans (ho.trans hm.orders)⟩

lemma leaves_checkSaleLine {line : StockLine} : Leaves ledgerTables (checkSaleLine w line) :=
  leaves_get.bind fun _ => leaves_require

lemma createSale_preserves {prepared : List StockLine} : Preserves (createSale w prepared) := by
  refine (Preserves.forM fun line _ => (quietly leaves_checkSaleLine)).bind fun _ => ?_
  refine (quietly leaves_freshId).bind fun saleId => ?_
  exact Preserves.forM fun line _ => stockOut_preserves fun _ _ => leaves_createMovements

variable {items : List ReturnLine}

lemma confirmSaleReturnStock_preserves : Preserves (confirmSaleReturnStock w r items) :=
  Preserves.forM fun _ _ => receiveStock_preserves

lemma confirmOrderReturnStock_preserves : Preserves (confirmOrderReturnStock w r items) :=
  Preserves.forM fun _ _ => receiveStock_preserves.ite (quietly leaves_pure)

lemma confirmGoodsReceiptStock_preserves {items : List StockLine} :
    Preserves (confirmGoodsReceiptStock w r items) :=
  Preserves.forM fun _ _ => receiveStock_preserves.ite (quietly leaves_pure)

lemma leaves_returnBatch {item : SupplierReturnLine} : Leaves ledgerTables (returnBatch w item) := by
  unfold returnBatch
  split
  · exact leaves_pure
  · refine leaves_get.bind fun _ => leaves_orThrow.bind fun _ => leaves_require.bind fun _ => ?_
    exact apart_batch.update.bind fun _ => leaves_pure

lemma confirmPurchaseReturnStock_preserves {items : List SupplierReturnLine} :
    Preserves (confirmPurchaseReturnStock w r items) := by
  refine Preserves.forM fun item _ => ?_
  refine (quietly leaves_get).bind fun _ => (quietly leaves_orThrow).bind fun _ =>
    (quietly leaves_require).bind fun _ => ?_
  exact stockOut_preserves fun _ _ => leaves_createMovements.bind fun _ => leaves_returnBatch

lemma relocateLocation_preserves {source destination : ℕ} :
    Preserves (relocateLocation w p source destination q) := by
  refine Preserves.bind (fun db u db' hdb hc => ?_) fun _ => ?_
  · have hm := relocateLocationStock_commits hdb hc
    exact ⟨hm.owes.consistent, hm.orders⟩
  · refine (quietly (leaves_freshId.bind fun _ => leaves_get.bind fun _ => ?_))
    exact leaves_createMovements.bind fun _ => leaves_createMovements

/-! ### Transfers -/

variable {item : StockTransferItem}

lemma leaves_shipTransferBatch {source : ℕ} : Leaves ledgerTables (shipTransferBatch source item) := by
  unfold shipTransferBatch
  split
  · exact leaves_pure
  · refine leaves_get.bind fun _ => leaves_orThrow.bind fun _ => leaves_require.bind fun _ => ?_
    exact leaves_require.bind fun _ => apart_batch.updateOne

variable {transfer : StockTransfer}

lemma leaves_shipTransferSerials : Leaves ledgerTables (shipTransferSerials transfer item) :=
  leaves_pure.ite (apart_serial.updateMany.bind fun _ => leaves_require)

variable {id : ℕ}

lemma shipTransfer_preserves : Preserves (shipTransfer id) := by
  refine (quietly leaves_get).bind fun _ => (quietly leaves_orThrow).bind fun transfer =>
    (quietly leaves_require).bind fun _ => ?_
  refine (Preserves.forM fun item _ => ?_).bind fun _ => ?_
  · refine (quietly leaves_get).bind fun _ => (quietly leaves_orThrow).bind fun _ =>
      (quietly leaves_require).bind fun _ => (quietly leaves_shipTransferBatch).bind fun _ =>
      (quietly leaves_shipTransferSerials).bind fun _ => ?_
    exact stockOut_preserves fun _ _ => leaves_createMovements.bind fun _ =>
      apart_transferItem.update.bind fun _ => leaves_pure
  · exact (quietly (leaves_require.bind fun _ => apart_transfer.update.bind fun _ =>
      leaves_pure))

lemma leaves_receiveTransferBatch : Leaves ledgerTables (receiveTransferBatch transfer item q) := by
  unfold receiveTransferBatch
  split
  · exact leaves_pure
  · exact leaves_get.bind fun _ => leaves_orThrow.bind fun _ => apart_batch.upsert.bind fun _ =>
      leaves_pure

lemma leaves_receiveTransferSerials
    {input : ReceiveStockTransferItem} {remaining : ℤ} :
    Leaves ledgerTables (receiveTransferSerials transfer item input remaining) := by
  refine leaves_pure.ite (leaves_get.bind fun _ => leaves_require.bind fun _ => ?_)
  exact leaves_require.bind fun _ => apart_serial.updateMany.bind fun _ => leaves_require

lemma receiveTransfer_preserves {inputs : List ReceiveStockTransferItem} :
    Preserves (receiveTransfer id inputs) := by
  refine (quietly leaves_get).bind fun _ => (quietly leaves_orThrow).bind fun transfer =>
    (quietly leaves_require).bind fun _ => ?_
  refine (Preserves.forM fun input _ => ?_).bind fun _ => ?_
  · refine (quietly leaves_orThrow).bind fun item => (quietly leaves_require).bind fun _ => ?_
    refine (quietly leaves_pure).ite ?_
    refine (quietly leaves_receiveTransferBatch).bind fun _ =>
      (quietly leaves_receiveTransferSerials).bind fun _ => receiveStock_preserves.bind fun _ => ?_
    exact (quietly (apart_transferItem.update.bind fun _ => leaves_pure))
  · exact (quietly (leaves_get.bind fun _ => leaves_require.bind fun _ => apart_transfer.update.bind
      fun _ => leaves_pure))

/-! ### Stock opname -/

lemma leaves_adjustOpnameBatch {item : StockOpnameItem} {d : ℤ} :
    Leaves ledgerTables (adjustOpnameBatch w item d) := by
  unfold adjustOpnameBatch
  split
  · exact leaves_pure
  · exact leaves_get.bind fun _ => leaves_orThrow.bind fun _ => leaves_require.bind fun _ =>
      apart_batch.update.bind fun _ => leaves_pure

variable {opname : StockOpname}

lemma adjustOpnameLocations_commits {d : ℤ} {as : List LocationAllocation} (hdb : Consistent db)
    (hc : Commits (adjustOpnameLocations opname p d) db as db') :
    Moved (opname.warehouseId, p) (d, 0, d) db db' := by
  unfold adjustOpnameLocations at hc
  split at hc
  · simp only [commits_steps] at hc
    obtain ⟨_, _, hadj, _, rfl⟩ := hc
    exact adjustLocationStock_commits hdb hadj
  · simp only [commits_ite, commits_steps] at hc
    obtain ⟨_, _, _, hdep, _, rfl⟩ | ⟨hneg, hcons⟩ := hc
    · exact depositLocationStock_commits hdb hdep
    · have hm := consumeAvailableLocationStock_commits hdb hcons
      have hd : (-(d.natAbs : ℤ), (0 : ℤ), -(d.natAbs : ℤ)) = (d, 0, d) := by
        simp only [Prod.mk.injEq, true_and]
        omega
      rwa [hd] at hm

lemma adjustOpnameInventory_settles {d : ℤ}
    (h : Owes (w, p) (d, 0, d) db) (hc : Commits (adjustOpnameInventory w p d) db i db') :
    Consistent db' ∧ db'.orders = db.orders := by
  simp only [adjustOpnameInventory, commits_steps, commits_upsert] at hc
  obtain ⟨_, hi, rfl⟩ := hc
  change i = (db.inventory.find? (w, p)).elim _ _ at hi
  cases ho : db.inventory.find? (w, p) with
  | none =>
    rw [ho, Option.elim_none] at hi
    subst hi
    refine ⟨h.settle rfl ?_, rfl⟩
    simp [aggregate, ho, Inventory.counts]
  | some o =>
    rw [ho, Option.elim_some] at hi
    subst hi
    obtain ⟨_, hk⟩ := find?_eq_some.mp ho
    refine ⟨h.settle hk ?_, rfl⟩
    simp [aggregate, ho, Inventory.counts]

lemma completeOpnameItem_preserves {item : StockOpnameItem} : Preserves (completeOpnameItem opname item) := by
  refine (quietly leaves_pure).ite ((quietly leaves_adjustOpnameBatch).bind fun _ => ?_)
  intro db u db' hdb hc
  simp only [commits_bind] at hc
  obtain ⟨as, t, hloc, i, t', hinv, hmov⟩ := hc
  have hm := adjustOpnameLocations_commits hdb hloc
  obtain ⟨hcons, ho⟩ := adjustOpnameInventory_settles hm.owes hinv
  have hquiet := leaves_createMovements _ _ _ hmov
  exact ⟨consistent_of_ledgerTables hquiet hcons, (orders_of_ledgerTables hquiet).trans (ho.trans hm.orders)⟩

lemma completeOpname_preserves : Preserves (completeOpname id) := by
  refine (quietly leaves_get).bind fun _ => (quietly leaves_orThrow).bind fun opname =>
    (quietly leaves_require).bind fun _ => (quietly leaves_require).bind fun _ => ?_
  refine (Preserves.forM fun item _ => completeOpnameItem_preserves).bind fun _ => ?_
  exact (quietly (apart_opname.update.bind fun _ => leaves_pure))

lemma leaves_snapshotInventory : Leaves ledgerTables (snapshotInventory i) :=
  leaves_get.bind fun _ => (leaves_require.bind fun _ => leaves_pure).ite (leaves_pure)

lemma leaves_snapshotWarehouse (is : List Inventory) : Leaves ledgerTables (snapshotWarehouse is) := by
  induction is with
  | nil => exact leaves_pure
  | cons i is ih =>
    exact leaves_snapshotInventory.bind fun _ => ih.bind fun _ => leaves_pure

lemma leaves_snapshot {loc : Option ℕ} {is : List Inventory} : Leaves ledgerTables (snapshot w loc is) := by
  cases loc with
  | none => exact leaves_snapshotWarehouse is
  | some l => exact leaves_get.bind fun _ => leaves_pure

lemma createOpname_preserves {loc : Option ℕ} : Preserves (createOpname w loc) := by
  refine (quietly leaves_get).bind fun _ => (quietly leaves_require).bind fun _ => ?_
  refine (Preserves.forM fun i _ => Preserves.bind (fun db a db' hdb hc => ?_) fun _ =>
    (quietly leaves_pure)).bind fun _ => (quietly leaves_snapshot).bind fun items => ?_
  · obtain ⟨hprep, -⟩ := prepareLocationInventory_commits hdb hc
    exact ⟨hprep.consistent, hprep.orders⟩
  · refine (quietly leaves_freshId).bind fun id => (quietly apart_opname.create).bind fun _ => ?_
    exact Preserves.forM fun item _ => (quietly (leaves_freshId.bind fun _ =>
      apart_opnameItem.create))

lemma countOpname_preserves {inputs : List CountStockOpnameItem} : Preserves (countOpname id inputs) := by
  refine (quietly leaves_get).bind fun _ => (quietly leaves_orThrow).bind fun opname =>
    (quietly leaves_require).bind fun _ => Preserves.forM fun input _ => ?_
  exact (quietly (leaves_get.bind fun _ => leaves_orThrow.bind fun _ => leaves_require.bind fun _ =>
    apart_opnameItem.update.bind fun _ => leaves_pure))

lemma submitOpname_preserves : Preserves (submitOpname id) :=
  (quietly (leaves_get.bind fun _ => leaves_orThrow.bind fun _ => leaves_require.bind fun _ =>
    apart_opname.update.bind fun _ => leaves_pure))

/-! ### Orders -/

/-- The order of an id exists and is for the warehouse `w`. -/
def Db.Ordered (db : Db) (id w : ℕ) : Prop := ∃ o ∈ db.orders, o.id = id ∧ o.warehouseId = w

lemma Db.Ordered.sourced (h : db.Ordered id w) : db.Sourced (orderSource id) w :=
  fun _ => h

lemma Db.Ordered.heldIn (hdb : Consistent db) (h : db.Ordered id w) : db.HeldIn (orderSource id) w := by
  intro r hr htype hid
  obtain ⟨o, ho, hoid, how⟩ := hdb.ordered r hr htype
  obtain ⟨o', ho', hoid', how'⟩ := h
  rw [← how', ← how, eq_of_key_eq ho ho' (hoid.trans (hid.trans hoid'.symm))]

lemma Db.Consistent.writeOrder (hdb : Consistent db) {o : Order}
    (hw : ∀ x ∈ db.orders, x.id = o.id → x.warehouseId = o.warehouseId) :
    Consistent { db with orders := db.orders.put o } := by
  refine ⟨⟨hdb.located, hdb.placed, hdb.free, hdb.classified, hdb.unclassified, hdb.unlocated,
    hdb.held, fun r hr htype => ?_⟩, hdb.totals⟩
  obtain ⟨x, hx, hid, hxw⟩ := hdb.ordered r hr htype
  by_cases hxo : x.id = o.id
  · exact ⟨o, mem_put_self _ _, hxo.symm.trans hid, (hw x hx hxo).symm.trans hxw⟩
  · exact ⟨x, mem_put.mpr (Or.inr ⟨hx, hxo⟩), hid, hxw⟩

/-- The reservations of an order are for none of the products of `lines`. -/
def Db.Unreserved (db : Db) (id : ℕ) (lines : List (ℕ × ℕ)) : Prop :=
  ∀ r ∈ db.reservations, r.sourceType = "Order" → r.sourceId = id →
    ∀ line ∈ lines, r.productId ≠ line.1

variable {line : ℕ × ℕ} {u : Unit}

lemma reserveOrderProduct_commits {rest : List (ℕ × ℕ)}
    (hdb : Consistent db) (ho : db.Ordered id w) (hun : db.Unreserved id (line :: rest))
    (hne : ∀ x ∈ rest, line.1 ≠ x.1)
    (hc : Commits (reserveOrderProduct id w line) db u db') :
    Consistent db' ∧ db'.Ordered id w ∧ db'.Unreserved id rest := by
  simp only [reserveOrderProduct, commits_bind] at hc
  obtain ⟨as, t, hres, hup⟩ := hc
  have hfresh : db.activeReservations (orderSource id) line.1 = [] := by
    rw [List.eq_nil_iff_forall_not_mem]
    intro r hr
    obtain ⟨hrm, hrp⟩ := mem_findMany.mp hr
    simp only [cond_iff] at hrp
    exact hun r hrm hrp.1.1.1 hrp.1.1.2 line mem_cons_self hrp.1.2
  obtain ⟨hk, howes, hnew⟩ := reserveLocationStock_commits hdb ho.sourced hfresh hres
  obtain ⟨hcons, ho', hr'⟩ := updateOne_settles howes hup (fun i hi => by
    simp only [cond_iff] at hi
    exact hi.1) fun i => by simp [Inventory.counts, sub_eq_add_neg]
  refine ⟨hcons, ?_, fun r hr htype hid x hx => ?_⟩
  · rw [Db.Ordered, ho', hk.orders]
    exact ho
  · rw [hr'] at hr
    rcases hnew r hr with hr | hr
    · exact hun r hr htype hid x (mem_cons_of_mem _ hx)
    · rw [hr]
      exact hne x hx

lemma createOrder_consistent {items : List OrderItem} (hdb : Consistent db)
    (hc : Commits (createOrder w items) db u db') : Consistent db' := by
  simp only [createOrder, commits_bind, commits_create] at hc
  obtain ⟨id, t, hid, _, _, ⟨hfree, rfl⟩, hloop⟩ := hc
  have ht := consistent_of_ledgerTables (leaves_freshId _ _ _ hid) hdb
  have hfree := find?_eq_none.mp hfree
  have hcons := ht.writeOrder (o := { id, warehouseId := w, status := .pendingPayment, items })
    fun x hx hxid => absurd hxid (hfree x hx)
  have hnodup := (quantitiesByProduct items).nodup
  have hI := Commits.forM (I := fun rest st =>
      Consistent st ∧ st.Ordered id w ∧ st.Unreserved id rest ∧
        (rest.map Prod.fst).Nodup)
    (fun x xs st st' hI hx => ?_) hloop ⟨hcons, ⟨_, mem_put_self _ _, rfl, rfl⟩, ?_, hnodup⟩
  · exact hI.1
  · obtain ⟨hst, ho, hun, hnd⟩ := hI
    rw [map_cons, nodup_cons] at hnd
    obtain ⟨hst', ho', hun'⟩ := reserveOrderProduct_commits hst ho hun
      (fun y hy hxy => hnd.1 (mem_map.mpr ⟨y, hy, hxy.symm⟩)) hx
    exact ⟨hst', ho', hun', hnd.2⟩
  · -- an id that no order had is the source of no reservation
    intro r hr htype hrid
    obtain ⟨o, ho, hoid, _⟩ := ht.ordered r hr htype
    exact absurd (hoid.trans hrid) (hfree o ho)

variable {order : Order}

lemma releaseOrderProduct_commits
    (hdb : Consistent db) (ho : db.Ordered order.id order.warehouseId)
    (hc : Commits (releaseOrderProduct order line) db u db') :
    Consistent db' ∧ db'.orders = db.orders := by
  simp only [releaseOrderProduct, commits_steps] at hc
  obtain ⟨as, t, hrel, hup⟩ := hc
  obtain ⟨hk, howes⟩ := releaseLocationReservations_commits hdb (ho.heldIn hdb) (Int.natCast_nonneg _) hrel
  obtain ⟨hcons, ho', _⟩ := updateOne_settles howes hup (fun i hi => by
    simp only [cond_iff] at hi
    exact hi.1) fun i => by simp [Inventory.counts, sub_eq_add_neg]
  exact ⟨hcons, ho'.trans hk.orders⟩

lemma shipOrderProduct_commits
    (hdb : Consistent db) (ho : db.Ordered order.id order.warehouseId)
    (hc : Commits (shipOrderProduct order line) db u db') :
    Consistent db' ∧ db'.orders = db.orders := by
  simp only [shipOrderProduct, commits_bind, commits_get] at hc
  obtain ⟨as, t, hcon, _, _, ⟨rfl, rfl⟩, _, t', hup, _, _, ⟨rfl, rfl⟩, i, t'', hfind, hmov⟩ := hc
  obtain ⟨hk, howes⟩ := consumeLocationReservations_commits hdb (ho.heldIn hdb) (Int.natCast_nonneg _) hcon
  obtain ⟨hcons, ho', _⟩ := updateOne_settles howes hup (fun i hi => by
    simp only [cond_iff] at hi
    exact hi.1.1) fun i => by simp [Inventory.counts, sub_eq_add_neg]
  have hquiet := (leaves_createMovements _ _ _ hmov).trans (leaves_orThrow _ _ _ hfind)
  exact ⟨consistent_of_ledgerTables hquiet hcons, (orders_of_ledgerTables hquiet).trans (ho'.trans hk.orders)⟩

lemma orderLoop_consistent {f : ℕ × ℕ → StockTx Unit}
    (hf : ∀ line st st', Consistent st → st.Ordered order.id order.warehouseId →
      Commits (f line) st () st' → Consistent st' ∧ st'.orders = st.orders)
    {lines : List (ℕ × ℕ)} {u : Unit} (hdb : Consistent db)
    (ho : db.Ordered order.id order.warehouseId) (hc : Commits (lines.forM f) db u db') :
    Consistent db' ∧ db'.orders = db.orders :=
  Commits.forM (I := fun _ st => Consistent st ∧ st.orders = db.orders)
    (fun x _ st st' hI hx => by
      obtain ⟨hst, ho'⟩ := hI
      obtain ⟨hst', ho''⟩ := hf x st st' hst (by rw [Db.Ordered, ho']; exact ho) hx
      exact ⟨hst', ho''.trans ho'⟩) hc ⟨hdb, rfl⟩

lemma cancelOrder_consistent (hdb : Consistent db)
    (hc : Commits (cancelOrder id) db u db') : Consistent db' := by
  simp only [cancelOrder, commits_steps, commits_ite] at hc
  obtain ⟨order, hfind, ⟨_, _, rfl⟩ | ⟨_, _, _, _, t, hclaim, hloop⟩⟩ := hc
  · exact hdb
  · obtain ⟨o, ho, hg, rfl⟩ := updateOne_commits hclaim
    obtain ⟨hom, hoid⟩ := find?_eq_some.mp hfind
    simp only [cond_iff] at hg
    obtain rfl : o = order := eq_of_key_eq ho hom hg.1
    have hcons := hdb.writeOrder (o := { o with status := .cancelled }) fun x hx hxid => by
      rw [eq_of_key_eq hx ho hxid]
    exact (orderLoop_consistent (fun line st st' => releaseOrderProduct_commits) hcons
      ⟨_, mem_put_self _ _, rfl, rfl⟩ hloop).1

lemma leaves_consumeBatchAt {batch : InventoryBatch} {n : ℤ} : Leaves ledgerTables (consumeBatchAt batch n) :=
  leaves_pure.ite (apart_batch.updateOne.bind fun _ => leaves_pure)

lemma leaves_consumeBatches : Leaves ledgerTables (consumeBatches w p q) := by
  exact leaves_get.bind fun _ => (Leaves.allocate fun _ _ => leaves_consumeBatchAt).bind fun _ =>
    leaves_require

lemma shipOrder_consistent (hdb : Consistent db) (hc : Commits (shipOrder id) db u db') : Consistent db' := by
  simp only [shipOrder, commits_steps, commits_ite, commits_update] at hc
  obtain ⟨order, hfind, ⟨_, _, rfl⟩ | ⟨_, _, _, t, hloop, _, t', hbatch, _, _, ⟨o, ho, rfl, rfl⟩, _, rfl⟩⟩ := hc
  · exact hdb
  · obtain ⟨hom, rfl⟩ := find?_eq_some.mp hfind
    obtain ⟨hcons, _⟩ := orderLoop_consistent (fun line st st' => shipOrderProduct_commits) hdb
      ⟨order, hom, rfl, rfl⟩ hloop
    have hquiet : Preserves (order.items.forM (shipOrderBatches order)) :=
      Preserves.forM fun item _ => (quietly leaves_get).bind fun _ =>
        (quietly (leaves_consumeBatches.ite (leaves_pure)))
    obtain ⟨hcons', _⟩ := hquiet _ _ _ hcons hbatch
    obtain ⟨hom', _⟩ := find?_eq_some.mp ho
    exact hcons'.writeOrder (o := { o with status := .shipped }) fun x hx hxid => by
      rw [eq_of_key_eq hx hom' hxid]

/-! ### Runs -/

/-- A transaction that a client or the clock may bring about. `progressOrder` stands for payment
and packing, which write only the status and the payments of an order. -/
inductive StockCommand
  | tick (now : ℕ)
  | createOrder (warehouseId : ℕ) (items : List OrderItem)
  | progressOrder (id : ℕ) (status : OrderStatus) (paid : Bool)
  | cancelOrder (id : ℕ)
  | shipOrder (id : ℕ)
  | createSale (warehouseId : ℕ) (prepared : List StockLine)
  | confirmSaleReturn (warehouseId returnId : ℕ) (items : List ReturnLine)
  | confirmOrderReturn (warehouseId returnId : ℕ) (items : List ReturnLine)
  | confirmPurchaseReturn (warehouseId returnId : ℕ) (items : List SupplierReturnLine)
  | confirmGoodsReceipt (warehouseId receiptId : ℕ) (items : List StockLine)
  | relocateLocation (warehouseId productId source destination : ℕ) (quantity : ℤ)
  | shipTransfer (id : ℕ)
  | receiveTransfer (id : ℕ) (inputs : List ReceiveStockTransferItem)
  | createOpname (warehouseId : ℕ) (locationId : Option ℕ)
  | countOpname (id : ℕ) (inputs : List CountStockOpnameItem)
  | submitOpname (id : ℕ)
  | completeOpname (id : ℕ)

def StockCommand.tx : StockCommand → StockTx Unit
  | tick now => modify fun db => { db with now }
  | createOrder w items => Stock.createOrder w items
  | progressOrder id status paid => do
    let _ ← Db.order.update id (fun o => { o with status, paid }) .recordNotFound
  | cancelOrder id => Stock.cancelOrder id
  | shipOrder id => Stock.shipOrder id
  | createSale w prepared => Stock.createSale w prepared
  | confirmSaleReturn w id items => confirmSaleReturnStock w id items
  | confirmOrderReturn w id items => confirmOrderReturnStock w id items
  | confirmPurchaseReturn w id items => confirmPurchaseReturnStock w id items
  | confirmGoodsReceipt w id items => confirmGoodsReceiptStock w id items
  | relocateLocation w p source destination q => Stock.relocateLocation w p source destination q
  | shipTransfer id => Stock.shipTransfer id
  | receiveTransfer id inputs => Stock.receiveTransfer id inputs
  | createOpname w l => Stock.createOpname w l
  | countOpname id inputs => Stock.countOpname id inputs
  | submitOpname id => Stock.submitOpname id
  | completeOpname id => Stock.completeOpname id

def StockStep (db : Db) (c : StockCommand) (db' : Db) : Prop := db' = (execute c.tx db).2

/-- Stock is kept at warehouse level only: aggregates that add up, no balances, no conditions, no
reservations. -/
structure WarehouseLevelOnly (db : Db) : Prop where
  inventory : ∀ i ∈ db.inventory, 0 ≤ i.quantity ∧ 0 ≤ i.reserved ∧ 0 ≤ i.available ∧
    i.quantity = i.reserved + i.available
  locationBalances : db.locationBalances = .empty
  conditionBalances : db.conditionBalances = .empty
  reservations : db.reservations = .empty

lemma WarehouseLevelOnly.consistent (h : WarehouseLevelOnly db) : Consistent db := by
  have hb : ∀ b, ¬ b ∈ db.locationBalances := fun b hb =>
    not_mem_empty b (h.locationBalances ▸ hb)
  have hc : ∀ c, ¬ c ∈ db.conditionBalances := fun c hc =>
    not_mem_empty c (h.conditionBalances ▸ hc)
  have hr : ∀ r, ¬ r ∈ db.reservations := fun r hr =>
    not_mem_empty r (h.reservations ▸ hr)
  refine ⟨⟨fun b hm => absurd hm (hb b), fun c hm => absurd hm (hc c),
    fun b hm => absurd hm (hb b), fun s _ b hm => absurd hm (hb b),
    fun b hm => absurd hm (hb b), fun i hi _ => ?_, fun r hm => absurd hm (hr r),
    fun r hm => absurd hm (hr r)⟩, fun k ⟨b, hm, _⟩ => absurd hm (hb b)⟩
  obtain ⟨_, hres, hav, hq⟩ := h.inventory i hi
  exact ⟨hres, hav, hq⟩

/-- A committed transaction leads from a consistent state to a consistent state. -/
lemma StockCommand.consistent {c : StockCommand} (hdb : Consistent db)
    (hc : Commits c.tx db u db') : Consistent db' := by
  cases c with
  | tick now =>
    obtain rfl := commits_modify.mp hc
    have hsame : ledgerTables { db with now } = ledgerTables db := rfl
    exact consistent_of_ledgerTables hsame hdb
  | createOrder w items => exact createOrder_consistent hdb hc
  | progressOrder id status paid =>
    simp only [tx, commits_steps, commits_update] at hc
    obtain ⟨_, _, ⟨o, ho, rfl, rfl⟩, _, rfl⟩ := hc
    obtain ⟨hom, _⟩ := find?_eq_some.mp ho
    exact hdb.writeOrder (o := { o with status, paid }) fun x hx hxid => by
      rw [eq_of_key_eq hx hom hxid]
  | cancelOrder id => exact cancelOrder_consistent hdb hc
  | shipOrder id => exact shipOrder_consistent hdb hc
  | createSale w prepared => exact (createSale_preserves _ _ _ hdb hc).1
  | confirmSaleReturn w id items => exact (confirmSaleReturnStock_preserves _ _ _ hdb hc).1
  | confirmOrderReturn w id items => exact (confirmOrderReturnStock_preserves _ _ _ hdb hc).1
  | confirmPurchaseReturn w id items =>
    exact (confirmPurchaseReturnStock_preserves _ _ _ hdb hc).1
  | confirmGoodsReceipt w id items => exact (confirmGoodsReceiptStock_preserves _ _ _ hdb hc).1
  | relocateLocation w p source destination q =>
    exact (relocateLocation_preserves _ _ _ hdb hc).1
  | shipTransfer id => exact (shipTransfer_preserves _ _ _ hdb hc).1
  | receiveTransfer id inputs => exact (receiveTransfer_preserves _ _ _ hdb hc).1
  | createOpname w l => exact (createOpname_preserves _ _ _ hdb hc).1
  | countOpname id inputs => exact (countOpname_preserves _ _ _ hdb hc).1
  | submitOpname id => exact (submitOpname_preserves _ _ _ hdb hc).1
  | completeOpname id => exact (completeOpname_preserves _ _ _ hdb hc).1

lemma StockStep.consistent {c : StockCommand} (hdb : Consistent db) (h : StockStep db c db') :
    Consistent db' := by
  subst h
  rcases execute_cases c.tx db with ⟨u, _, hc⟩ | ⟨e, _, hs⟩
  · exact StockCommand.consistent hdb hc
  · rw [hs]
    exact hdb

/-- In every state that stock transactions reach from warehouse-level stock the three ledgers of
every product in every warehouse agree, and a transaction that throws leaves the state as it
was. -/
theorem ledgersAgree_of_run {db₀ : Db} (h₀ : WarehouseLevelOnly db₀) {cs : List StockCommand}
    (h : Run StockStep db₀ cs db) :
    (∀ w p, db.LedgersAgree w p) ∧
      ∀ c e, (execute c.tx db).1 = Except.error e → (execute (StockCommand.tx c) db).2 = db := by
  have hcons : Consistent db :=
    h.invariant (fun _ _ _ hs hstep => StockStep.consistent hs hstep) h₀.consistent
  exact ⟨fun w p => hcons.ledgersAgree w p, fun c e he => execute_state_of_error he⟩

def warehouseStock : Db :=
  { Db.empty with
    inventory := Table.empty.put
      { warehouseId := 1, productId := 1, quantity := 10, reserved := 2, available := 8 }
    orders := Table.empty.put
      { id := 7, warehouseId := 1, status := .packed, items := [⟨1, 2⟩] } }

def sellAndShip : List StockCommand :=
  [.createSale 1 [⟨1, 3⟩], .createOrder 1 [⟨1, 2⟩, ⟨1, 1⟩], .shipOrder 7]

def attemptAll (db : Db) (cs : List StockCommand) : Db :=
  cs.foldl (fun db c => (execute c.tx db).2) db

lemma run_attemptAll (db : Db) (cs : List StockCommand) : Run StockStep db cs (attemptAll db cs) := by
  induction cs generalizing db with
  | nil => exact Run.nil db
  | cons c cs ih => exact Run.cons rfl (ih _)

lemma warehouseStock_warehouseLevelOnly : WarehouseLevelOnly warehouseStock := by
  refine ⟨fun i hi => ?_, rfl, rfl, rfl⟩
  rcases mem_put.mp hi with rfl | ⟨hi, _⟩
  · decide
  · exact absurd hi (not_mem_empty i)

theorem ledgersAgree_after_sellAndShip : (attemptAll warehouseStock sellAndShip).LedgersAgree 1 1 :=
  (ledgersAgree_of_run warehouseStock_warehouseLevelOnly (run_attemptAll _ _)).1 1 1

example : (attemptAll warehouseStock sellAndShip).totals (1, 1) = (5, 3, 2) := by
  decide +kernel

end Mayatoko.Stock
