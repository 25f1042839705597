import Mayatoko.Stock.Ledger
import Mayatoko.Stock.LocationFrame
import Mayatoko.Stock.Transfer

/-!
# Receipts of a stock transfer

A committed receipt adds to each item of the transfer the sum of the entries that name it, and the
same to the aggregate stock of the destination. Every entry is checked against what remained before
the receipt, so the received quantity stays within the shipped one exactly if the entries of the
receipt do so together.
-/

namespace Mayatoko.Stock

open Core Db TableOf

variable {db db' : Db} {id : ℕ} {transfer : StockTransfer}

def entryTotal (inputs : List ReceiveStockTransferItem) (itemId : ℕ) : ℤ :=
  (inputs.map fun input => if input.transferItemId = itemId then (input.receivedQty : ℤ) else 0).sum

@[simp] lemma entryTotal_nil (itemId : ℕ) : entryTotal [] itemId = 0 := rfl

@[simp] lemma entryTotal_cons (input : ReceiveStockTransferItem)
    (inputs : List ReceiveStockTransferItem) (itemId : ℕ) :
    entryTotal (input :: inputs) itemId =
      (if input.transferItemId = itemId then (input.receivedQty : ℤ) else 0) +
        entryTotal inputs itemId := rfl

lemma entryTotal_nonneg (inputs : List ReceiveStockTransferItem) (itemId : ℕ) :
    0 ≤ entryTotal inputs itemId := by
  induction inputs with
  | nil => exact le_refl _
  | cons input inputs ih =>
    rw [entryTotal_cons]
    split <;> omega

def Db.received (db : Db) : ℕ × ℕ → ℤ :=
  db.transferItems.sumBy (fun i => (i.transferId, i.productId)) StockTransferItem.receivedQty

def Db.onHand (db : Db) (s : ℕ × ℕ) : ℤ := (db.aggregate s).1

def ReceiptsBounded (id : ℕ) (db : Db) : Prop :=
  ∀ i ∈ db.itemsOfTransfer id, 0 ≤ i.receivedQty ∧ i.receivedQty ≤ i.shippedQty

def WithinRemaining (id : ℕ) (db : Db) (inputs : List ReceiveStockTransferItem) : Prop :=
  ∀ i ∈ db.itemsOfTransfer id, entryTotal inputs i.id ≤ i.shippedQty - i.receivedQty

def ReceiveStep (id : ℕ) (db : Db) (inputs : List ReceiveStockTransferItem) (db' : Db) : Prop :=
  Commits (receiveTransfer id inputs) db () db'

/-! ### One entry -/

def receiptTables (db : Db) := (db.inventory, db.transferItems, db.transfers)

lemma offLocations_receiptTables : OffLocations receiptTables := ⟨fun _ _ _ _ _ _ => rfl⟩

variable {item : StockTransferItem}

lemma leaves_batch {q : ℤ} : Leaves receiptTables (receiveTransferBatch transfer item q) := by
  unfold receiveTransferBatch
  split
  · exact leaves_pure
  · exact leaves_get.bind fun _ => leaves_orThrow.bind fun _ =>
      (Apart.upsert ⟨fun _ _ => rfl⟩).bind fun _ => leaves_pure

variable {input : ReceiveStockTransferItem}

lemma leaves_serials
    {remaining : ℤ} : Leaves receiptTables (receiveTransferSerials transfer item input remaining) :=
  leaves_pure.ite <| leaves_get.bind fun _ => leaves_require.bind fun _ =>
    leaves_require.bind fun _ => (Apart.updateMany ⟨fun _ _ => rfl⟩).bind fun _ => leaves_require

/-- A stock-in adds its quantity to the aggregate of its stock and to no other. -/
lemma receiveStock_onHand {w r : ℕ} {type : InventoryMovementType} {t : String} {line : StockLine}
    {u : Unit} (h : Commits (receiveStock w type t r line) db u db') :
    db'.transferItems = db.transferItems ∧ db'.transfers = db.transfers ∧
      db'.onHand = db.onHand + Pi.single (w, line.productId) line.quantity := by
  simp only [receiveStock, commits_bind] at h
  obtain ⟨l, t, hdep, i, t', hadd, hmov⟩ := h
  have hdep := offLocations_receiptTables.depositLocationStock _ _ _ hdep
  simp only [receiptTables, Prod.mk.injEq] at hdep
  obtain ⟨hinv, hitems, htr⟩ := hdep
  obtain ⟨hi, rfl⟩ := commits_upsert.mp hadd
  obtain rfl := commits_modify.mp hmov
  refine ⟨hitems, htr, ?_⟩
  funext k
  change i = (t.inventory.find? (w, line.productId)).elim _ _ at hi
  have hkey : i.key = (w, line.productId) := by
    cases ho : t.inventory.find? (w, line.productId) with
    | none =>
      rw [ho] at hi
      rw [hi]
      rfl
    | some o =>
      rw [ho] at hi
      rw [hi]
      exact (find?_eq_some.mp ho).2
  change ((t.inventory.put i).find? k |>.elim 0 Inventory.counts).1 = _
  rw [Table.find?_put, hkey, Pi.add_apply, Db.onHand, aggregate, ← hinv]
  by_cases hk : k = (w, line.productId)
  · subst hk
    rw [if_pos rfl, Pi.single_eq_same]
    cases ho : t.inventory.find? (w, line.productId) with
    | none =>
      rw [ho] at hi
      simp [hi, Inventory.counts]
    | some o =>
      rw [ho] at hi
      simp [hi, Inventory.counts]
  · rw [if_neg hk, Pi.single_eq_of_ne hk, add_zero]

lemma mem_itemsOfTransfer {i : StockTransferItem} :
    i ∈ db.itemsOfTransfer id ↔ i ∈ db.transferItems ∧ i.transferId = id := by
  simp [itemsOfTransfer, mem_findMany]

/-! ### A whole receipt -/

/-- Half way through the receipt `inputs` of a transfer: the entries of `rest` are still to come. -/
structure Receiving (transfer : StockTransfer) (db : Db) (inputs rest : List ReceiveStockTransferItem)
    (st : Db) : Prop where
  current : ∀ i ∈ db.itemsOfTransfer transfer.id, st.transferItems.find? i.id =
    some { i with receivedQty := i.receivedQty + (entryTotal inputs i.id - entryTotal rest i.id) }
  closed : ∀ r ∈ st.transferItems, r.transferId = transfer.id →
    ∃ i ∈ db.itemsOfTransfer transfer.id, i.id = r.id
  added : ∀ p, st.onHand (transfer.destinationWarehouseId, p) -
      db.onHand (transfer.destinationWarehouseId, p) =
    st.received (transfer.id, p) - db.received (transfer.id, p)
  route : ∃ t, st.transfers.find? transfer.id = some t ∧
    t.destinationWarehouseId = transfer.destinationWarehouseId

lemma Receiving.init (htr : db.transfers.find? transfer.id = some transfer)
    (inputs : List ReceiveStockTransferItem) : Receiving transfer db inputs inputs db := by
  refine ⟨fun i hi => ?_, fun r hr hid => ⟨r, mem_itemsOfTransfer.mpr ⟨hr, hid⟩, rfl⟩,
    fun p => by rw [sub_self, sub_self], ⟨transfer, htr, rfl⟩⟩
  rw [sub_self, add_zero]
  exact find?_of_mem (mem_itemsOfTransfer.mp hi).1

variable {inputs rest : List ReceiveStockTransferItem}

lemma Receiving.skip {st : Db}
    (h : Receiving transfer db inputs (input :: rest) st) (hq : input.receivedQty = 0) :
    Receiving transfer db inputs rest st := by
  refine ⟨fun i hi => ?_, h.closed, h.added, h.route⟩
  rw [h.current i hi, entryTotal_cons, hq]
  simp

variable {r : StockTransferItem}

/-- An entry adds its quantity to its item and to the stock of the destination. -/
lemma Receiving.entry {st st' st'' : Db} (h : Receiving transfer db inputs (input :: rest) st)
    (hitem : item ∈ db.itemsOfTransfer transfer.id) (hid : item.id = input.transferItemId)
    (hitems : st'.transferItems = st.transferItems) (htr : st'.transfers = st.transfers)
    (hstock : st'.onHand = st.onHand +
      Pi.single (transfer.destinationWarehouseId, item.productId) (input.receivedQty : ℤ))
    (hr : st'.transferItems.find? item.id = some r)
    (hput : st'' = Db.stockTransferItem.write st'
      { r with receivedQty := r.receivedQty + input.receivedQty }) :
    Receiving transfer db inputs rest st'' := by
  obtain ⟨hitemm, hitemt⟩ := mem_itemsOfTransfer.mp hitem
  have hcur := h.current item hitem
  rw [← hitems, hr] at hcur
  have hrow := Option.some.inj hcur
  subst hput
  refine ⟨fun i hi => ?_, fun x hx hxt => ?_, fun p => ?_, ?_⟩
  · change (st'.transferItems.put _).find? i.id = _
    rw [Table.find?_put]
    by_cases hii : i.id = item.id
    · have : i = item := eq_of_key_eq (mem_itemsOfTransfer.mp hi).1 hitemm hii
      subst this
      rw [if_pos (by rw [hrow]), hrow, entryTotal_cons, if_pos hid.symm]
      congr 2
      dsimp only
      omega
    · rw [if_neg (by rw [hrow]; exact hii), hitems, h.current i hi, entryTotal_cons,
        if_neg (fun he => hii (he.symm.trans hid.symm)), zero_add]
  · rcases mem_put.mp hx with rfl | ⟨hx, _⟩
    · exact ⟨item, hitem, by rw [hrow]⟩
    · exact h.closed x (hitems ▸ hx) hxt
  · have hrm := (find?_eq_some.mp hr).1
    have hgroup : (r.transferId, r.productId) = (transfer.id, item.productId) := by
      rw [hrow, ← hitemt]
    have hrec : (Db.stockTransferItem.write st'
          { r with receivedQty := r.receivedQty + input.receivedQty }).received =
        st'.received + Pi.single (transfer.id, item.productId) (input.receivedQty : ℤ) := by
      change (st'.transferItems.put _).sumBy _ _ = _
      rw [Table.sumBy_put_of_mem hrm (by rfl) (by rfl)]
      simp only [hgroup, add_sub_cancel_left]
      rfl
    have hon : (Db.stockTransferItem.write st'
          { r with receivedQty := r.receivedQty + input.receivedQty }).onHand = st'.onHand := rfl
    have hsame : st'.received = st.received := by rw [Db.received, hitems]; rfl
    have hadded := h.added p
    rw [hon, hrec, hstock, hsame, Pi.add_apply, Pi.add_apply]
    by_cases hp : p = item.productId
    · subst hp
      rw [Pi.single_eq_same, Pi.single_eq_same]
      omega
    · rw [Pi.single_eq_of_ne (by simp [hp]), Pi.single_eq_of_ne (by simp [hp])]
      omega
  · change ∃ t, st'.transfers.find? transfer.id = some t ∧ _
    rw [htr]
    exact h.route

lemma receiveTransferEntry_commits {st st' : Db} (h : Receiving transfer db inputs (input :: rest) st)
    (hc : Commits (receiveTransferEntry transfer (db.itemsOfTransfer transfer.id) input) st () st') :
    Receiving transfer db inputs rest st' := by
  simp only [receiveTransferEntry, commits_steps, commits_ite, commits_update] at hc
  obtain ⟨item, hfind, _, ⟨hq, _, rfl⟩ | ⟨_, _, t₁, hbatch, _, t₂, hserial, _, t₃, hstock, _, _, ⟨r, hr, rfl,
    rfl⟩, _, rfl⟩⟩ := hc
  · exact h.skip hq
  · have hitem := List.mem_of_find?_eq_some hfind
    have hid : item.id = input.transferItemId := by simpa using List.find?_some hfind
    have hbatch := leaves_batch _ _ _ hbatch
    have hserial := leaves_serials _ _ _ hserial
    obtain ⟨hitems, htr, hon⟩ := receiveStock_onHand hstock
    have hquiet := hserial.trans hbatch
    simp only [receiptTables, Prod.mk.injEq] at hquiet
    obtain ⟨hinv, hitems', htr'⟩ := hquiet
    have hon' : t₂.onHand = st.onHand := by
      funext k
      rw [Db.onHand, Db.onHand, aggregate, aggregate, hinv]
    rw [hon'] at hon
    exact h.entry hitem hid (hitems.trans hitems') (htr.trans htr') hon hr rfl

lemma receiveTransfer_commits
    (hc : Commits (receiveTransfer id inputs) db () db') :
    ∃ transfer, db.transfers.find? id = some transfer ∧ Receiving transfer db inputs [] db' := by
  simp only [receiveTransfer, commits_steps, commits_update] at hc
  obtain ⟨transfer, htr, _, _, st, hloop, _, _, _, ⟨t, ht, rfl, rfl⟩, _, rfl⟩ := hc
  obtain rfl := (find?_eq_some.mp htr).2
  have h := Commits.forM (I := Receiving transfer db inputs)
    (fun x xs st st' hI hx => receiveTransferEntry_commits hI hx) hloop (Receiving.init htr inputs)
  refine ⟨transfer, htr, h.current, h.closed, h.added, ?_⟩
  obtain ⟨t₀, ht₀, hdest⟩ := h.route
  obtain rfl : t₀ = t := mem_unique ht₀ ht
  obtain ⟨_, hid⟩ := find?_eq_some.mp ht
  have hself (status : StockTransferStatus) :
      (st.transfers.put { t₀ with status }).find? transfer.id = some { t₀ with status } := by
    rw [← hid]
    exact find?_put_self st.transfers { t₀ with status }
  exact ⟨_, hself _, hdest⟩

lemma Receiving.row
    (h : Receiving transfer db inputs [] db') (hr : r ∈ db'.itemsOfTransfer transfer.id) :
    ∃ i ∈ db.itemsOfTransfer transfer.id,
      r = { i with receivedQty := i.receivedQty + entryTotal inputs i.id } := by
  obtain ⟨hrm, hrt⟩ := mem_itemsOfTransfer.mp hr
  obtain ⟨i, hi, hid⟩ := h.closed r hrm hrt
  have hcur := h.current i hi
  rw [entryTotal_nil, sub_zero] at hcur
  have hr' := find?_of_mem hrm
  rw [← hid, hcur] at hr'
  exact ⟨i, hi, (Option.some.inj hr').symm⟩

/-! ### Histories of receipts -/

lemma receiptsBounded_iff (h₀ : ReceiptsBounded id db) (h : ReceiveStep id db inputs db') :
    ReceiptsBounded id db' ↔ WithinRemaining id db inputs := by
  obtain ⟨transfer, htr, hrec⟩ := receiveTransfer_commits h
  obtain rfl := (find?_eq_some.mp htr).2
  constructor
  · intro hb i hi
    obtain ⟨hrow, _⟩ := find?_eq_some.mp (hrec.current i hi)
    obtain ⟨_, hle⟩ := hb _ (mem_itemsOfTransfer.mpr ⟨hrow, (mem_itemsOfTransfer.mp hi).2⟩)
    dsimp only [entryTotal_nil] at hle
    omega
  · intro hw r hr
    obtain ⟨i, hi, rfl⟩ := hrec.row hr
    have hbound := h₀ i hi
    have hadd := entryTotal_nonneg inputs i.id
    have hrest := hw i hi
    dsimp only
    omega

lemma stockAdded_of_run {db₀ : Db} {calls : List (List ReceiveStockTransferItem)}
    (htr : db₀.transfers.find? id = some transfer) (h : Run (ReceiveStep id) db₀ calls db) (p : ℕ) :
    db.onHand (transfer.destinationWarehouseId, p) -
        db₀.onHand (transfer.destinationWarehouseId, p) =
      db.received (id, p) - db₀.received (id, p) := by
  let I (st : Db) : Prop :=
    (∃ t, st.transfers.find? id = some t ∧
        t.destinationWarehouseId = transfer.destinationWarehouseId) ∧
      st.onHand (transfer.destinationWarehouseId, p) -
          db₀.onHand (transfer.destinationWarehouseId, p) =
        st.received (id, p) - db₀.received (id, p)
  have hI : I db := by
    refine h.invariant (fun st inputs st' hst hstep => ?_) ⟨⟨transfer, htr, rfl⟩, by omega⟩
    obtain ⟨⟨t, ht, hdest⟩, hsum⟩ := hst
    obtain ⟨t', ht', hrec⟩ := receiveTransfer_commits hstep
    obtain rfl : t = t' := mem_unique ht ht'
    obtain rfl := (find?_eq_some.mp ht).2
    obtain ⟨u, hu, hudest⟩ := hrec.route
    have hadd := hrec.added p
    rw [hdest] at hadd hudest
    exact ⟨⟨u, hu, hudest⟩, by omega⟩
  exact hI.2

/-- What a history of committed receipts of a transfer should do: every receipt leaves the received
quantities between zero and the shipped ones, and the stock added to the destination is what the
items received. -/
def ReceiptsRight (transfer : StockTransfer) (db₀ : Db)
    (calls : List (List ReceiveStockTransferItem)) (db : Db) : Prop :=
  Run (Landing (ReceiptsBounded transfer.id) (ReceiveStep transfer.id)) db₀ calls db ∧
    ∀ p, db.onHand (transfer.destinationWarehouseId, p) -
        db₀.onHand (transfer.destinationWarehouseId, p) =
      db.received (transfer.id, p) - db₀.received (transfer.id, p)

/-- The receipts of a transfer do what they should exactly if in each of them the entries that name
an item together stay within what remained of it. -/
theorem receiptsRight_iff {db₀ : Db} {calls : List (List ReceiveStockTransferItem)}
    (htr : db₀.transfers.find? transfer.id = some transfer)
    (h₀ : ReceiptsBounded transfer.id db₀) :
    ReceiptsRight transfer db₀ calls db ↔
      Run (Guarded (WithinRemaining transfer.id) (ReceiveStep transfer.id)) db₀ calls db := by
  have hiff : Run (Landing (ReceiptsBounded transfer.id) (ReceiveStep transfer.id)) db₀ calls db ↔
      Run (Guarded (WithinRemaining transfer.id) (ReceiveStep transfer.id)) db₀ calls db := by
    refine Run.landing_iff_guarded (fun st inputs st' hst hstep => ?_) h₀
    exact receiptsBounded_iff hst hstep
  constructor
  · rintro ⟨hland, _⟩
    exact hiff.mp hland
  · intro hguard
    exact ⟨hiff.mpr hguard, stockAdded_of_run htr hguard.of_guarded⟩

def fiveUnderWay : Db :=
  { Db.empty with
    products := Table.empty.put { id := 1, name := "Beras" }
    transfers := Table.empty.put
      { id := 1, sourceWarehouseId := 1, destinationWarehouseId := 2, status := .shipped }
    transferItems := Table.empty.put
      { id := 1, transferId := 1, productId := 1, quantity := 5, shippedQty := 5 } }

lemma fiveUnderWay_bounded : ReceiptsBounded 1 fiveUnderWay := by
  unfold ReceiptsBounded
  decide +kernel

def receivedTwice : List ReceiveStockTransferItem := [⟨1, 5, []⟩, ⟨1, 5, []⟩]

theorem receivedTwice_exceeds : ReceiptsBounded 1 fiveUnderWay ∧
      ∃ db, ReceiveStep 1 fiveUnderWay receivedTwice db ∧ ¬ ReceiptsBounded 1 db := by
  have hc : ReceiveStep 1 fiveUnderWay receivedTwice
      (execute (receiveTransfer 1 receivedTwice) fiveUnderWay).2 :=
    commits_of_execute (by decide +kernel)
  refine ⟨fiveUnderWay_bounded, _, hc, ?_⟩
  unfold ReceiptsBounded
  decide +kernel

theorem receiptsRight_twoParts :
    ∃ db, ReceiptsRight ⟨1, 1, 2, .shipped⟩ fiveUnderWay [[⟨1, 2, []⟩], [⟨1, 3, []⟩]] db := by
  let mid := (execute (receiveTransfer 1 [⟨1, 2, []⟩]) fiveUnderWay).2
  have h₁ : ReceiveStep 1 fiveUnderWay [⟨1, 2, []⟩] mid := commits_of_execute (by decide +kernel)
  have h₂ : ReceiveStep 1 mid [⟨1, 3, []⟩] (execute (receiveTransfer 1 [⟨1, 3, []⟩]) mid).2 :=
    commits_of_execute (by decide +kernel)
  have hw₁ : WithinRemaining 1 fiveUnderWay [⟨1, 2, []⟩] := by
    unfold WithinRemaining
    decide +kernel
  have hw₂ : WithinRemaining 1 mid [⟨1, 3, []⟩] := by
    unfold WithinRemaining
    decide +kernel
  exact ⟨_, (receiptsRight_iff (by decide +kernel) fiveUnderWay_bounded).mpr
    (Run.cons ⟨hw₁, h₁⟩ (Run.cons ⟨hw₂, h₂⟩ (Run.nil _)))⟩

end Mayatoko.Stock
