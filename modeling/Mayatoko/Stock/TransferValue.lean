import Mathlib.Algebra.Order.BigOperators.Group.List
import Mayatoko.Stock.TransferApproval
import Mayatoko.Stock.TransferReceipt

/-!
# What a transfer moves through the in-transit account

Shipment debits the in-transit account with the value of the goods, and every receipt credits it with
the value of what has arrived, each at the cost that the products have at that moment. The receipts
clear what the shipment posted exactly if the price changes since the shipment, weighted with the
received quantities, cancel out.
-/

namespace Mayatoko.Transit

open Core Accounting Stock

def ofShipment (id : ℕ) (e : AccountingEvent) : Bool :=
  e.eventType = "STOCK_TRANSFER_SHIPPED" && e.sourceType = "StockTransfer" &&
    e.sourceId = toString id

def ofReceipt (id : ℕ) (e : AccountingEvent) : Bool :=
  e.eventType = "STOCK_TRANSFER_RECEIVED" && e.sourceType = "StockTransferReceipt" &&
    e.sourceId.toList.takeWhile (· ≠ ':') = (toString id).toList

namespace TransitDb

variable (db : TransitDb) (id : ℕ)

def shippedTotal : ℚ :=
  db.ledger.events.sum fun e => if ofShipment id e then e.grossAmount else 0

def receivedTotal : ℚ :=
  db.ledger.events.sum fun e => if ofReceipt id e then e.grossAmount else 0

def receiptSequence : ℤ := ((db.stock.itemsOfTransfer id).map StockTransferItem.receivedQty).sum

/-- Costs are amounts with two decimals that are not negative. -/
def Priced : Prop := ∀ p ∈ db.stock.products, 0 ≤ p.costPrice ∧ IsCents p.costPrice

end TransitDb

inductive TransitCall
  | receive (scope : TenantScope) (inputs : List ReceiveStockTransferItem) (costs : ℕ → ℚ)
  | elsewhere (db : TransitDb)

/-- One call for the transfer `id`. Costs, and whatever is not the items or the events of the
transfer, may change in between. -/
inductive TransitStep (id : ℕ) : TransitDb → TransitCall → TransitDb → Prop
  | receive {db db' : TransitDb} {scope : TenantScope} {inputs : List ReceiveStockTransferItem} :
      Commits (receiveTransfer scope id inputs) db () db' →
      TransitStep id db (.receive scope inputs (costPrice db.stock)) db'
  | elsewhere {db db' : TransitDb} :
      db'.stock.itemsOfTransfer id = db.stock.itemsOfTransfer id →
      db'.ledger.events.findMany (fun e => ofShipment id e || ofReceipt id e) =
        db.ledger.events.findMany (fun e => ofShipment id e || ofReceipt id e) →
      db'.Priced → TransitStep id db (.elsewhere db') db'

def TransitCall.value (items : List StockTransferItem) : TransitCall → ℚ
  | receive _ inputs costs => receivedValue costs items inputs
  | elsewhere _ => 0

def TransitCall.valueAt (costs₀ : ℕ → ℚ) (items : List StockTransferItem) : TransitCall → ℚ
  | receive _ inputs _ => receivedValue costs₀ items inputs
  | elsewhere _ => 0

def priceDrift (costs₀ : ℕ → ℚ) (items : List StockTransferItem) (calls : List TransitCall) : ℚ :=
  (calls.map fun
    | .receive _ inputs costs => receivedValue (fun p => costs p - costs₀ p) items inputs
    | .elsewhere _ => 0).sum

def overReceipt (costs₀ : ℕ → ℚ) (items : List StockTransferItem) (calls : List TransitCall) : ℚ :=
  (calls.map (TransitCall.valueAt costs₀ items)).sum - shippedValue costs₀ items

variable {db db' : TransitDb} {scope : TenantScope} {id : ℕ} {items : List StockTransferItem}
  {inputs : List ReceiveStockTransferItem}

/-! ### Values -/

lemma receivedValue_sub (costs costs₀ : ℕ → ℚ) : receivedValue (fun p => costs p - costs₀ p) items inputs =
      receivedValue costs items inputs - receivedValue costs₀ items inputs := by
  unfold receivedValue
  induction inputs with
  | nil => simp
  | cons input inputs ih =>
    simp only [map_cons, sum_cons, ih]
    cases items.find? fun i => i.id = input.transferItemId with
    | none => simp
    | some item =>
      simp only [Option.elim_some]
      ring

def productIn (items : List StockTransferItem) (itemId : ℕ) : Option ℕ :=
  (items.find? fun i => i.id = itemId).map StockTransferItem.productId

lemma receivedValue_congr {items' : List StockTransferItem} (costs : ℕ → ℚ)
    (h : productIn items' = productIn items) :
    receivedValue costs items' inputs = receivedValue costs items inputs := by
  unfold receivedValue
  congr 2
  funext input
  have hinput := congrFun h input.transferItemId
  unfold productIn at hinput
  cases hnew : items'.find? fun i => i.id = input.transferItemId with
  | none =>
    rw [hnew, Option.map_none, eq_comm, Option.map_eq_none_iff] at hinput
    rw [hinput]
  | some item =>
    rw [hnew, Option.map_some, eq_comm, Option.map_eq_some_iff] at hinput
    obtain ⟨old, hold, hproduct⟩ := hinput
    rw [hold, Option.elim_some, Option.elim_some, hproduct]

lemma costPrice_priced (h : db.Priced) (p : ℕ) : 0 ≤ costPrice db.stock p ∧ IsCents (costPrice db.stock p) := by
  unfold costPrice
  cases hp : db.stock.products.find? p with
  | none => exact ⟨le_refl 0, isCents_zero⟩
  | some product => exact h product (find?_eq_some.mp hp).1

lemma isCents_mul_int {x : ℚ} (h : IsCents x) (n : ℤ) : IsCents (x * n) := by
  obtain ⟨k, rfl⟩ := h
  exact ⟨k * n, by push_cast; ring⟩

lemma isCents_sum {xs : List ℚ} (h : ∀ x ∈ xs, IsCents x) : IsCents xs.sum := by
  induction xs with
  | nil => exact isCents_zero
  | cons x xs ih =>
    rw [sum_cons]
    exact (h x mem_cons_self).add (ih fun y hy => h y (mem_cons_of_mem x hy))

lemma receivedValue_priced (items : List StockTransferItem) (inputs : List ReceiveStockTransferItem)
    {costs : ℕ → ℚ} (h : ∀ p, 0 ≤ costs p ∧ IsCents (costs p)) :
    0 ≤ receivedValue costs items inputs ∧ IsCents (receivedValue costs items inputs) := by
  have hentry : ∀ x ∈ inputs.map (fun input =>
      (items.find? fun i => i.id = input.transferItemId).elim 0 fun item =>
        costs item.productId * input.receivedQty), 0 ≤ x ∧ IsCents x := by
    intro x hx
    obtain ⟨input, _, rfl⟩ := mem_map.mp hx
    cases items.find? fun i => i.id = input.transferItemId with
    | none => exact ⟨le_refl 0, isCents_zero⟩
    | some item =>
      obtain ⟨hpos, hcents⟩ := h item.productId
      exact ⟨mul_nonneg hpos (Nat.cast_nonneg _), isCents_mul_int hcents input.receivedQty⟩
  exact ⟨List.sum_nonneg fun x hx => (hentry x hx).1, isCents_sum fun x hx => (hentry x hx).2⟩

lemma shippedValue_priced {costs : ℕ → ℚ} (h : ∀ p, 0 ≤ costs p ∧ IsCents (costs p))
    (hqty : ∀ item ∈ items, 0 ≤ item.quantity) :
    0 ≤ shippedValue costs items ∧ IsCents (shippedValue costs items) := by
  have hentry : ∀ x ∈ items.map (fun item => costs item.productId * item.quantity), 0 ≤ x ∧ IsCents x := by
    intro x hx
    obtain ⟨item, hitem, rfl⟩ := mem_map.mp hx
    obtain ⟨hpos, hcents⟩ := h item.productId
    exact ⟨mul_nonneg hpos (by exact_mod_cast hqty item hitem), isCents_mul_int hcents _⟩
  exact ⟨List.sum_nonneg fun x hx => (hentry x hx).1, isCents_sum fun x hx => (hentry x hx).2⟩

/-! ### The items of a transfer -/

def itemIdentity (st : Db) : (ℕ → Option (ℕ × ℕ)) × Table Product.id :=
  (fun itemId => (st.transferItems.find? itemId).map fun i => (i.transferId, i.productId),
    st.products)

lemma offStock_itemIdentity : OffStock itemIdentity := ⟨fun _ _ _ _ _ _ _ _ _ _ => rfl⟩

lemma leaves_itemIdentity {itemId : ℕ} {g : StockTransferItem → StockTransferItem} {e : Failure}
    (hid : ∀ i, (g i).id = i.id)
    (hg : ∀ i, ((g i).transferId, (g i).productId) = (i.transferId, i.productId)) :
    Leaves itemIdentity (Db.stockTransferItem.update itemId g e) := by
  intro st r st' h
  obtain ⟨o, ho, rfl, rfl⟩ := TableOf.commits_update.mp h
  refine Prod.ext (funext fun k => ?_) rfl
  change ((st.transferItems.put (g o)).find? k).map _ = (st.transferItems.find? k).map _
  rw [Table.find?_put, hid]
  obtain ⟨_, hkey⟩ := find?_eq_some.mp ho
  split
  next hk =>
    subst hk
    rw [hkey, show st.transferItems.find? itemId = some o from ho, Option.map_some, Option.map_some, hg]
  next => rfl

lemma productIn_itemsOfTransfer (st : Db) (id itemId : ℕ) : productIn (st.itemsOfTransfer id) itemId =
      (((itemIdentity st).1 itemId).filter fun i => i.1 = id).map Prod.snd := by
  unfold productIn Db.itemsOfTransfer itemIdentity
  rw [Table.find?_findMany]
  dsimp only
  cases st.transferItems.find? itemId with
  | none => rfl
  | some i => by_cases hi : i.transferId = id <;> simp [Option.filter_some, hi]

lemma productIn_congr (id : ℕ) {st st' : Db} (h : itemIdentity st' = itemIdentity st) :
    productIn (st'.itemsOfTransfer id) = productIn (st.itemsOfTransfer id) := by
  funext itemId
  rw [productIn_itemsOfTransfer, productIn_itemsOfTransfer, h]

variable {u : Unit}

lemma shipTransfer_identity {st st' : Db} (h : Commits (Stock.shipTransfer id) st u st') :
    itemIdentity st' = itemIdentity st := by
  refine Leaves.bind leaves_get (fun _ => leaves_orThrow.bind fun t => leaves_require.bind fun _ =>
    Leaves.bind (Leaves.forM fun item => ?_) fun _ => leaves_require.bind fun _ =>
      Leaves.bind (TableOf.Apart.update ⟨fun _ _ => rfl⟩) fun _ => leaves_pure) st u st' h
  exact offStock_itemIdentity.shipTransferItem (leaves_itemIdentity (fun _ => rfl) fun _ => rfl)

variable {transfer : StockTransfer} {input : ReceiveStockTransferItem}

lemma receiveTransferEntry_identity : Leaves itemIdentity (receiveTransferEntry transfer items input) :=
  offStock_itemIdentity.receiveTransferEntry fun _ => leaves_itemIdentity (fun _ => rfl) fun _ => rfl

def receivedUnits (id : ℕ) (st : Db) : ℤ :=
  st.transferItems.sum fun i => if i.transferId = id then i.receivedQty else 0

lemma offStock_transferItems : OffStock Db.transferItems := ⟨fun _ _ _ _ _ _ _ _ _ _ => rfl⟩

/-- An entry adds its quantity to what the transfer has received. -/
lemma receiveTransferEntry_units {st st' st₀ : Db} (hid : itemIdentity st = itemIdentity st₀)
    (h : Commits (receiveTransferEntry transfer (st₀.itemsOfTransfer id) input) st u st') :
    receivedUnits id st' = receivedUnits id st + input.receivedQty := by
  simp only [receiveTransferEntry, commits_steps, commits_ite, TableOf.commits_update] at h
  obtain ⟨item, hfind, _, ⟨hq, _, rfl⟩ | ⟨_, _, t₁, hbatch, _, t₂, hserial, _, t₃, hstock, _, _, ⟨r, hr, rfl,
    rfl⟩, _, rfl⟩⟩ := h
  · rw [hq, Nat.cast_zero, add_zero]
  · have hbatch := offStock_transferItems.receiveTransferBatch _ _ _ hbatch
    have hserial := offStock_transferItems.receiveTransferSerials _ _ _ hserial
    have hstock := offStock_transferItems.receiveStock _ _ _ hstock
    have hitems : t₃.transferItems = st.transferItems := hstock.trans (hserial.trans hbatch)
    have hrow : r ∈ t₃.transferItems := (find?_eq_some.mp hr).1
    have howner : r.transferId = id := by
      have hitem := List.mem_of_find?_eq_some hfind
      obtain ⟨hmem, htransfer⟩ := mem_itemsOfTransfer.mp hitem
      have hsame := congrFun (congrArg Prod.fst hid) item.id
      change (st.transferItems.find? item.id).map _ = (st₀.transferItems.find? item.id).map _ at hsame
      rw [← hitems, show t₃.transferItems.find? item.id = some r from hr, find?_of_mem hmem,
        Option.map_some, Option.map_some, Option.some.injEq, Prod.mk.injEq] at hsame
      exact hsame.1.trans htransfer
    change (t₃.transferItems.put _).sum _ = _
    rw [Table.sum_put_of_mem hrow (by rfl), hitems]
    simp [receivedUnits, howner]

lemma receiveTransfer_stock {st st' : Db} (h : Commits (Stock.receiveTransfer id inputs) st u st') :
    itemIdentity st' = itemIdentity st ∧
      receivedUnits id st' = receivedUnits id st + (inputs.map fun i => (i.receivedQty : ℤ)).sum := by
  simp only [Stock.receiveTransfer, commits_steps, TableOf.commits_update] at h
  obtain ⟨t, ht, hstatus, _, mid, hloop, _, _, _, ⟨t', ht', rfl, rfl⟩, _, rfl⟩ := h
  let I (rest : List ReceiveStockTransferItem) (x : Db) : Prop :=
    itemIdentity x = itemIdentity st ∧
      receivedUnits id x + (rest.map fun i => (i.receivedQty : ℤ)).sum =
        receivedUnits id st + (inputs.map fun i => (i.receivedQty : ℤ)).sum
  have hI : I [] mid := by
    refine hloop.forM (I := I) (fun input rest x x' hx hc => ?_) ⟨rfl, rfl⟩
    have hunits := receiveTransferEntry_units hx.1 hc
    refine ⟨(receiveTransferEntry_identity _ _ _ hc).trans hx.1, ?_⟩
    have hsum := hx.2
    rw [map_cons, sum_cons] at hsum
    rw [hunits]
    omega
  obtain ⟨hident, hunits⟩ := hI
  refine ⟨hident, ?_⟩
  rw [List.map_nil, List.sum_nil, add_zero] at hunits
  exact hunits

/-! ### The events of a transfer -/

variable {e : AccountingEvent}

lemma ofShipment_iff : ofShipment id e = true ↔
    e.eventType = "STOCK_TRANSFER_SHIPPED" ∧ e.sourceType = "StockTransfer" ∧
      e.sourceId = toString id := by
  simp [ofShipment, and_assoc]

lemma ofReceipt_iff : ofReceipt id e = true ↔
    e.eventType = "STOCK_TRANSFER_RECEIVED" ∧ e.sourceType = "StockTransferReceipt" ∧
      e.sourceId.toList.takeWhile (· ≠ ':') = (toString id).toList := by
  simp [ofReceipt, and_assoc]

lemma not_ofReceipt_of_ofShipment (h : ofShipment id e = true) : ofReceipt id e = false := by
  rw [Bool.eq_false_iff]
  intro hre
  have htype := (ofShipment_iff.mp h).1.symm.trans (ofReceipt_iff.mp hre).1
  revert htype
  decide

lemma not_ofShipment_of_ofReceipt (h : ofReceipt id e = true) : ofShipment id e = false := by
  rw [Bool.eq_false_iff]
  intro hship
  rw [not_ofReceipt_of_ofShipment hship] at h
  cases h

def receiptId (id : ℕ) (k : ℤ) : String := s!"{id}:{k}"

lemma receiptId_toList (id : ℕ) (k : ℤ) :
    (receiptId id k).toList = (toString id).toList ++ ':' :: (toString k).toList := by
  have hcolon : (toString ":").toList = [':'] := rfl
  simp only [receiptId, String.toList_append, hcolon, append_assoc, List.singleton_append]

lemma receiptId_injective (id : ℕ) : Function.Injective (receiptId id) := by
  intro j k h
  have hlist := congrArg String.toList h
  rw [receiptId_toList, receiptId_toList] at hlist
  have htail := List.append_cancel_left hlist
  rw [List.cons.injEq] at htail
  exact toString_int_injective (String.toList_inj.mp htail.2)

lemma takeWhile_receiptId (id : ℕ) (k : ℤ) :
    (receiptId id k).toList.takeWhile (· ≠ ':') = (toString id).toList := by
  have hdigits : ∀ c ∈ (toString id).toList, decide (c ≠ ':') = true := by
    intro c hc
    rw [decide_eq_true_eq]
    rintro rfl
    exact not_mem_toDigits (c := ':') (by decide) id (by simpa using hc)
  rw [receiptId_toList, List.takeWhile_append_of_pos hdigits]
  simp

variable {led led' : AccountingDb} {ev : AccountingEvent} {v : ℚ} {w : Warehouse} {n : ℤ}

/-- The first posting of a receipt adds its value to what the receipts have posted. -/
lemma post_receipt (h : Commits (postOperationalEvent (receivedEvent scope w id n v)) led ev led')
    (hv : IsCents v)
    (hseq : ∀ e ∈ led.events, ofReceipt id e → ∃ k < n, e.sourceId = receiptId id k) :
    (led'.events.sum fun e => if ofReceipt id e then e.grossAmount else 0) =
        (led.events.sum fun e => if ofReceipt id e then e.grossAmount else 0) + v ∧
      (led'.events.sum fun e => if ofShipment id e then e.grossAmount else 0) =
        (led.events.sum fun e => if ofShipment id e then e.grossAmount else 0) ∧
      ∀ e ∈ led'.events, ofReceipt id e → ∃ k ≤ n, e.sourceId = receiptId id k := by
  rcases postOperationalEvent_commits h with ⟨hfind, hsame, rfl⟩ | ⟨rule, hposted⟩
  · -- an event that is known under the key of this receipt would have its number
    exfalso
    obtain ⟨_, htype, hsource, hsourceId⟩ := sameIdentity_iff.mp hsame
    have hof : ofReceipt id ev = true := by
      refine ofReceipt_iff.mpr ⟨htype, hsource, ?_⟩
      rw [hsourceId]
      exact takeWhile_receiptId id n
    obtain ⟨k, hk, hid⟩ := hseq ev (find?_eq_some.mp hfind).1 hof
    exact absurd (receiptId_injective id (hid.symm.trans hsourceId)) hk.ne
  · have hof : ofReceipt id ev = true := by
      rw [hposted.event]
      exact ofReceipt_iff.mpr ⟨rfl, rfl, takeWhile_receiptId id n⟩
    have hgross : ev.grossAmount = v := by
      rw [hposted.event]
      exact hv.toDecimalPlaces
    refine ⟨?_, ?_, fun e he hre => ?_⟩
    · rw [hposted.sum_events, hof, if_pos rfl, hgross]
    · rw [hposted.sum_events, not_ofShipment_of_ofReceipt hof]
      simp
    · rw [hposted.events, mem_put] at he
      rcases he with rfl | ⟨hold, _⟩
      · exact ⟨n, le_refl n, by rw [hposted.event]; rfl⟩
      · obtain ⟨k, hk, hid⟩ := hseq e hold hre
        exact ⟨k, hk.le, hid⟩

lemma post_shipment (h : Commits (postOperationalEvent (shippedEvent scope w id v)) led ev led')
    (hv : IsCents v) (hnone : ∀ e ∈ led.events, ofShipment id e = false ∧ ofReceipt id e = false) :
    (led'.events.sum fun e => if ofShipment id e then e.grossAmount else 0) = v ∧
      ∀ e ∈ led'.events, ofReceipt id e = false := by
  rcases postOperationalEvent_commits h with ⟨hfind, hsame, rfl⟩ | ⟨rule, hposted⟩
  · exfalso
    obtain ⟨_, htype, hsource, hsourceId⟩ := sameIdentity_iff.mp hsame
    have hnot := (hnone ev (find?_eq_some.mp hfind).1).1
    rw [ofShipment_iff.mpr ⟨htype, hsource, hsourceId⟩] at hnot
    cases hnot
  · have hof : ofShipment id ev = true := by
      rw [hposted.event]
      exact ofShipment_iff.mpr ⟨rfl, rfl, rfl⟩
    have hgross : ev.grossAmount = v := by
      rw [hposted.event]
      exact hv.toDecimalPlaces
    refine ⟨?_, fun e he => ?_⟩
    · have hzero : (led.events.sum fun e => if ofShipment id e then e.grossAmount else 0) = 0 :=
        Table.sum_eq_zero fun e he => by simp [(hnone e he).1]
      rw [hposted.sum_events, hof, if_pos rfl, hgross, hzero, zero_add]
    · rw [hposted.events, mem_put] at he
      rcases he with rfl | ⟨hold, _⟩
      · exact not_ofReceipt_of_ofShipment hof
      · exact (hnone e hold).2

/-! ### Shipment and receipts -/

lemma shipTransfer_posts (h : Commits (shipTransfer scope id) db u db') :
    itemIdentity db'.stock = itemIdentity db.stock ∧ ∃ source,
      let value := shippedValue (costPrice db.stock) (db.stock.itemsOfTransfer id)
      (0 < value ∧ ∃ ev, Commits (postOperationalEvent (shippedEvent scope source id value))
          db.ledger ev db'.ledger) ∨ ¬ 0 < value ∧ db'.ledger = db.ledger := by
  simp only [shipTransfer, commits_steps] at h
  obtain ⟨⟨_, source, _⟩, _, hfind, _, mid, hship, hpost⟩ := h
  obtain ⟨_, rfl⟩ := findTransfer_commits hfind
  obtain ⟨st, hstock, rfl⟩ := Part.commits_lift.mp hship
  have hsame := posting_stock hpost
  refine ⟨?_, source, ?_⟩
  · rw [hsame]
    exact shipTransfer_identity hstock
  · simp only [commits_ite, commits_steps, Part.commits_lift] at hpost
    rcases hpost with ⟨hpos, ev, _, ⟨led, hev, rfl⟩, _, rfl⟩ | ⟨hzero, _, rfl⟩
    · exact .inl ⟨hpos, ev, hev⟩
    · exact .inr ⟨hzero, rfl⟩

lemma receiptSequence_eq (db : TransitDb) (id : ℕ) : db.receiptSequence id = receivedUnits id db.stock := by
  rw [TransitDb.receiptSequence, receivedUnits, Db.itemsOfTransfer, Table.sum_findMany]
  simp

lemma receiveTransfer_posts (h : Commits (receiveTransfer scope id inputs) db u db') :
    itemIdentity db'.stock = itemIdentity db.stock ∧
      db'.receiptSequence id =
        db.receiptSequence id + (inputs.map fun i => (i.receivedQty : ℤ)).sum ∧
      ∃ destination,
        let value := receivedValue (costPrice db.stock) (db.stock.itemsOfTransfer id) inputs
        (0 < value ∧ ∃ ev, Commits (postOperationalEvent
          (receivedEvent scope destination id (db'.receiptSequence id) value))
            db.ledger ev db'.ledger) ∨ ¬ 0 < value ∧ db'.ledger = db.ledger := by
  simp only [receiveTransfer, commits_steps] at h
  obtain ⟨⟨_, _, destination⟩, _, hfind, _, mid, hrec, hpost⟩ := h
  obtain ⟨_, rfl⟩ := findTransfer_commits hfind
  obtain ⟨st, hstock, rfl⟩ := Part.commits_lift.mp hrec
  have hsame := posting_stock hpost
  obtain ⟨hident, hunits⟩ := receiveTransfer_stock hstock
  refine ⟨?_, ?_, destination, ?_⟩
  · rw [hsame]
    exact hident
  · rw [receiptSequence_eq, receiptSequence_eq, hsame]
    exact hunits
  · rw [TransitDb.receiptSequence, hsame]
    simp only [commits_ite, commits_steps, Part.commits_lift] at hpost
    rcases hpost with ⟨hpos, ev, _, ⟨led, hev, rfl⟩, _, rfl⟩ | ⟨hzero, _, rfl⟩
    · exact .inl ⟨hpos, ev, hev⟩
    · exact .inr ⟨hzero, rfl⟩

/-- Between the calls for a transfer of `items`: its products are known, the receipts posted so far
have earlier numbers, and costs are amounts. -/
structure InTransit (id : ℕ) (items : List StockTransferItem) (db : TransitDb) : Prop where
  products : productIn (db.stock.itemsOfTransfer id) = productIn items
  sequence : ∀ e ∈ db.ledger.events, ofReceipt id e →
    ∃ k ≤ db.receiptSequence id, e.sourceId = receiptId id k
  priced : db.Priced

lemma quantities_pos {costs : ℕ → ℚ} (h : 0 < receivedValue costs items inputs) :
    0 < (inputs.map fun i => (i.receivedQty : ℤ)).sum := by
  by_contra hle
  have hnonneg : ∀ x ∈ inputs.map fun i => (i.receivedQty : ℤ), 0 ≤ x := by
    intro x hx
    obtain ⟨input, _, rfl⟩ := mem_map.mp hx
    exact Int.natCast_nonneg _
  have hzero := List.sum_nonneg hnonneg
  have hall : ∀ input ∈ inputs, input.receivedQty = 0 := by
    intro input hinput
    have hle' := List.single_le_sum hnonneg _ (mem_map_of_mem hinput)
    omega
  have hvalue : receivedValue costs items inputs = 0 := by
    refine List.sum_eq_zero fun x hx => ?_
    obtain ⟨input, hinput, rfl⟩ := mem_map.mp hx
    rw [hall input hinput]
    cases items.find? fun i => i.id = input.transferItemId <;> simp
  exact absurd hvalue h.ne'

lemma priced_of_identity (h : db.Priced) (hident : itemIdentity db'.stock = itemIdentity db.stock) :
    db'.Priced := by
  have hproducts : db'.stock.products = db.stock.products := congrArg Prod.snd hident
  rw [TransitDb.Priced, hproducts]
  exact h

lemma InTransit.step {call : TransitCall} (h : InTransit id items db) (hstep : TransitStep id db call db') :
    InTransit id items db' ∧ db'.receivedTotal id = db.receivedTotal id + call.value items ∧
      db'.shippedTotal id = db.shippedTotal id := by
  cases hstep with
  | @receive _ scope inputs hc =>
    obtain ⟨hident, hsequence, destination, hpost⟩ := receiveTransfer_posts hc
    have hvalue : receivedValue (costPrice db.stock) (db.stock.itemsOfTransfer id) inputs =
        receivedValue (costPrice db.stock) items inputs := receivedValue_congr _ h.products
    obtain ⟨hnonneg, hcents⟩ := receivedValue_priced items inputs (costPrice_priced h.priced)
    have hproducts := (productIn_congr id hident).trans h.products
    have hpriced := priced_of_identity h.priced hident
    dsimp only at hpost
    rw [hvalue] at hpost
    rcases hpost with ⟨hpos, ev, hev⟩ | ⟨hzero, hledger⟩
    · have hlater := quantities_pos hpos
      obtain ⟨hre, hship, hseq⟩ := post_receipt hev hcents fun e he hre => by
        obtain ⟨k, hk, hid⟩ := h.sequence e he hre
        exact ⟨k, by omega, hid⟩
      exact ⟨⟨hproducts, hseq, hpriced⟩, hre, hship⟩
    · have hval : receivedValue (costPrice db.stock) items inputs = 0 :=
        le_antisymm (not_lt.mp hzero) hnonneg
      have hquantity : 0 ≤ (inputs.map fun i => (i.receivedQty : ℤ)).sum := by
        refine List.sum_nonneg fun x hx => ?_
        obtain ⟨input, _, rfl⟩ := mem_map.mp hx
        exact Int.natCast_nonneg _
      refine ⟨⟨hproducts, fun e he hre => ?_, hpriced⟩, ?_, ?_⟩
      · rw [hledger] at he
        obtain ⟨k, hk, hid⟩ := h.sequence e he hre
        exact ⟨k, by omega, hid⟩
      · rw [TransitDb.receivedTotal, hledger, TransitCall.value, hval, add_zero]
        rfl
      · rw [TransitDb.shippedTotal, hledger]
        rfl
  | elsewhere hitems hevents hpriced =>
    have hsum (f : AccountingEvent → Bool) (hf : ∀ e, f e = true →
        (ofShipment id e || ofReceipt id e) = true) (led : AccountingDb) :
        (led.events.sum fun e => if f e then e.grossAmount else 0) =
          ((led.events.findMany fun e => ofShipment id e || ofReceipt id e).map
            fun e => if f e then e.grossAmount else 0).sum := by
      rw [Table.sum_findMany]
      refine Table.sum_congr fun e _ => ?_
      by_cases he : f e = true
      · simp [he, hf e he]
      · simp [he]
    refine ⟨⟨?_, fun e he hre => ?_, hpriced⟩, ?_, ?_⟩
    · rw [hitems]
      exact h.products
    · have hmem : e ∈ db'.ledger.events.findMany fun e => ofShipment id e || ofReceipt id e :=
        mem_findMany.mpr ⟨he, by simp [hre]⟩
      rw [hevents] at hmem
      rw [TransitDb.receiptSequence, hitems]
      exact h.sequence e (mem_findMany.mp hmem).1 hre
    · rw [TransitDb.receivedTotal, TransitDb.receivedTotal, hsum _ (by simp +contextual), hevents,
        ← hsum _ (by simp +contextual), TransitCall.value, add_zero]
    · rw [TransitDb.shippedTotal, TransitDb.shippedTotal, hsum _ (by simp +contextual), hevents,
        ← hsum _ (by simp +contextual)]

lemma InTransit.run {calls : List TransitCall} (h : InTransit id items db)
    (hrun : Run (TransitStep id) db calls db') :
    db'.receivedTotal id = db.receivedTotal id + (calls.map (TransitCall.value items)).sum ∧
      db'.shippedTotal id = db.shippedTotal id := by
  induction hrun with
  | nil => simp
  | cons hstep _ ih =>
    obtain ⟨hnext, hre, hship⟩ := h.step hstep
    obtain ⟨hre', hship'⟩ := ih hnext
    rw [map_cons, sum_cons]
    exact ⟨by rw [hre', hre]; ring, hship'.trans hship⟩

lemma sum_value_eq (costs₀ : ℕ → ℚ) (calls : List TransitCall) : (calls.map (TransitCall.value items)).sum =
      priceDrift costs₀ items calls + (calls.map (TransitCall.valueAt costs₀ items)).sum := by
  unfold priceDrift
  induction calls with
  | nil => simp
  | cons call calls ih =>
    simp only [map_cons, sum_cons, ih]
    cases call with
    | receive scope inputs costs =>
      simp only [TransitCall.value, TransitCall.valueAt, receivedValue_sub]
      ring
    | elsewhere db =>
      simp only [TransitCall.value, TransitCall.valueAt]
      ring

/-- A transfer about to be shipped: nothing was posted for it, its quantities are not negative, and
costs are amounts. -/
structure ReadyToShip (id : ℕ) (db : TransitDb) : Prop where
  unposted : ∀ e ∈ db.ledger.events, ofShipment id e = false ∧ ofReceipt id e = false
  quantities : ∀ item ∈ db.stock.itemsOfTransfer id, 0 ≤ item.quantity
  priced : db.Priced

lemma ReadyToShip.shipped (h : ReadyToShip id db) (hc : Commits (shipTransfer scope id) db u db') :
    InTransit id (db.stock.itemsOfTransfer id) db' ∧ db'.receivedTotal id = 0 ∧
      db'.shippedTotal id =
        shippedValue (costPrice db.stock) (db.stock.itemsOfTransfer id) := by
  obtain ⟨hident, source, hpost⟩ := shipTransfer_posts hc
  obtain ⟨hnonneg, hcents⟩ := shippedValue_priced (costPrice_priced h.priced) h.quantities
  have hproducts := productIn_congr id hident
  have hpriced := priced_of_identity h.priced hident
  obtain ⟨hship, hnone⟩ : db'.shippedTotal id =
        shippedValue (costPrice db.stock) (db.stock.itemsOfTransfer id) ∧
      ∀ e ∈ db'.ledger.events, ofReceipt id e = false := by
    rcases hpost with ⟨_, ev, hev⟩ | ⟨hzero, hledger⟩
    · exact post_shipment hev hcents h.unposted
    · refine ⟨?_, fun e he => ?_⟩
      · rw [le_antisymm (not_lt.mp hzero) hnonneg, TransitDb.shippedTotal, hledger]
        exact Table.sum_eq_zero fun e he => by simp [(h.unposted e he).1]
      · rw [hledger] at he
        exact (h.unposted e he).2
  refine ⟨⟨hproducts, fun e he hre => ?_, hpriced⟩, ?_, hship⟩
  · rw [hnone e he] at hre
    cases hre
  · exact Table.sum_eq_zero fun e he => by simp [hnone e he]

/-- What the receipts of a transfer post equals what its shipment posted exactly if the price changes
since the shipment, weighted with the received quantities, and what was received too much cancel
out. -/
theorem transitCleared_iff {u : Unit} {db₂ : TransitDb} {calls : List TransitCall}
    (h : ReadyToShip id db) (hship : Commits (shipTransfer scope id) db u db')
    (hrun : Run (TransitStep id) db' calls db₂) :
    db₂.receivedTotal id = db₂.shippedTotal id ↔
      priceDrift (costPrice db.stock) (db.stock.itemsOfTransfer id) calls +
        overReceipt (costPrice db.stock) (db.stock.itemsOfTransfer id) calls = 0 := by
  obtain ⟨htransit, hzero, hshipped⟩ := h.shipped hship
  obtain ⟨hre, hsame⟩ := htransit.run hrun
  rw [hre, hsame, hzero, hshipped, sum_value_eq (costPrice db.stock), overReceipt]
  constructor
  · intro heq
    linarith
  · intro heq
    linarith

/-! ### Four units at a cost of 100 -/

lemma priced_of_rows {rows : List Product} (h : db.stock.products.rows = rows)
    (hrows : ∀ p ∈ rows, 0 ≤ p.costPrice ∧ IsCents p.costPrice) : db.Priced := by
  intro p hp
  rw [mem_rows, h] at hp
  exact hrows p hp

lemma approvedUnits_ready : ReadyToShip 1 approvedUnits := by
  refine ⟨fun e he => ?_, ?_, ?_⟩
  · have hnone : approvedUnits.ledger.events.rows = [] := by decide +kernel
    rw [mem_rows, hnone] at he
    cases he
  · decide +kernel
  · have hrows : approvedUnits.stock.products.rows = [{ id := 1, name := "Beras", costPrice := 100 }] :=
      by decide +kernel
    refine priced_of_rows hrows fun p hp => ?_
    obtain rfl := mem_singleton.mp hp
    exact ⟨by norm_num, 10000, by norm_num⟩

def repriced (db : TransitDb) (costPrice : ℚ) : TransitDb :=
  { db with stock := { db.stock with
    products := db.stock.products.put { id := 1, name := "Beras", costPrice } } }

lemma shippedUnits_repriced_priced : (repriced shippedUnits 120).Priced := by
  have hrows : (repriced shippedUnits 120).stock.products.rows =
      [{ id := 1, name := "Beras", costPrice := 120 }] := by decide +kernel
  refine priced_of_rows hrows fun p hp => ?_
  obtain rfl := mem_singleton.mp hp
  exact ⟨by norm_num, 12000, by norm_num⟩

def receiveUnits (n : ℕ) : TransitTx Unit := receiveTransfer branchOne 1 [⟨1, n, []⟩]

lemma receiveUnits_step (n : ℕ) (db : TransitDb) (h : (execute (receiveUnits n) db).1 = .ok ()) :
    TransitStep 1 db (.receive branchOne [⟨1, n, []⟩] (costPrice db.stock))
      (after (receiveUnits n) db) :=
  .receive (commits_after h)

/-- The cost rises to 120 before the four units arrive. -/
theorem costRise_notCleared : ∃ calls db₁ db₂, ReadyToShip 1 approvedUnits ∧
      Commits (shipTransfer branchOne 1) approvedUnits () db₁ ∧
      Run (TransitStep 1) db₁ calls db₂ ∧ db₂.statusOf 1 = some .received ∧
      db₂.receivedTotal 1 ≠ db₂.shippedTotal 1 := by
  have hship : Commits (shipTransfer branchOne 1) approvedUnits () shippedUnits :=
    commits_after (by decide +kernel)
  have hreceive := receiveUnits_step 4 (repriced shippedUnits 120) (by decide +kernel)
  have hprice : TransitStep 1 shippedUnits (.elsewhere (repriced shippedUnits 120))
      (repriced shippedUnits 120) := .elsewhere rfl rfl shippedUnits_repriced_priced
  refine ⟨_, _, _, approvedUnits_ready, hship, .cons hprice (.cons hreceive (.nil _)), ?_, ?_⟩
  · decide +kernel
  · decide +kernel

theorem transitCleared_twoParts : ∃ calls db₂, Run (TransitStep 1) shippedUnits calls db₂ ∧
      db₂.statusOf 1 = some .received ∧ db₂.receivedTotal 1 = db₂.shippedTotal 1 := by
  have hship : Commits (shipTransfer branchOne 1) approvedUnits () shippedUnits :=
    commits_after (by decide +kernel)
  have hfirst := receiveUnits_step 1 shippedUnits (by decide +kernel)
  have hrest := receiveUnits_step 3 (after (receiveUnits 1) shippedUnits) (by decide +kernel)
  have hrun := Run.cons hfirst (Run.cons hrest (Run.nil _))
  refine ⟨_, _, hrun, by decide +kernel, (transitCleared_iff approvedUnits_ready hship hrun).mpr ?_⟩
  decide +kernel

end Mayatoko.Transit
