import Mayatoko.Orders.Coupling
import Mayatoko.Stock.StockFrame

/-!
# Serials of a shipment

Serials are reserved and counted product by product, but a shipment takes them line by line, and every line must
find exactly its own quantity. With one line for each serial product the scanned serials are sold; a second line
makes the first one find too many.
-/

namespace Mayatoko.Orders

open Core Accounting Common Stock
open OrdersDb (stockPart)
open Transit (TenantScope)

variable {tracks : ℕ → Bool} {count : ℕ → ℕ} {seen : List ℕ} {items : List Stock.OrderItem}
  {item : Stock.OrderItem} {shipmentId warehouseId : ℕ} {t : Table InventorySerial.serialNumber}

/-! ### The quantities -/

def orderedOf (items : List Stock.OrderItem) (productId : ℕ) : ℕ :=
  ((items.filter fun i => i.productId = productId).map OrderItem.quantity).sum

/-- After the lines of the products `seen`, every line of a serial product finds its own quantity: all serials of
its product, or none if another line has taken them. -/
def FindsSerials (tracks : ℕ → Bool) (count : ℕ → ℕ) : List ℕ → List Stock.OrderItem → Prop
  | _, [] => True
  | seen, item :: items =>
    (tracks item.productId = true →
      item.quantity = if item.productId ∈ seen then 0 else count item.productId) ∧
    FindsSerials tracks count (item.productId :: seen) items

/-- A line of a serial product is followed by no other one of the product that asks for anything. -/
def OneLineEach (tracks : ℕ → Bool) (items : List Stock.OrderItem) : Prop :=
  items.Pairwise fun a b => tracks a.productId = true → b.productId = a.productId → b.quantity = 0

lemma orderedOf_cons_of_eq : orderedOf (item :: items) item.productId =
    item.quantity + orderedOf items item.productId := by
  simp [orderedOf]

variable {p : ℕ}

lemma orderedOf_cons_of_ne (h : p ≠ item.productId) : orderedOf (item :: items) p = orderedOf items p := by
  simp [orderedOf, Ne.symm h]

lemma orderedOf_eq_zero : orderedOf items p = 0 ↔ ∀ i ∈ items, i.productId = p → i.quantity = 0 := by
  rw [orderedOf, List.sum_eq_zero_iff_forall_eq_nat]
  simp only [List.forall_mem_map, mem_filter, decide_eq_true_eq, and_imp]

lemma oneLineEach_cons : OneLineEach tracks (item :: items) ↔
    (∀ i ∈ items, tracks item.productId = true → i.productId = item.productId → i.quantity = 0) ∧
      OneLineEach tracks items :=
  List.pairwise_cons

/-- Where as many serials are scanned as are ordered, every line finds its quantity exactly if there is only one
line for each serial product. -/
lemma findsSerials_iff (hcount : ∀ p, tracks p = true → p ∉ seen → count p = orderedOf items p) :
    FindsSerials tracks count seen items ↔ OneLineEach tracks items ∧
      ∀ i ∈ items, tracks i.productId = true → i.productId ∈ seen → i.quantity = 0 := by
  induction items generalizing seen with
  | nil => simp [FindsSerials, OneLineEach]
  | cons item items ih =>
    have hrest : ∀ p, tracks p = true → p ∉ item.productId :: seen → count p = orderedOf items p := by
      intro p hp hnew
      rw [mem_cons, not_or] at hnew
      rw [hcount p hp hnew.2, orderedOf_cons_of_ne hnew.1]
    rw [FindsSerials, ih hrest, oneLineEach_cons, forall_mem_cons]
    by_cases hseen : item.productId ∈ seen
    · -- another line has taken the serials of the product
      rw [if_pos hseen]
      constructor
      · rintro ⟨hitem, hone, hzero⟩
        refine ⟨⟨fun i hi htracks hp => ?_, hone⟩, fun htracks _ => hitem htracks, fun i hi htracks hp => ?_⟩
        · exact hzero i hi (hp ▸ htracks) (hp ▸ mem_cons_self)
        · exact hzero i hi htracks (mem_cons_of_mem _ hp)
      · rintro ⟨⟨hsame, hone⟩, hitem, hzero⟩
        refine ⟨fun htracks => hitem htracks hseen, hone, fun i hi htracks hp => ?_⟩
        rcases mem_cons.mp hp with hp | hp
        · exact hsame i hi (hp ▸ htracks) hp
        · exact hzero i hi htracks hp
    · -- this line takes them
      rw [if_neg hseen]
      have hfirst (htracks : tracks item.productId = true) : item.quantity = count item.productId ↔
          ∀ i ∈ items, i.productId = item.productId → i.quantity = 0 := by
        rw [hcount _ htracks hseen, orderedOf_cons_of_eq, ← orderedOf_eq_zero]
        omega
      constructor
      · rintro ⟨hitem, hone, hzero⟩
        refine ⟨⟨fun i hi htracks hp => ?_, hone⟩, fun _ hp => absurd hp hseen, fun i hi htracks hp => ?_⟩
        · exact hzero i hi (hp ▸ htracks) (hp ▸ mem_cons_self)
        · exact hzero i hi htracks (mem_cons_of_mem _ hp)
      · rintro ⟨⟨hsame, hone⟩, _, hzero⟩
        refine ⟨fun htracks => (hfirst htracks).mpr fun i hi => hsame i hi htracks, hone,
          fun i hi htracks hp => ?_⟩
        rcases mem_cons.mp hp with hp | hp
        · exact hsame i hi (hp ▸ htracks) hp
        · exact hzero i hi htracks hp

/-! ### The serials -/

def scannedFor (shipmentId warehouseId : ℕ) (s : InventorySerial) : Bool :=
  s.warehouseId = warehouseId && s.status = .reserved && s.referenceType = some "Shipment" &&
    s.referenceId = some (toString shipmentId)

def tracksSerial (products : Table Product.id) (productId : ℕ) : Bool :=
  (products.find? productId).any Product.trackSerial

def scannedCount (t : Table InventorySerial.serialNumber) (shipmentId warehouseId productId : ℕ) : ℕ :=
  (t.findMany fun s => scannedFor shipmentId warehouseId s && s.productId = productId).length

/-- The serial was scanned, and belongs to a serial product among `productIds`. -/
def taken (tracks : ℕ → Bool) (shipmentId warehouseId : ℕ) (productIds : List ℕ) (s : InventorySerial) : Bool :=
  scannedFor shipmentId warehouseId s && tracks s.productId && s.productId ∈ productIds

lemma serialNumber_sold (s : InventorySerial) : { s with status := .sold }.serialNumber = s.serialNumber := rfl

/-- The scanned serials of the serial products among `productIds` are sold. -/
def sell (tracks : ℕ → Bool) (shipmentId warehouseId : ℕ) (t : Table InventorySerial.serialNumber)
    (productIds : List ℕ) : Table InventorySerial.serialNumber :=
  (t.updateMany (taken tracks shipmentId warehouseId productIds) (fun s => { s with status := .sold })
    serialNumber_sold).1

variable {productIds : List ℕ}

lemma taken_eq_true {s : InventorySerial} : taken tracks shipmentId warehouseId productIds s = true ↔
      scannedFor shipmentId warehouseId s = true ∧ tracks s.productId = true ∧ s.productId ∈ productIds := by
  rw [taken, Bool.and_eq_true, Bool.and_eq_true, decide_eq_true_eq, and_assoc]

lemma not_scannedFor_sold {s : InventorySerial} :
    scannedFor shipmentId warehouseId { s with status := .sold } = false := by
  simp [scannedFor]

lemma sell_rows : (sell tracks shipmentId warehouseId t productIds).rows =
    t.rows.map fun s => if taken tracks shipmentId warehouseId productIds s then { s with status := .sold }
      else s := rfl

lemma sell_nil : sell tracks shipmentId warehouseId t [] = t := by
  refine Table.updateMany_of_not fun s _ => ?_
  rw [Bool.eq_false_iff]
  exact fun h => not_mem_nil (taken_eq_true.mp h).2.2

lemma sell_sell : sell tracks shipmentId warehouseId (sell tracks shipmentId warehouseId t seen) [p] =
      sell tracks shipmentId warehouseId t (p :: seen) := by
  ext1
  rw [sell_rows, sell_rows, sell_rows, map_map]
  refine map_congr_left fun s _ => ?_
  rw [Function.comp_apply]
  by_cases hseen : taken tracks shipmentId warehouseId seen s = true
  · obtain ⟨hscanned, htracks, hmem⟩ := taken_eq_true.mp hseen
    rw [if_pos hseen, if_neg fun h => ?_, if_pos]
    · exact taken_eq_true.mpr ⟨hscanned, htracks, mem_cons_of_mem p hmem⟩
    · have hsold := (taken_eq_true.mp h).1
      rw [not_scannedFor_sold] at hsold
      cases hsold
  · rw [if_neg hseen]
    refine if_congr ?_ rfl rfl
    rw [taken_eq_true] at hseen
    rw [taken_eq_true, taken_eq_true, mem_singleton, mem_cons]
    tauto

lemma scannedCount_sell (hp : tracks p = true) :
    scannedCount (sell tracks shipmentId warehouseId t seen) shipmentId warehouseId p =
      if p ∈ seen then 0 else scannedCount t shipmentId warehouseId p := by
  rw [scannedCount, Table.findMany, sell_rows, List.filter_map, length_map]
  split
  next hmem =>
    rw [List.length_eq_zero_iff, filter_eq_nil_iff]
    intro s _ hs
    rw [Function.comp_apply, Bool.and_eq_true, decide_eq_true_eq] at hs
    by_cases htaken : taken tracks shipmentId warehouseId seen s = true
    · rw [if_pos htaken, not_scannedFor_sold] at hs
      cases hs.1
    · rw [if_neg htaken] at hs
      obtain ⟨hscanned, rfl⟩ := hs
      exact htaken (taken_eq_true.mpr ⟨hscanned, hp, hmem⟩)
  next hmem =>
    rw [scannedCount, Table.findMany]
    congr 1
    refine filter_congr fun s _ => ?_
    rw [Function.comp_apply]
    by_cases htaken : taken tracks shipmentId warehouseId seen s = true
    · have hne : s.productId ≠ p := fun hs => hmem (hs ▸ (taken_eq_true.mp htaken).2.2)
      rw [if_pos htaken, not_scannedFor_sold, decide_eq_false hne, Bool.and_false, Bool.and_false]
    · rw [if_neg htaken]

lemma mem_scanned_iff {s : InventorySerial} (hs : s ∈ t) :
    (((t.findMany fun s => s.warehouseId = warehouseId && s.productId = p && (s.status = .reserved &&
        s.referenceType = some "Shipment" && s.referenceId = some (toString shipmentId))).map
          InventorySerial.serialNumber).contains s.serialNumber && (s.status = .reserved &&
        s.referenceType = some "Shipment" && s.referenceId = some (toString shipmentId))) =
      (scannedFor shipmentId warehouseId s && s.productId = p) := by
  rw [Bool.eq_iff_iff]
  simp only [scannedFor, cond_iff, List.contains_iff_mem, mem_map, mem_findMany]
  constructor
  · rintro ⟨⟨s', ⟨hs', hfound⟩, hkey⟩, hreserved⟩
    obtain rfl := eq_of_key_eq hs hs' hkey.symm
    tauto
  · intro h
    exact ⟨⟨s, ⟨hs, by tauto⟩, rfl⟩, by tauto⟩

/-- A line takes the serials of its product, if it is a serial product. -/
lemma shipSerials_commits {db db' : Stock.Db} {u : Unit} :
    Commits (shipSerials shipmentId warehouseId item) db u db' ↔
      (tracksSerial db.products item.productId = true →
        item.quantity = scannedCount db.serials shipmentId warehouseId item.productId) ∧
      db' = { db with
        serials := sell (tracksSerial db.products) shipmentId warehouseId db.serials [item.productId] } := by
  rw [shipSerials, commits_get_bind]
  by_cases htracks : (db.products.find? item.productId).any Product.trackSerial = true
  · have htaken : ∀ s ∈ db.serials, taken (tracksSerial db.products) shipmentId warehouseId [item.productId] s =
        (scannedFor shipmentId warehouseId s && s.productId = item.productId) := by
      intro s _
      rw [Bool.eq_iff_iff, taken_eq_true, Bool.and_eq_true, decide_eq_true_eq, mem_singleton]
      refine and_congr_right fun _ => ⟨And.right, fun hs => ⟨?_, hs⟩⟩
      rw [hs]
      exact htracks
    have hfound : (db.serials.findMany fun s => s.warehouseId = warehouseId && s.productId = item.productId &&
        (s.status = .reserved && s.referenceType = some "Shipment" &&
          s.referenceId = some (toString shipmentId))).length =
        scannedCount db.serials shipmentId warehouseId item.productId := by
      refine congrArg List.length (filter_congr fun s _ => ?_)
      rw [Bool.eq_iff_iff]
      simp only [scannedFor, cond_iff]
      tauto
    have hupdate := Table.updateMany_congr (fun s => { s with status := .sold }) (fun _ => rfl)
      fun s hs => (mem_scanned_iff hs).trans (htaken s hs).symm
    rw [if_pos htracks, commits_require_bind]
    dsimp only
    rw [hfound]
    simp only [commits_bind, TableOf.commits_updateMany, commits_require]
    constructor
    · rintro ⟨hlength, n, _, ⟨_, rfl⟩, _, rfl⟩
      refine ⟨fun _ => hlength.symm, ?_⟩
      rw [sell, ← hupdate]
      rfl
    · rintro ⟨hlength, rfl⟩
      refine ⟨(hlength htracks).symm, _, _, ⟨rfl, rfl⟩, ?_, ?_⟩
      · exact (congrArg Prod.snd hupdate).trans (congrArg List.length (filter_congr htaken))
      · rw [sell, ← hupdate]
        rfl
  · have hnone : sell (tracksSerial db.products) shipmentId warehouseId db.serials [item.productId] =
        db.serials := by
      refine Table.updateMany_of_not fun s _ => ?_
      rw [Bool.eq_false_iff]
      intro hs
      obtain ⟨_, hs, hmem⟩ := taken_eq_true.mp hs
      exact htracks (mem_singleton.mp hmem ▸ hs)
    rw [if_neg htracks, commits_pure, hnone]
    exact ⟨fun h => ⟨fun h' => absurd h' htracks, h.2.symm⟩, fun h => ⟨rfl, h.2.symm⟩⟩

/-! ### The loop -/

def serialPart : Part Stock.Db (Table InventorySerial.serialNumber) where
  get := Db.serials
  set := fun db serials => { db with serials }

lemma shipOrderBatches_ignores {order : Stock.Order} (t : Table InventorySerial.serialNumber) :
    Ignores (fun db => serialPart.set db t) (shipOrderBatches order item) := by
  have hbatch : Db.inventoryBatch.Unread fun db => serialPart.set db t := ⟨fun _ => rfl, fun _ _ => rfl⟩
  refine ignores_get_bind (fun _ => rfl) fun _ => Ignores.ite ?_ ignores_pure
  refine ignores_get_bind (fun _ => rfl) fun _ => (Ignores.allocate fun _ _ => ?_).bind fun _ => ignores_require
  exact ignores_pure.ite (hbatch.updateOne.bind fun _ => ignores_pure)

lemma shipOrderBatches_leaves {τ : Type} {f : Stock.Db → τ} {order : Stock.Order}
    (hf : Db.inventoryBatch.Apart f) : Leaves f (shipOrderBatches order item) := by
  refine leaves_get.bind fun _ => Leaves.ite ?_ leaves_pure
  refine leaves_get.bind fun _ => (Leaves.allocate fun _ _ => ?_).bind fun _ => leaves_require
  exact leaves_pure.ite (hf.updateOne.bind fun _ => leaves_pure)

/-- The goods of one line leave: its batches as they would without the serials, and its serials. -/
lemma shipItem_commits {order : Stock.Order} {db db' : Stock.Db} : Commits (do
        shipOrderBatches order item
        shipSerials shipmentId warehouseId item)
      (serialPart.set db (sell (tracksSerial db.products) shipmentId warehouseId t seen)) () db' ↔
    (tracksSerial db.products item.productId = true → item.quantity =
        if item.productId ∈ seen then 0 else scannedCount t shipmentId warehouseId item.productId) ∧
      ∃ db₁, db₁.products = db.products ∧ Commits (shipOrderBatches order item) db () db₁ ∧
        db' = serialPart.set db₁ (sell (tracksSerial db₁.products) shipmentId warehouseId t
          (item.productId :: seen)) := by
  have hbatches {u : Stock.Db} : Commits (shipOrderBatches order item)
      (serialPart.set db (sell (tracksSerial db.products) shipmentId warehouseId t seen)) () u ↔
      ∃ db₁, Commits (shipOrderBatches order item) db () db₁ ∧
        serialPart.set db₁ (sell (tracksSerial db.products) shipmentId warehouseId t seen) = u :=
    Ignores.commits_set (fun _ => rfl) (fun _ _ _ => rfl) shipOrderBatches_ignores
      (shipOrderBatches_leaves ⟨fun _ _ => rfl⟩)
  have hkeeps {db₁ : Stock.Db} (h : Commits (shipOrderBatches order item) db () db₁) :
      db₁.products = db.products :=
    shipOrderBatches_leaves ⟨fun _ _ => rfl⟩ _ _ _ h
  -- what the serials of the line look for after the batches
  have hserials {db₁ : Stock.Db} (hproducts : db₁.products = db.products) : Commits
      (shipSerials shipmentId warehouseId item)
        (serialPart.set db₁ (sell (tracksSerial db.products) shipmentId warehouseId t seen)) () db' ↔
      (tracksSerial db.products item.productId = true → item.quantity =
        if item.productId ∈ seen then 0 else scannedCount t shipmentId warehouseId item.productId) ∧
      db' = serialPart.set db₁ (sell (tracksSerial db₁.products) shipmentId warehouseId t
        (item.productId :: seen)) := by
    rw [shipSerials_commits]
    simp only [serialPart, hproducts, sell_sell]
    refine and_congr_left fun _ => imp_congr_right fun htracks => ?_
    rw [scannedCount_sell htracks]
  rw [commits_bind]
  constructor
  · rintro ⟨_, u, hfirst, hserial⟩
    obtain ⟨db₁, hbatch, rfl⟩ := hbatches.mp hfirst
    obtain ⟨hfinds, rfl⟩ := (hserials (hkeeps hbatch)).mp hserial
    exact ⟨hfinds, db₁, hkeeps hbatch, hbatch, rfl⟩
  · rintro ⟨hfinds, db₁, hproducts, hbatch, hdb'⟩
    exact ⟨(), _, hbatches.mpr ⟨db₁, hbatch, rfl⟩, (hserials hproducts).mpr ⟨hfinds, hdb'⟩⟩

/-- The goods of the lines leave: their batches as they would without the serials, and the serials if every line
finds its own. -/
lemma shipItems_commits {order : Stock.Order} {db db' : Stock.Db} : Commits (items.forM fun item => do
        shipOrderBatches order item
        shipSerials shipmentId warehouseId item)
      (serialPart.set db (sell (tracksSerial db.products) shipmentId warehouseId t seen)) () db' ↔
    FindsSerials (tracksSerial db.products) (scannedCount t shipmentId warehouseId) seen items ∧
      ∃ db₁, Commits (items.forM (shipOrderBatches order)) db () db₁ ∧
        db' = serialPart.set db₁ (sell (tracksSerial db.products) shipmentId warehouseId t
          ((items.map OrderItem.productId).reverse ++ seen)) := by
  induction items generalizing db seen with
  | nil =>
    simp only [commits_forM_nil, FindsSerials, List.map_nil, List.reverse_nil, nil_append, true_and,
      exists_eq_left', eq_comm]
  | cons item items ih =>
    simp only [commits_forM_cons, shipItem_commits, FindsSerials, map_cons, List.reverse_cons,
      append_assoc, List.singleton_append]
    constructor
    · rintro ⟨_, ⟨hfinds, db₁, hproducts, hbatch, rfl⟩, hrest⟩
      obtain ⟨hall, db₂, hbatches, rfl⟩ := ih.mp hrest
      rw [hproducts] at hall ⊢
      exact ⟨⟨hfinds, hall⟩, db₂, ⟨db₁, hbatch, hbatches⟩, rfl⟩
    · rintro ⟨⟨hfinds, hall⟩, db₂, ⟨db₁, hbatch, hbatches⟩, rfl⟩
      have hproducts : db₁.products = db.products := shipOrderBatches_leaves ⟨fun _ _ => rfl⟩ _ _ _ hbatch
      refine ⟨_, ⟨hfinds, db₁, hproducts, hbatch, rfl⟩, ih.mpr ?_⟩
      rw [hproducts]
      exact ⟨hall, db₂, hbatches, rfl⟩

/-! ### The shipment -/

variable {scope : TenantScope} {id : ℕ} {dto : DispatchOrder} {db db' : OrdersDb} {order : Order}
  {s : Shipment} {payment : Payment}

/-- A packed order that can be shipped, apart from its serials: its shipment is ready, carrier and payment are
right, its stock and batches suffice, and the ledger takes the event. -/
structure Shippable (scope : TenantScope) (id : ℕ) (dto : DispatchOrder) (db : OrdersDb) (order : Order)
    (s : Shipment) (payment : Payment) : Prop where
  foundOrder : Commits (findOrder scope id) db order db
  packed : order.status = .packed
  foundShipment : Commits (findShipment order.id order.warehouseId) db (some s) db
  ready : s.status = .ready
  carrier : Commits (checkDispatch scope order s dto) db () db
  foundPayment : Commits (firstPayment order (.badRequest "Pembayaran pesanan tidak ditemukan.")) db
    payment db
  paid : payment.status = .paid ∨ payment.method ∈ ["COD", "INVOICE"]
  goods : ∃ stock, Commits (order.lines.forM (shipOrderProduct order.stockOrder)) db.stock () stock ∧
    ∃ stock', Commits (order.stockOrder.items.forM (shipOrderBatches order.stockOrder)) stock () stock'
  event : ∃ event ledger,
    Commits (postOperationalEvent (fulfilledEvent scope order payment)) db.ledger event ledger

def Scanned (db : Stock.Db) (order : Order) (shipmentId : ℕ) : Prop :=
  ∀ p, tracksSerial db.products p = true →
    scannedCount db.serials shipmentId order.warehouseId p = orderedOf order.stockOrder.items p

def ShipsScanned (scope : TenantScope) (id : ℕ) (dto : DispatchOrder) (db : OrdersDb) (order : Order)
    (s : Shipment) : Prop :=
  ∃ db', Commits (ship scope id dto) db () db' ∧ db'.stock.serials.rows = db.stock.serials.rows.map fun x =>
    if scannedFor s.id order.warehouseId x && tracksSerial db.stock.products x.productId then
      { x with status := .sold }
    else x

/-- A shippable order is shipped if what it writes commits. -/
lemma Shippable.ship_iff (h : Shippable scope id dto db order s payment) :
    Commits (ship scope id dto) db () db' ↔ Commits (dispatchOrder scope order payment s dto) db () db' := by
  have hopen : ¬ (order.status = .shipped ∨ order.status = .completed) := by
    rw [h.packed]
    decide
  constructor
  · intro hc
    obtain ⟨order', _, horder, hc⟩ := commits_bind.mp hc
    obtain ⟨rfl, rfl⟩ := h.foundOrder.unique horder
    rw [if_neg hopen] at hc
    obtain ⟨_, hc⟩ := commits_require_bind.mp hc
    obtain ⟨found, _, hshipment, hc⟩ := commits_bind.mp hc
    obtain ⟨rfl, rfl⟩ := h.foundShipment.unique hshipment
    obtain ⟨s', hs, hc⟩ := commits_orThrow_bind.mp hc
    obtain rfl := Option.some.inj hs
    obtain ⟨_, hc⟩ := commits_require_bind.mp hc
    obtain ⟨_, _, hcarrier, hc⟩ := commits_bind.mp hc
    obtain rfl := (h.carrier.unique hcarrier).2
    obtain ⟨payment', _, hpayment, hc⟩ := commits_bind.mp hc
    obtain ⟨rfl, rfl⟩ := h.foundPayment.unique hpayment
    exact (commits_require_bind.mp hc).2
  · intro hc
    refine commits_bind.mpr ⟨order, db, h.foundOrder, ?_⟩
    rw [if_neg hopen]
    refine commits_require_bind.mpr ⟨h.packed, commits_bind.mpr ⟨some s, db, h.foundShipment, ?_⟩⟩
    refine commits_orThrow_bind.mpr ⟨s, rfl, commits_require_bind.mpr ⟨h.ready, ?_⟩⟩
    refine commits_bind.mpr ⟨(), db, h.carrier, commits_bind.mpr ⟨payment, db, h.foundPayment, ?_⟩⟩
    exact commits_require_bind.mpr ⟨h.paid, hc⟩

lemma shipOrderProduct_leaves {τ : Type} {f : Stock.Db → τ} {o : Stock.Order} {line : ℕ × ℕ}
    (hlocations : OffLocations f) (hinventory : Db.inventoryRow.Apart f)
    (hmovements : ∀ db movements, f { db with movements } = f db) : Leaves f (shipOrderProduct o line) := by
  refine hlocations.consumeLocationReservations.bind fun _ => leaves_get.bind fun _ => ?_
  refine hinventory.updateOne.bind fun _ => leaves_get.bind fun _ => leaves_orThrow.bind fun _ => ?_
  intro db _ db' h
  obtain rfl := commits_modify.mp h
  exact hmovements _ _

lemma commits_shipItems {items : List Stock.OrderItem} {u : Unit} : Commits (items.forM fun item => do
        stockPart.lift (shipOrderBatches order.stockOrder item)
        stockPart.lift (shipSerials s.id order.warehouseId item)) db u db' ↔
      ∃ stock, Commits (items.forM fun item => do
        shipOrderBatches order.stockOrder item
        shipSerials s.id order.warehouseId item) db.stock u stock ∧ { db with stock } = db' := by
  have hlift : (fun item => do
      stockPart.lift (shipOrderBatches order.stockOrder item)
      stockPart.lift (shipSerials s.id order.warehouseId item)) = fun item => stockPart.lift (do
        shipOrderBatches order.stockOrder item
        shipSerials s.id order.warehouseId item) := by
    funext item
    exact Part.lift_bind fun _ _ _ => rfl
  rw [hlift]
  exact Part.commits_forM_lift (P := stockPart) (fun _ => rfl) fun _ _ _ => rfl

lemma mem_of_findShipment {orderId warehouseId : ℕ}
    (h : Commits (findShipment orderId warehouseId) db (some s) db') :
    s ∈ db.shipments := by
  rw [findShipment, commits_get_bind] at h
  exact (mem_findMany.mp (List.mem_of_mem_head? (commits_pure.mp h).1)).1

/-- The two loops on the stock of a shippable order: the quantities leave, and then the items if every line finds
its serials. -/
lemma Shippable.goods_commits (h : Shippable scope id dto db order s payment) :
    ∃ stock stock', Commits (order.lines.forM (shipOrderProduct order.stockOrder)) db.stock () stock ∧
      ∀ v, Commits (order.stockOrder.items.forM fun item => do
          shipOrderBatches order.stockOrder item
          shipSerials s.id order.warehouseId item) stock () v ↔
        FindsSerials (tracksSerial db.stock.products)
          (scannedCount db.stock.serials s.id order.warehouseId) [] order.stockOrder.items ∧
        v = serialPart.set stock' (sell (tracksSerial db.stock.products) s.id order.warehouseId
          db.stock.serials (order.stockOrder.items.map OrderItem.productId).reverse) := by
  obtain ⟨stock, hlines, stock', hbatches⟩ := h.goods
  have hserials : stock.serials = db.stock.serials :=
    Leaves.forM (fun _ => shipOrderProduct_leaves ⟨fun _ _ _ _ _ _ => rfl⟩ ⟨fun _ _ => rfl⟩ fun _ _ => rfl)
      _ _ _ hlines
  have hproducts : stock.products = db.stock.products :=
    Leaves.forM (fun _ => shipOrderProduct_leaves ⟨fun _ _ _ _ _ _ => rfl⟩ ⟨fun _ _ => rfl⟩ fun _ _ => rfl)
      _ _ _ hlines
  have hset : serialPart.set stock db.stock.serials = stock := by
    rw [← hserials]
    rfl
  refine ⟨stock, stock', hlines, fun v => ?_⟩
  have hitems := @shipItems_commits [] order.stockOrder.items s.id order.warehouseId db.stock.serials
    order.stockOrder stock v
  rw [sell_nil, hset, hproducts, append_nil] at hitems
  rw [hitems]
  refine and_congr_right fun _ => ⟨?_, fun hv => ⟨stock', hbatches, hv⟩⟩
  rintro ⟨stock₁, hbatches₁, hv⟩
  obtain rfl := (hbatches.unique hbatches₁).2
  exact hv

lemma Shippable.finds_of_dispatch (h : Shippable scope id dto db order s payment)
    (hc : Commits (dispatchOrder scope order payment s dto) db () db') :
    FindsSerials (tracksSerial db.stock.products)
      (scannedCount db.stock.serials s.id order.warehouseId) [] order.stockOrder.items := by
  obtain ⟨stock, stock', hlines, hitems⟩ := h.goods_commits
  obtain ⟨_, _, hfirst, hc⟩ := commits_bind.mp hc
  obtain ⟨stock₁, hlines₁, rfl⟩ := (Part.commits_forM_lift (fun _ => rfl) fun _ _ _ => rfl).mp hfirst
  obtain rfl := (hlines.unique hlines₁).2
  obtain ⟨_, _, hloop, _⟩ := commits_bind.mp hc
  obtain ⟨stock₂, hloop, _⟩ := commits_shipItems.mp hloop
  exact ((hitems stock₂).mp hloop).1

lemma Shippable.dispatch_of_finds (h : Shippable scope id dto db order s payment)
    (hfinds : FindsSerials (tracksSerial db.stock.products)
      (scannedCount db.stock.serials s.id order.warehouseId) [] order.stockOrder.items) :
    ∃ db', Commits (dispatchOrder scope order payment s dto) db () db' ∧
      db'.stock.serials = sell (tracksSerial db.stock.products) s.id order.warehouseId db.stock.serials
        (order.stockOrder.items.map OrderItem.productId).reverse := by
  obtain ⟨stock, stock', hlines, hitems⟩ := h.goods_commits
  obtain ⟨event, ledger, hevent⟩ := h.event
  have hloop := (hitems _).mpr ⟨hfinds, rfl⟩
  have hfindShipment := find?_of_mem (mem_of_findShipment h.foundShipment)
  have hfindOrder := find?_of_mem (findOrder_commits h.foundOrder).1
  have hfirst : Commits (order.lines.forM fun line => stockPart.lift (shipOrderProduct order.stockOrder line))
      db () { db with stock } :=
    (Part.commits_forM_lift (fun _ => rfl) fun _ _ _ => rfl).mpr ⟨stock, hlines, rfl⟩
  exact ⟨_, commits_bind.mpr ⟨(), _, hfirst, commits_bind.mpr ⟨(), _, commits_shipItems.mpr ⟨_, hloop, rfl⟩,
    commits_bind.mpr ⟨event, _, Part.commits_lift.mpr ⟨ledger, hevent, rfl⟩,
    commits_bind.mpr ⟨_, _, TableOf.commits_update.mpr ⟨s, hfindShipment, rfl, rfl⟩,
    commits_bind.mpr ⟨_, _, TableOf.commits_update.mpr ⟨order, hfindOrder, rfl, rfl⟩,
    commits_pure.mpr ⟨rfl, rfl⟩⟩⟩⟩⟩⟩, rfl⟩

lemma Scanned.mem_items (h : Scanned db.stock order s.id) {x : InventorySerial} (hx : x ∈ db.stock.serials)
    (hscanned : scannedFor s.id order.warehouseId x = true)
    (htracks : tracksSerial db.stock.products x.productId = true) :
    x.productId ∈ order.stockOrder.items.map OrderItem.productId := by
  by_contra hnot
  have hzero : orderedOf order.stockOrder.items x.productId = 0 :=
    orderedOf_eq_zero.mpr fun i hi hp => absurd (hp ▸ mem_map_of_mem hi) hnot
  rw [← h x.productId htracks, scannedCount, List.length_eq_zero_iff] at hzero
  have hmem : x ∈ db.stock.serials.findMany fun y => scannedFor s.id order.warehouseId y &&
      y.productId = x.productId :=
    mem_findMany.mpr ⟨hx, by rw [hscanned, decide_eq_true rfl, Bool.and_self]⟩
  rw [hzero] at hmem
  exact not_mem_nil hmem

/-- An order that can be shipped, and for which as many serials are scanned as it asks for, is shipped with
exactly those serials if and only if it has one line for each serial product. -/
theorem shipsScanned_iff (h : Shippable scope id dto db order s payment) (hscan : Scanned db.stock order s.id) :
    ShipsScanned scope id dto db order s ↔
      OneLineEach (tracksSerial db.stock.products) order.stockOrder.items := by
  have hfinds : FindsSerials (tracksSerial db.stock.products)
      (scannedCount db.stock.serials s.id order.warehouseId) [] order.stockOrder.items ↔ _ :=
    findsSerials_iff fun p hp _ => hscan p hp
  rw [ShipsScanned]
  constructor
  · rintro ⟨db', hc, _⟩
    exact (hfinds.mp (h.finds_of_dispatch (h.ship_iff.mp hc))).1
  · intro hone
    obtain ⟨db', hc, hserials⟩ := h.dispatch_of_finds (hfinds.mpr ⟨hone, fun _ _ _ hmem => by cases hmem⟩)
    refine ⟨db', h.ship_iff.mpr hc, ?_⟩
    rw [hserials, sell_rows]
    refine map_congr_left fun x hx => if_congr ?_ rfl rfl
    rw [taken_eq_true, List.mem_reverse, Bool.and_eq_true]
    exact ⟨fun hx => ⟨hx.1, hx.2.1⟩, fun hs => ⟨hs.1, hs.2, hscan.mem_items hx hs.1 hs.2⟩⟩

def laptops (quantities : List ℕ) : Order where
  id := 3
  number := "ORD-3"
  branchId := 1
  warehouseId := 1
  status := .packed
  total := 20
  items := quantities.map fun quantity => { productId := 7, quantity }

def cashOnDelivery : Payment where
  id := 4
  number := "PAY-4"
  orderId := some 3
  method := "COD"
  amount := 20

def readyShipment : Shipment where
  id := 5
  orderId := some 3
  warehouseId := 1
  status := .ready

def courier : DispatchOrder where
  carrier := some "JNE"
  trackingNumber := some "1"

def laptopShop (quantities : List ℕ) : OrdersDb :=
  { OrdersDb.empty with
    stock := { Stock.Db.empty with
      products := Table.empty.put { id := 7, name := "Laptop", trackSerial := true }
      inventory := Table.empty.put { warehouseId := 1, productId := 7, quantity := 2, reserved := 2 }
      serials := (Table.empty.put ⟨"SN-1", 1, 7, .reserved, some "Shipment", some "5"⟩).put
        ⟨"SN-2", 1, 7, .reserved, some "Shipment", some "5"⟩ }
    ledger := { AccountingDb.empty with
      postingRules := Table.empty.put
        { id := 1, companyId := 1, code := "ORDER", eventType := "ONLINE_ORDER_CREDIT_FULFILLED"
          status := .active
          journalLines := [
            { accountCode := "", accountCodeKey := "receivable", side := "DEBIT", amountKey := "gross" },
            { accountCode := "", accountCodeKey := "revenue", side := "CREDIT", amountKey := "gross" }] }
      accounts := (Table.empty.put ⟨1, 1, "1203", true⟩).put ⟨2, 1, "4101", true⟩ }
    branches := Table.empty.put { id := 1, companyId := 1, code := "PUSAT" }
    warehouses := Table.empty.put { id := 1, branchId := 1 }
    orders := Table.empty.put (laptops quantities)
    payments := Table.empty.put cashOnDelivery
    shipments := Table.empty.put readyShipment }

def afterLines (quantities : List ℕ) : Except Failure Unit × Stock.Db :=
  execute ((laptops quantities).lines.forM (shipOrderProduct (laptops quantities).stockOrder))
    (laptopShop quantities).stock

variable {quantities : List ℕ}

lemma laptopShop_shippable (hlines : (afterLines quantities).1 = .ok ())
    (hbatches : (execute ((laptops quantities).stockOrder.items.forM
      (shipOrderBatches (laptops quantities).stockOrder)) (afterLines quantities).2).1 = .ok ())
    (hevent : (execute (postOperationalEvent (fulfilledEvent ⟨1, 1⟩ (laptops quantities) cashOnDelivery))
      (laptopShop quantities).ledger).1 =
        .ok (postedEvent (fulfilledEvent ⟨1, 1⟩ (laptops quantities) cashOnDelivery) 0 0)) :
    Shippable ⟨1, 1⟩ 3 courier (laptopShop quantities) (laptops quantities) readyShipment cashOnDelivery where
  foundOrder := commits_get_bind.mpr (commits_orThrow.mpr ⟨rfl, rfl⟩)
  packed := rfl
  foundShipment := commits_get_bind.mpr (commits_pure.mpr ⟨rfl, rfl⟩)
  ready := rfl
  carrier := rfl
  foundPayment := commits_get_bind.mpr (commits_orThrow.mpr ⟨rfl, rfl⟩)
  paid := Or.inr (by decide)
  goods := ⟨_, commits_of_execute hlines, _, commits_of_execute hbatches⟩
  event := ⟨_, _, commits_of_execute hevent⟩

lemma laptopShop_scanned
    (hquantity : orderedOf (laptops quantities).stockOrder.items 7 = 2) :
    Scanned (laptopShop quantities).stock (laptops quantities) 5 := by
  intro p hp
  by_cases hseven : p = 7
  · subst hseven
    rw [hquantity]
    exact (by decide +kernel : scannedCount (laptopShop []).stock.serials 5 1 7 = 2)
  · have hnone : (laptopShop quantities).stock.products.find? p = none := by
      refine find?_eq_none.mpr fun r hr => ?_
      rcases mem_put.mp hr with rfl | ⟨hr, _⟩
      · exact Ne.symm hseven
      · exact absurd hr (not_mem_empty r)
    rw [tracksSerial, hnone] at hp
    cases hp

/-- Two lines of one laptop each, for which two serials are scanned, cannot be shipped. -/
theorem shipsScanned_wrong_twoLines :
    Shippable ⟨1, 1⟩ 3 courier (laptopShop [1, 1]) (laptops [1, 1]) readyShipment cashOnDelivery ∧
      Scanned (laptopShop [1, 1]).stock (laptops [1, 1]) 5 ∧
      ¬ ShipsScanned ⟨1, 1⟩ 3 courier (laptopShop [1, 1]) (laptops [1, 1]) readyShipment := by
  refine ⟨laptopShop_shippable (by decide +kernel) (by decide +kernel) (by decide +kernel),
    laptopShop_scanned (by decide +kernel), ?_⟩
  rintro ⟨db, hc, _⟩
  have hthrows : (execute (ship ⟨1, 1⟩ 3 courier) (laptopShop [1, 1])).1 = .error (.badRequest
      "Serial Laptop harus discan tepat 1 unit sebelum shipment.") := by
    decide +kernel
  rw [execute_of_commits hc] at hthrows
  cases hthrows

theorem shipsScanned_oneLine :
    Shippable ⟨1, 1⟩ 3 courier (laptopShop [2]) (laptops [2]) readyShipment cashOnDelivery ∧
      Scanned (laptopShop [2]).stock (laptops [2]) 5 ∧
      ShipsScanned ⟨1, 1⟩ 3 courier (laptopShop [2]) (laptops [2]) readyShipment := by
  have hshippable : Shippable ⟨1, 1⟩ 3 courier (laptopShop [2]) (laptops [2]) readyShipment cashOnDelivery :=
    laptopShop_shippable (by decide +kernel) (by decide +kernel) (by decide +kernel)
  have hscanned : Scanned (laptopShop [2]).stock (laptops [2]) 5 := laptopShop_scanned (by decide +kernel)
  exact ⟨hshippable, hscanned, (shipsScanned_iff hshippable hscanned).mpr (List.pairwise_singleton _ _)⟩

end Mayatoko.Orders
